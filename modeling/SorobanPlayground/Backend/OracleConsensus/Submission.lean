import SorobanPlayground.Backend.OracleConsensus.Node

/-! # Submissions and results

The submission lock is held until the leader has submitted, and no longer: a run that tries for it
later leads once more.
-/

namespace SorobanPlayground.Backend.OracleConsensus

variable {Node Run Vote : Type} [DecidableEq Node] [DecidableEq Run] [DecidableEq Vote]

/-- A run that has the submission lock and has not submitted. -/
def Phase.Leading : Phase Node Vote → Prop
  | .electing _ (some true) | .elected _ true _ | .submitting _ _ => True
  | _ => False

def Phase.Locking (phase : Phase Node Vote) : Prop :=
  phase.Leading ∨ ∃ vote tally submitted, phase = .releasing vote tally submitted false

def Phase.tries : Phase Node Vote → Bool
  | .electing _ none => true
  | _ => false

/-- A free submission lock is not taken after a submission that has succeeded. -/
def InTime (state : State Node Run Vote) : Event Run Vote → Prop
  | .execute run => (state.phase run).tries = true → state.lock = none → state.submissions = []
  | _ => True

instance (state : State Node Run Vote) (event : Event Run Vote) :
    Decidable (InTime state event) :=
  match event with
  | .execute run => inferInstanceAs (Decidable ((state.phase run).tries = true →
      state.lock = none → state.submissions = []))
  | .call _ | .validated _ _ | .validationFails _ | .resume _ | .submitted _
  | .submissionFails _ | .storeFails _ => inferInstanceAs (Decidable True)

/-- At most one submission, and no leader after it. -/
structure Once (state : State Node Run Vote) : Prop where
  locked : ∀ run, (state.phase run).Locking → state.lock = some run
  once : state.submissions.length ≤ 1
  ended : state.submissions ≠ [] → ∀ run, ¬ (state.phase run).Leading

/-- Every stored vote is the one that its node always casts. -/
def Cast (voteOf : Node → Vote) (votes : Votes Node Vote) : Prop :=
  ∀ node vote, votes.get node = some vote → vote = voteOf node

/-- A node casts the vote that it always casts. -/
def Consistent (config : Config Node Run Vote) (voteOf : Node → Vote) (_ : State Node Run Vote) :
    Event Run Vote → Prop
  | .validated run vote => vote = voteOf (config.nodeOf run)
  | _ => True

/-- The quorum that a run goes on with. -/
def Phase.quorum : Phase Node Vote → Option Vote
  | .electing vote _ | .elected vote _ _ | .submitting vote _ | .releasing vote _ _ _
  | .done (.follower vote _) | .done (.leader vote _ _) => some vote
  | _ => none

def Phase.resultVote : Phase Node Vote → Option Vote
  | .done (.follower vote _) | .done (.leader vote _ _) => some vote
  | _ => none

/-- All results of leaders and followers carry the same vote. -/
def Agree (state : State Node Run Vote) : Prop :=
  ∀ first second one two, (state.phase first).resultVote = some one →
    (state.phase second).resultVote = some two → one = two

variable [Fintype Node]

/-- What a run knows fits the votes that the nodes always cast. -/
structure Phase.Fits (config : Config Node Run Vote) (voteOf : Node → Vote) (run : Run)
    (phase : Phase Node Vote) : Prop where
  registering : ∀ vote stored, phase = .registering vote stored → vote = voteOf (config.nodeOf run)
  checking : ∀ votes, phase = .checking (some votes) → Cast voteOf votes
  quorum : ∀ vote, phase.quorum = some vote →
    config.threshold ≤ ∑ node with voteOf node = vote, config.weight node

/-- The stored votes and all runs fit the votes that the nodes always cast. -/
structure Fitting (config : Config Node Run Vote) (voteOf : Node → Vote)
    (state : State Node Run Vote) : Prop where
  cast : Cast voteOf state.votes
  runs : ∀ run, (state.phase run).Fits config voteOf run

variable (config : Config Node Run Vote)

/-- What a step does to the stores, the submissions and one run. -/
inductive Effect (state : State Node Run Vote) : Event Run Vote → State Node Run Vote → Prop
  | moved (event : Event Run Vote) (run : Run) (phase : Phase Node Vote)
      (locking : phase.Locking → (state.phase run).Locking)
      (leading : phase.Leading → (state.phase run).Leading)
      (fits : ∀ voteOf, (∀ node, 0 ≤ config.weight node) → Consistent config voteOf state event →
        Cast voteOf state.votes → (state.phase run).Fits config voteOf run →
        phase.Fits config voteOf run) :
      Effect state event (state.move run phase)
  | stored (run : Run) (vote : Vote) (before : state.phase run = .registering vote false) :
      Effect state (.execute run)
        ({ state with votes := state.votes.set (config.nodeOf run) vote }.move run
          (.registering vote true))
  | won (run : Run) (vote : Vote) (before : state.phase run = .electing vote none)
      (free : state.lock = none) :
      Effect state (.execute run)
        ({ state with lock := some run }.move run (.electing vote (some true)))
  | released (run : Run) (vote : Vote) (tally : Tally Vote) (submitted : Bool)
      (before : state.phase run = .releasing vote tally submitted false) :
      Effect state (.execute run)
        ({ state with lock := if state.lock = some run then none else state.lock }.move run
          (.releasing vote tally submitted true))
  | submitted (run : Run) (vote : Vote) (tally : Tally Vote)
      (before : state.phase run = .submitting vote tally) :
      Effect state (.submitted run)
        ({ state with submissions := state.submissions ++ [vote] }.move run
          (.releasing vote tally true false))

variable {config} {state next : State Node Run Vote} {run : Run} {event : Event Run Vote}
  {phase : Phase Node Vote} {voteOf : Node → Vote}

section

omit [DecidableEq Run]

theorem fits_of_blank (registering : ∀ vote got, phase ≠ .registering vote got)
    (checking : ∀ votes, phase ≠ .checking (some votes)) (quorum : phase.quorum = none) :
    phase.Fits config voteOf run where
  registering vote got same := absurd same (registering vote got)
  checking votes same := absurd same (checking votes)
  quorum vote found := by
    rw [quorum] at found
    cases found

theorem Phase.Fits.keepQuorum {before phase : Phase Node Vote}
    (fits : before.Fits config voteOf run) (registering : ∀ vote got, phase ≠ .registering vote got)
    (checking : ∀ votes, phase ≠ .checking (some votes)) (same : phase.quorum = before.quorum) :
    phase.Fits config voteOf run where
  registering vote got named := absurd named (registering vote got)
  checking votes named := absurd named (checking votes)
  quorum vote found := fits.quorum vote (same ▸ found)

end

omit [DecidableEq Node] [DecidableEq Vote] [Fintype Node] in
theorem not_locking (leading : ¬ phase.Leading)
    (releasing : ∀ vote tally submitted, phase ≠ .releasing vote tally submitted false) :
    ¬ phase.Locking := by
  rintro (leads | ⟨vote, tally, submitted, same⟩)
  · exact leading leads
  · exact releasing vote tally submitted same

theorem effect_blank (event : Event Run Vote) (phase : Phase Node Vote)
    (locking : ¬ phase.Locking) (registering : ∀ vote got, phase ≠ .registering vote got)
    (checking : ∀ votes, phase ≠ .checking (some votes)) (quorum : phase.quorum = none) :
    Effect config state event (state.move run phase) :=
  Effect.moved event run phase (fun holds => absurd holds locking)
    (fun leads => absurd (.inl leads) locking)
    fun _ _ _ _ _ => fits_of_blank registering checking quorum

theorem effect_keep (event : Event Run Vote) (phase : Phase Node Vote)
    (locking : phase.Locking → (state.phase run).Locking)
    (leading : phase.Leading → (state.phase run).Leading)
    (registering : ∀ vote got, phase ≠ .registering vote got)
    (checking : ∀ votes, phase ≠ .checking (some votes))
    (same : phase.quorum = (state.phase run).quorum) :
    Effect config state event (state.move run phase) :=
  Effect.moved event run phase locking leading
    fun _ _ _ _ fits => fits.keepQuorum registering checking same

theorem effect_unlocked (event : Event Run Vote) (phase : Phase Node Vote)
    (locking : ¬ phase.Locking) (registering : ∀ vote got, phase ≠ .registering vote got)
    (checking : ∀ votes, phase ≠ .checking (some votes))
    (same : phase.quorum = (state.phase run).quorum) :
    Effect config state event (state.move run phase) :=
  effect_keep event phase (fun holds => absurd holds locking)
    (fun leads => absurd (.inl leads) locking) registering checking same

theorem effect_elected (event : Event Run Vote) (vote : Vote) (isLeader : Bool)
    (votes : Option (Votes Node Vote)) (leading : isLeader = true → (state.phase run).Leading)
    (same : some vote = (state.phase run).quorum) :
    Effect config state event (state.move run (.elected vote isLeader votes)) := by
  have leads : (Phase.elected vote isLeader votes).Leading → (state.phase run).Leading := by
    intro leads
    cases isLeader with
    | true => exact leading rfl
    | false => exact absurd leads id
  refine effect_keep event _ (fun holds => ?_) leads nofun nofun same
  rcases holds with holds | ⟨_, _, _, other⟩
  · exact .inl (leads holds)
  · cases other

theorem execute_effect (ran : execute config state run = some next) :
    Effect config state (.execute run) next := by
  unfold execute at ran
  split at ran
  · next vote before =>
    cases ran
    exact Effect.stored run vote before
  · cases ran
    exact effect_blank _ _ (not_locking id nofun) nofun nofun rfl
  · cases ran
    refine Effect.moved _ run _ (fun holds => absurd holds (not_locking id nofun)) False.elim ?_
    intro voteOf _ _ cast _
    refine ⟨nofun, fun votes same => ?_, nofun⟩
    cases same
    exact cast
  · cases ran
    exact effect_blank _ _ (not_locking id nofun) nofun nofun rfl
  · next vote before =>
    split at ran
    · next free =>
      cases ran
      exact Effect.won run vote before free
    · cases ran
      exact effect_unlocked _ _ (not_locking id nofun) nofun nofun (by rw [before]; rfl)
  · next vote isLeader before =>
    cases ran
    refine effect_elected _ vote isLeader _ (fun leader => ?_) (by rw [before]; rfl)
    rw [before, leader]
    trivial
  · next vote tally submitted before =>
    cases ran
    exact Effect.released run vote tally submitted before
  · cases ran

theorem resume_effect (resumed : resume config state run = some next) :
    Effect config state (.resume run) next := by
  unfold resume at resumed
  split at resumed
  · cases resumed
    exact effect_blank _ _ (not_locking id nofun) nofun nofun rfl
  · cases resumed
    exact effect_blank _ _ (not_locking id nofun) nofun nofun rfl
  · next votes before =>
    cases resumed
    unfold afterCheck
    split
    · next vote count reached =>
      refine Effect.moved _ run _ (fun holds => absurd holds (not_locking id nofun)) False.elim ?_
      intro voteOf nonneg _ _ fits
      refine ⟨nofun, nofun, fun found same => ?_⟩
      cases same
      exact (checkQuorum_reached reached).trans
        (weightFor_le nonneg (fits.checking votes before) vote)
    · exact effect_blank _ _ (not_locking id nofun) nofun nofun rfl
  · cases resumed
    exact effect_blank _ _ (not_locking id nofun) nofun nofun rfl
  · next vote acquired before =>
    cases resumed
    refine effect_elected _ vote acquired none (fun leader => ?_) (by rw [before]; rfl)
    rw [before, leader]
    trivial
  · next vote votes before =>
    cases resumed
    have leads : (state.phase run).Leading := by
      rw [before]
      trivial
    exact effect_keep _ _ (fun _ => .inl leads) (fun _ => leads) nofun nofun (by rw [before]; rfl)
  · next vote votes before =>
    cases resumed
    exact effect_unlocked _ _ (not_locking id nofun) nofun nofun (by rw [before]; rfl)
  · next vote tally submitted before =>
    cases resumed
    exact effect_unlocked _ _ (not_locking id nofun) nofun nofun (by rw [before]; rfl)
  · cases resumed

theorem afterFailure_effect (failed : afterFailure state run = some next) :
    Effect config state (.storeFails run) next := by
  unfold afterFailure at failed
  split at failed
  case h_7 vote tally submitted released before =>
    cases failed
    exact effect_unlocked _ _ (not_locking id nofun) nofun nofun (by rw [before]; rfl)
  case h_8 => cases failed
  all_goals
    cases failed
    exact effect_blank _ _ (not_locking id nofun) nofun nofun rfl

theorem step_effect (ran : step config state event = some next) :
    Effect config state event next := by
  cases event with
  | call =>
    dsimp only [step] at ran
    split at ran
    · cases ran
      exact effect_blank _ _ (not_locking id nofun) nofun nofun rfl
    · cases ran
  | validated run =>
    dsimp only [step] at ran
    split at ran
    · split at ran
      · cases ran
        refine Effect.moved _ run _ (fun holds => absurd holds (not_locking id nofun))
          False.elim fun voteOf _ consistent _ _ => ⟨fun other got same => ?_, nofun, nofun⟩
        cases same
        exact consistent
      · cases ran
        exact effect_blank _ _ (not_locking id nofun) nofun nofun rfl
    · cases ran
  | validationFails =>
    dsimp only [step] at ran
    split at ran
    · cases ran
      exact effect_blank _ _ (not_locking id nofun) nofun nofun rfl
    · cases ran
  | execute => exact execute_effect ran
  | resume => exact resume_effect ran
  | submitted run =>
    dsimp only [step] at ran
    split at ran
    · next vote tally before =>
      cases ran
      exact Effect.submitted run vote tally before
    · cases ran
  | submissionFails run =>
    dsimp only [step] at ran
    split at ran
    · next vote tally before =>
      cases ran
      have leads : (state.phase run).Leading := by
        rw [before]
        trivial
      exact effect_keep _ _ (fun _ => .inl leads) (fun _ => leads) nofun nofun (by rw [before]; rfl)
    · cases ran
  | storeFails => exact afterFailure_effect ran

omit [DecidableEq Node] [DecidableEq Vote] [Fintype Node] in
@[simp] theorem move_phase (phase : Phase Node Vote) : (state.move run phase).phase run = phase :=
  Function.update_self _ _ _

omit [DecidableEq Node] [DecidableEq Vote] [Fintype Node] in
theorem move_phase_of_ne {other : Run} (ne : other ≠ run) (phase : Phase Node Vote) :
    (state.move run phase).phase other = state.phase other :=
  Function.update_of_ne ne _ _

omit [DecidableEq Node] [DecidableEq Vote] [Fintype Node] in
theorem Once.leads_move (once : Once state) (some : state.submissions ≠ [])
    (leads : ¬ phase.Leading) : ∀ other, ¬ ((state.move run phase).phase other).Leading :=
  (Function.forall_update_iff _ fun _ (phase : Phase Node Vote) => ¬ phase.Leading).mpr
    ⟨leads, fun other _ => once.ended some other⟩

theorem Fitting.runs_move (fitting : Fitting config voteOf state)
    (fits : phase.Fits config voteOf run) :
    ∀ other, ((state.move run phase).phase other).Fits config voteOf other :=
  (Function.forall_update_iff _ fun other (phase : Phase Node Vote) =>
    phase.Fits config voteOf other).mpr ⟨fits, fun other _ => fitting.runs other⟩

theorem Once.step (once : Once state) (inTime : InTime state event)
    (effect : Effect config state event next) : Once next := by
  cases effect with
  | moved _ run _ locking leading =>
    refine ⟨fun other holds => ?_, once.once, fun some => once.leads_move some
      fun leads => once.ended some run (leading leads)⟩
    by_cases own : other = run
    · rw [own, move_phase] at holds
      rw [own]
      exact once.locked run (locking holds)
    · rw [move_phase_of_ne own] at holds
      exact once.locked other holds
  | stored run =>
    refine ⟨fun other holds => ?_, once.once, fun some => once.leads_move some id⟩
    by_cases own : other = run
    · rw [own, move_phase] at holds
      exact absurd holds (not_locking id nofun)
    · rw [move_phase_of_ne own] at holds
      exact once.locked other holds
  | won run _ before free =>
    have none := inTime (by rw [before]; rfl) free
    refine ⟨fun other holds => ?_, once.once, fun some => absurd none some⟩
    by_cases own : other = run
    · rw [own]
      rfl
    · rw [move_phase_of_ne own] at holds
      have locked := once.locked other holds
      rw [free] at locked
      cases locked
  | released run vote tally submitted before =>
    have held := once.locked run (.inr ⟨vote, tally, submitted, before⟩)
    refine ⟨fun other holds => ?_, once.once, fun some => once.leads_move some id⟩
    by_cases own : other = run
    · rw [own, move_phase] at holds
      exact absurd holds (not_locking id nofun)
    · rw [move_phase_of_ne own] at holds
      have also := once.locked other holds
      exact absurd (Option.mem_unique also held) own
  | submitted run _ _ before =>
    have leads : (state.phase run).Leading := by
      rw [before]
      trivial
    have first : state.submissions = [] := by
      by_contra some
      exact once.ended some run leads
    have held := once.locked run (.inl leads)
    refine ⟨fun other holds => ?_, ?_, fun _ other leading => ?_⟩
    · by_cases own : other = run
      · rw [own]
        exact held
      · rw [move_phase_of_ne own] at holds
        exact once.locked other holds
    · rw [first]
      exact Nat.le_refl 1
    · by_cases own : other = run
      · rw [own, move_phase] at leading
        exact leading
      · rw [move_phase_of_ne own] at leading
        have also := once.locked other (.inl leading)
        exact own (Option.mem_unique also held)

theorem Fitting.step (nonneg : ∀ node, 0 ≤ config.weight node)
    (fitting : Fitting config voteOf state) (consistent : Consistent config voteOf state event)
    (effect : Effect config state event next) : Fitting config voteOf next := by
  cases effect with
  | moved _ run _ _ _ fits =>
    have fit := fits voteOf nonneg consistent fitting.cast (fitting.runs run)
    exact ⟨fitting.cast, fitting.runs_move fit⟩
  | stored run vote before =>
    have cast : vote = voteOf (config.nodeOf run) :=
      (fitting.runs run).registering vote false before
    refine ⟨fun node got found => ?_, fitting.runs_move ⟨fun other got same => ?_,
      by simp, fun _ named => by cases named⟩⟩
    · change (state.votes.set (config.nodeOf run) vote).get node = some got at found
      rw [OrderedMap.get_set] at found
      split at found
      · next same =>
        cases found
        rw [same]
        exact cast
      · exact fitting.cast node got found
    · cases same
      exact cast
  | won run _ before =>
    refine ⟨fitting.cast, fitting.runs_move ?_⟩
    exact (fitting.runs run).keepQuorum (by simp) (by simp) (by rw [before]; rfl)
  | released run _ _ _ before =>
    refine ⟨fitting.cast, fitting.runs_move ?_⟩
    exact (fitting.runs run).keepQuorum (by simp) (by simp) (by rw [before]; rfl)
  | submitted run _ _ before =>
    refine ⟨fitting.cast, fitting.runs_move ?_⟩
    exact (fitting.runs run).keepQuorum (by simp) (by simp) (by rw [before]; rfl)

omit [DecidableEq Node] [DecidableEq Run] [DecidableEq Vote] [Fintype Node] in
theorem quorum_of_resultVote {vote : Vote} (result : phase.resultVote = some vote) :
    phase.quorum = some vote := by
  unfold Phase.resultVote at result
  split at result
  · exact result
  · exact result
  · cases result

omit [DecidableEq Run] in
theorem Fitting.agree (nonneg : ∀ node, 0 ≤ config.weight node)
    (majority : ∑ node, config.weight node < 2 * config.threshold)
    (fitting : Fitting config voteOf state) : Agree state :=
  fun first second one two left right =>
    vote_unique nonneg majority
      ((fitting.runs first).quorum one (quorum_of_resultVote left))
      ((fitting.runs second).quorum two (quorum_of_resultVote right))

/-- Three nodes of which two make a quorum. -/
def trio : Config (Fin 3) (Fin 3) Nat where
  nodeOf run := run
  weight _ := 1
  threshold := 2
  verify _ _ := true

/-- One node that makes a quorum alone. -/
def solo : Config Unit Unit Nat where
  nodeOf _ := ()
  weight _ := 1
  threshold := 1
  verify _ _ := true

/-- Its run. -/
def alone : List (Event Unit Nat) :=
  [.call (), .validated () 7, .execute (), .resume (), .execute (), .resume (), .execute (),
    .resume (), .execute (), .resume (), .execute (), .resume (), .submitted (), .execute (),
    .resume ()]

/-- A run up to its quorum check. -/
def votes (run : Fin 3) : List (Event (Fin 3) Nat) :=
  [.call run, .validated run 7, .execute run, .resume run, .execute run, .resume run,
    .execute run, .resume run]

/-- A leader from its election to its result. -/
def leads (run : Fin 3) : List (Event (Fin 3) Nat) :=
  [.execute run, .resume run, .execute run, .resume run, .submitted run, .execute run, .resume run]

end SorobanPlayground.Backend.OracleConsensus
