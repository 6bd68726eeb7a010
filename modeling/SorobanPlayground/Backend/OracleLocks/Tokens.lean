import SorobanPlayground.Backend.OracleLocks.LockManager

/-! # Tokens of calls without a lock

Every `acquire` call draws a token of its own. As long as the call has no lock, no wait of a
detector leads to its token.
-/

namespace SorobanPlayground.Backend.OracleLocks

open Function OrderedMap DeadlockDetector List

namespace DeadlockDetector

variable {Owner : Type} [DecidableEq Owner] {detector : DeadlockDetector Owner}

/-- The owners that waits lead to, or can lead to. -/
def Target (detector : DeadlockDetector Owner) (owner : Owner) : Prop :=
  (∃ waiter, detector.Waits waiter owner) ∨ ∃ key, detector.holders.get key = some owner

/-- Every target of a changed detector was one before. -/
def Narrows (detector changed : DeadlockDetector Owner) : Prop :=
  ∀ owner, changed.Target owner → detector.Target owner

theorem Narrows.refl (detector : DeadlockDetector Owner) : detector.Narrows detector :=
  fun _ => id

theorem Narrows.trans {first second third : DeadlockDetector Owner} (one : first.Narrows second)
    (two : second.Narrows third) : first.Narrows third :=
  fun owner target => one owner (two owner target)

theorem narrows_removeWaits (waiter : Owner) :
    detector.Narrows { detector with waitsFor := detector.waitsFor.remove waiter } := by
  rintro _ (⟨node, targets, got, mem⟩ | held)
  · rw [OrderedMap.get_remove] at got
    split at got
    · cases got
    · exact .inl ⟨node, targets, got, mem⟩
  · exact .inr held

variable {waiter : Owner}

theorem narrows_setWaits {targets : OrderedSet Owner}
    (old : ∀ target ∈ targets.keys, detector.Waits waiter target) :
    detector.Narrows (detector.setWaits waiter targets) := by
  unfold setWaits
  split
  · exact narrows_removeWaits waiter
  · rintro owner (⟨node, found, got, mem⟩ | held)
    · rw [OrderedMap.get_set] at got
      split at got
      · cases got
        exact .inl ⟨waiter, old owner mem⟩
      · exact .inl ⟨node, found, got, mem⟩
    · exact .inr held

theorem narrows_releaseHold (key : String) (owner : Owner) :
    detector.Narrows (detector.releaseHold key owner) := by
  unfold releaseHold
  split
  · rintro _ (waits | ⟨name, held⟩)
    · exact .inl waits
    · rw [OrderedMap.get_remove] at held
      split at held
      · cases held
      · exact .inr ⟨name, held⟩
  · exact Narrows.refl detector

theorem narrows_clearWait (waiter : Owner) (key : String) :
    detector.Narrows (detector.clearWait waiter key) := by
  unfold clearWait
  split
  · exact narrows_removeWaits waiter
  · split
    · exact Narrows.refl detector
    · next targets got =>
      refine narrows_setWaits fun target mem => ?_
      exact ⟨targets, got, (mem_remove.mp mem).2⟩

theorem narrows_forgetOwner (owner : Owner) : detector.Narrows (detector.forgetOwner owner) := by
  have start : detector.Narrows
      { waitsFor := detector.waitsFor.remove owner
        holders := detector.holders.filter fun entry => entry.2 ≠ owner } := by
    rintro target (waits | ⟨key, held⟩)
    · exact narrows_removeWaits owner target (.inl waits)
    · exact .inr ⟨key, (get_filter.mp held).1⟩
  unfold forgetOwner
  dsimp only
  generalize (detector.waitsFor.remove owner).keys = waiting
  revert start
  generalize ({ waitsFor := detector.waitsFor.remove owner
                holders := detector.holders.filter fun entry => entry.2 ≠ owner } :
    DeadlockDetector Owner) = current
  intro start
  induction waiting generalizing current with
  | nil => exact start
  | cons waiter _ ih =>
    refine ih _ (start.trans (narrows_setWaits fun target mem => ?_))
    have old := (mem_remove.mp mem).2
    cases got : current.waitsFor.get waiter with
    | none =>
      rw [got] at old
      cases old
    | some targets =>
      rw [got] at old
      exact ⟨targets, got, old⟩

theorem narrows_declareWait (waiter : Owner) (key : String) :
    detector.Narrows (detector.declareWait waiter key).detector := by
  unfold declareWait
  split
  · exact Narrows.refl detector
  · next target held =>
    split_ifs
    · exact Narrows.refl detector
    · exact Narrows.refl detector
    · rintro _ (⟨node, targets, got, mem⟩ | holds)
      · rw [OrderedMap.get_set] at got
        split at got
        · cases got
          rcases mem_add.mp mem with rfl | old
          · exact .inr ⟨key, held⟩
          · cases before : detector.waitsFor.get waiter with
            | none =>
              rw [before] at old
              cases old
            | some targets =>
              rw [before] at old
              exact .inl ⟨waiter, targets, before, old⟩
        · exact .inl ⟨node, targets, got, mem⟩
      · exact .inr holds

theorem target_registerHold {key : String} {holder owner : Owner}
    (target : (detector.registerHold key holder).Target owner) :
    owner = holder ∨ detector.Target owner := by
  rcases target with waits | ⟨name, held⟩
  · exact .inr (.inl waits)
  · unfold registerHold at held
    rw [OrderedMap.get_set] at held
    split at held
    · exact .inl (Option.some.inj held).symm
    · exact .inr (.inr ⟨name, held⟩)

theorem declareWait_quiet (fresh : ¬ detector.Target waiter) (key : String) :
    (detector.declareWait waiter key).deadlock = false := by
  refine Bool.eq_false_of_not_eq_true fun reported => ?_
  obtain ⟨_, -, ne, path⟩ := declareWait_deadlock.mp reported
  rcases Relation.ReflTransGen.cases_tail path with same | ⟨node, -, waits⟩
  · exact ne same.symm
  · exact fresh (.inl ⟨node, waits⟩)

end DeadlockDetector

variable {Manager Task Owner : Type} [DecidableEq Manager] [DecidableEq Task] [DecidableEq Owner]

/-- The attempt of a call that has no lock yet. -/
def Phase.trying : Phase Manager Owner → Option (Attempt Manager Owner)
  | .tried attempt _ _ => some attempt
  | .sleeping attempt _ => some attempt
  | _ => none

/-- A call that has failed with the code `DEADLOCK`. -/
def Phase.Deadlocked (phase : Phase Manager Owner) : Prop :=
  ∃ error, phase = .done (.refused (.locked error)) ∧ error.code = .deadlock

def Event.drawn : Event Manager Task Owner → Option Owner
  | .call _ (.acquire _ _ _ _ _ owner) _ => some owner
  | _ => none

/-- Tokens in a state are drawn, and the tokens of calls without a lock are no targets. -/
structure Known (drawn : List Owner) (state : State Manager Task Owner) : Prop where
  targets : ∀ number owner, (state.detectors number).Target owner → owner ∈ drawn
  trying : ∀ task attempt, (state.phase task).trying = some attempt → attempt.owner ∈ drawn
  unique : ∀ first second one two, (state.phase first).trying = some one →
    (state.phase second).trying = some two → one.owner = two.owner → first = second
  apart : ∀ task attempt, (state.phase task).trying = some attempt → ∀ number,
    ¬ (state.detectors number).Target attempt.owner
  undetected : ∀ task, ¬ (state.phase task).Deadlocked

/-- What a step of a call does to the tokens. -/
inductive Motion (state : State Manager Task Owner) (task : Task) (drawn : Option Owner) :
    State Manager Task Owner → Prop
  | plain (next : State Manager Task Owner)
      (others : ∀ other, other ≠ task → next.phase other = state.phase other)
      (trying : ∀ attempt, (next.phase task).trying = some attempt →
        (state.phase task).trying = some attempt)
      (undetected : ¬ (next.phase task).Deadlocked)
      (narrows : ∀ number, (state.detectors number).Narrows (next.detectors number)) :
      Motion state task drawn next
  | drew (next : State Manager Task Owner) (attempt : Attempt Manager Owner)
      (others : ∀ other, other ≠ task → next.phase other = state.phase other)
      (trying : (next.phase task).trying = some attempt) (token : drawn = some attempt.owner)
      (undetected : ¬ (next.phase task).Deadlocked)
      (same : next.detectors = state.detectors) : Motion state task drawn next
  | registered (next : State Manager Task Owner) (attempt : Attempt Manager Owner)
      (others : ∀ other, other ≠ task → next.phase other = state.phase other)
      (before : (state.phase task).trying = some attempt)
      (after : (next.phase task).trying = none) (undetected : ¬ (next.phase task).Deadlocked)
      (targets : ∀ number owner, (next.detectors number).Target owner →
        owner = attempt.owner ∨ (state.detectors number).Target owner) :
      Motion state task drawn next
  | detected (next : State Manager Task Owner) (attempt : Attempt Manager Owner) (number : Nat)
      (before : (state.phase task).trying = some attempt)
      (reported : ((state.detectors number).declareWait attempt.owner attempt.key).deadlock =
        true) : Motion state task drawn next

variable {config : Manager → ManagerConfig} {state next : State Manager Task Owner} {task : Task}
  {drawn : List Owner} {token : Option Owner}

section

omit [DecidableEq Manager] [DecidableEq Task]

theorem Known.undetected_of_others (known : Known drawn state)
    (others : ∀ other, other ≠ task → next.phase other = state.phase other)
    (undetected : ¬ (next.phase task).Deadlocked) (other : Task) :
    ¬ (next.phase other).Deadlocked := by
  by_cases mine : other = task
  · rwa [mine]
  · rw [others other mine]
    exact known.undetected other

theorem Known.step (known : Known drawn state) (motion : Motion state task token next)
    (fresh : ∀ owner, token = some owner → owner ∉ drawn) : Known (token.toList ++ drawn) next := by
  have more : ∀ {owner}, owner ∈ drawn → owner ∈ token.toList ++ drawn :=
    fun mem => mem_append_right _ mem
  cases motion with
  | plain others trying undetected narrows =>
    have back : ∀ other attempt, (next.phase other).trying = some attempt →
        (state.phase other).trying = some attempt := by
      intro other attempt tries
      by_cases same : other = task
      · rw [same] at tries ⊢
        exact trying attempt tries
      · rwa [others other same] at tries
    refine ⟨fun number owner target => more (known.targets number owner ?_),
      fun other attempt tries => more (known.trying other attempt (back _ _ tries)), ?_, ?_,
      known.undetected_of_others others undetected⟩
    · exact narrows number owner target
    · exact fun first second one two left right =>
        known.unique first second one two (back _ _ left) (back _ _ right)
    · exact fun other attempt tries number target =>
        known.apart other attempt (back _ _ tries) number (narrows number _ target)
  | drew attempt others trying named undetected same =>
    subst named
    have unused := fresh attempt.owner rfl
    have old : ∀ other found, other ≠ task → (next.phase other).trying = some found →
        (state.phase other).trying = some found := by
      intro other found ne tries
      rwa [others other ne] at tries
    have own : ∀ found, (next.phase task).trying = some found → found = attempt :=
      fun found tries => Option.mem_unique tries trying
    refine ⟨fun number owner target => ?_, fun other found tries => ?_, ?_, ?_,
      known.undetected_of_others others undetected⟩
    · rw [same] at target
      exact more (known.targets number owner target)
    · by_cases mine : other = task
      · rw [mine] at tries
        rw [own found tries]
        exact mem_cons_self
      · exact more (known.trying other found (old other found mine tries))
    · intro first second one two left right agree
      by_cases mine : first = task
      · by_cases also : second = task
        · exact mine.trans also.symm
        · rw [mine] at left
          rw [own one left] at agree
          have used := known.trying second two (old second two also right)
          exact absurd (agree ▸ used) unused
      · by_cases also : second = task
        · rw [also] at right
          rw [own two right] at agree
          have used := known.trying first one (old first one mine left)
          exact absurd (agree ▸ used) unused
        · exact known.unique first second one two (old first one mine left)
            (old second two also right) agree
    · intro other found tries number target
      rw [same] at target
      by_cases mine : other = task
      · rw [mine] at tries
        rw [own found tries] at target
        exact unused (known.targets number _ target)
      · exact known.apart other found (old other found mine tries) number target
  | registered attempt others before after undetected targets =>
    have old : ∀ other found, (next.phase other).trying = some found →
        other ≠ task ∧ (state.phase other).trying = some found := by
      intro other found tries
      by_cases mine : other = task
      · rw [mine, after] at tries
        cases tries
      · rw [others other mine] at tries
        exact ⟨mine, tries⟩
    refine ⟨fun number owner target => more ?_, fun other found tries => more ?_, ?_, ?_,
      known.undetected_of_others others undetected⟩
    · rcases targets number owner target with rfl | target
      · exact known.trying task attempt before
      · exact known.targets number owner target
    · exact known.trying other found (old other found tries).2
    · exact fun first second one two left right =>
        known.unique first second one two (old _ _ left).2 (old _ _ right).2
    · intro other found tries number target
      obtain ⟨ne, tried⟩ := old other found tries
      rcases targets number _ target with same | target
      · exact ne (known.unique other task found attempt tried before same)
      · exact known.apart other found tried number target
  | detected attempt number before reported =>
    have quiet := declareWait_quiet (known.apart task attempt before number)
      attempt.key
    rw [quiet] at reported
    cases reported

end

variable {number : Nat}

omit [DecidableEq Manager] [DecidableEq Task] in
theorem narrows_withDetector (state : State Manager Task Owner) {changed : DeadlockDetector Owner}
    (narrows : (state.detectors number).Narrows changed) (other : Nat) :
    (state.detectors other).Narrows ((state.withDetector number changed).detectors other) := by
  change (state.detectors other).Narrows (update state.detectors number changed other)
  by_cases same : other = number
  · rw [same, update_self]
    exact narrows
  · rw [update_of_ne same]
    exact Narrows.refl _

omit [DecidableEq Task] in
theorem narrows_forgetLocal (manager : Manager) (owner : Owner) (held : Held) (number : Nat) :
    (state.detectors number).Narrows
      ((state.forgetLocal config manager owner held).detectors number) :=
  narrows_withDetector (state.withManager manager _)
    ((narrows_releaseHold held.key owner).trans
      (narrows_forgetOwner owner)) number

section

omit [DecidableEq Manager]

theorem plain_move {phase : Phase Manager Owner} (idle : phase.trying = none)
    (undetected : ¬ phase.Deadlocked) (phases : next.phase = state.phase)
    (narrows : ∀ number, (state.detectors number).Narrows (next.detectors number)) :
    Motion state task token (next.move task phase) := by
  refine Motion.plain _ (fun other ne => ?_) (fun attempt tries => ?_) ?_ narrows
  · rw [move_phase_of_ne ne, phases]
  · rw [move_phase, idle] at tries
    cases tries
  · rw [move_phase]
    exact undetected

theorem inspectNext_motion (manager : Manager) (holds : List (Owner × Held))
    (recovered : List (Recovered Owner)) (phases : next.phase = state.phase)
    (narrows : ∀ number, (state.detectors number).Narrows (next.detectors number)) :
    Motion state task token (inspectNext next task manager holds recovered) := by
  cases holds with
  | nil => exact plain_move rfl (fun ⟨_, same, _⟩ => nomatch same) phases narrows
  | cons =>
    exact plain_move rfl (fun ⟨_, same, _⟩ => nomatch same) phases narrows

end

variable {attempt : Attempt Manager Owner} {owner : Owner}

omit [DecidableEq Task] in
theorem registerLock_target
    (target : ((state.registerLock config attempt).detectors number).Target owner) :
    owner = attempt.owner ∨ (state.detectors number).Target owner := by
  change (update state.detectors (config attempt.manager).detector _ number).Target owner
    at target
  by_cases same : number = (config attempt.manager).detector
  · rw [same, update_self] at target
    rcases target_registerHold target with own | old
    · exact .inl own
    · rw [same]
      exact .inr (narrows_clearWait _ _ owner old)
  · rw [update_of_ne same] at target
    exact .inr target

theorem afterTry_motion {attempts : Nat} {acquired : Bool}
    (before : state.phase task = .tried attempt attempts acquired) :
    Motion state task token (afterTry config state task attempt attempts acquired) := by
  have tries : (state.phase task).trying = some attempt := by rw [before]; rfl
  unfold afterTry
  dsimp only
  split_ifs with success reported spent
  · refine Motion.registered _ attempt (fun other ne => move_phase_of_ne ne _) tries
      ?_ ?_ fun number owner target => registerLock_target target
    · rw [move_phase]
      rfl
    · rw [move_phase]
      exact fun ⟨_, same, _⟩ => nomatch same
  · exact Motion.detected _ attempt _ tries reported
  · refine plain_move rfl ?_ rfl (narrows_withDetector state
      ((narrows_declareWait _ _).trans (narrows_clearWait _ _)))
    rintro ⟨_, same, code⟩
    cases same
    cases code
  · refine Motion.plain _ (fun other ne => move_phase_of_ne ne _)
      (fun found same => ?_) ?_
      (narrows_withDetector state (narrows_declareWait _ _))
    · rw [move_phase] at same
      exact tries.trans same
    · rw [move_phase]
      exact fun ⟨_, same, _⟩ => nomatch same

variable {manager : Manager} {scope : LockScope} {id : Option String}
  {ttlMs maxAttempts : Option Int}

section

omit [DecidableEq Manager] [DecidableEq Task] [DecidableEq Owner]

theorem prepare_owner
    (prepared : prepare config state manager scope id ttlMs maxAttempts owner = .ok attempt) :
    attempt.owner = owner := by
  unfold prepare at prepared
  split at prepared
  · cases prepared
  · split at prepared
    · cases prepared
    · cases prepared
      rfl

theorem prepare_failure {error : LockAcquisitionError}
    (refused : prepare config state manager scope id ttlMs maxAttempts owner =
      .error (.locked error)) : error.code = .lockOrderViolation := by
  unfold prepare at refused
  split at refused
  · cases refused
  · split at refused
    · cases refused
      rfl
    · cases refused

end

omit [DecidableEq Manager] in
theorem enter_motion (call : Call Manager Owner) (elapsed : Nat) :
    Motion state task (Event.drawn (.call task call elapsed))
      (enter config state task elapsed call) := by
  cases call with
  | acquire =>
    unfold enter
    dsimp only
    split
    · next failure refused =>
      refine plain_move rfl ?_ rfl fun number => Narrows.refl _
      rintro ⟨_, same, code⟩
      cases same
      rw [prepare_failure refused] at code
      cases code
    · next attempt prepared =>
      refine Motion.drew _ attempt (fun other ne => move_phase_of_ne ne _) ?_
        (congrArg some (prepare_owner prepared).symm) ?_ rfl
      · rw [tryLock, move_phase]
        rfl
      · rw [tryLock, move_phase]
        exact fun ⟨_, same, _⟩ => nomatch same
  | release =>
    unfold enter
    dsimp only
    split
    · exact plain_move rfl (fun ⟨_, same, _⟩ => nomatch same) rfl fun _ =>
        Narrows.refl _
    · exact plain_move rfl (fun ⟨_, same, _⟩ => nomatch same) rfl fun _ =>
        Narrows.refl _
  | extend =>
    unfold enter
    dsimp only
    split
    · exact plain_move rfl (fun ⟨_, same, _⟩ => nomatch same) rfl fun _ =>
        Narrows.refl _
    · exact plain_move rfl (fun ⟨_, same, _⟩ => nomatch same) rfl fun _ =>
        Narrows.refl _
  | recoverStaleHolds =>
    exact inspectNext_motion _ _ _ rfl fun _ => Narrows.refl _

theorem resume_motion {elapsed : Nat} (resumed : resume config state task elapsed = some next) :
    Motion state task token next := by
  unfold resume at resumed
  split at resumed
  · next before =>
    cases resumed
    exact afterTry_motion before
  · next attempt attempts before =>
    cases resumed
    refine Motion.plain _ (fun other ne => move_phase_of_ne ne _)
      (fun found same => ?_) ?_ fun _ => Narrows.refl _
    · rw [tryLock, move_phase] at same
      rw [before]
      exact same
    · rw [tryLock, move_phase]
      exact fun ⟨_, same, _⟩ => nomatch same
  · cases resumed
    exact plain_move rfl (fun ⟨_, same, _⟩ => nomatch same) rfl (narrows_forgetLocal _ _ _)
  · cases resumed
    exact plain_move rfl (fun ⟨_, same, _⟩ => nomatch same) rfl fun _ =>
      Narrows.refl _
  · split at resumed
    · cases resumed
      exact inspectNext_motion _ _ _ rfl (narrows_forgetLocal _ _ _)
    · split at resumed
      · cases resumed
        exact inspectNext_motion _ _ _ rfl (narrows_forgetLocal _ _ _)
      · cases resumed
        exact inspectNext_motion _ _ _ rfl fun _ => Narrows.refl _
  · cases resumed
  · cases resumed

theorem known_step {event : Event Manager Task Owner} (known : Known drawn state)
    (fresh : ∀ owner, event.drawn = some owner → owner ∉ drawn)
    (ran : step config state event = some next) : Known (event.drawn.toList ++ drawn) next := by
  cases event with
  | tick =>
    cases ran
    exact ⟨known.targets, known.trying, known.unique, known.apart, known.undetected⟩
  | call _ call elapsed =>
    unfold step at ran
    dsimp only at ran
    split at ran
    · cases ran
      exact known.step (enter_motion call elapsed) fresh
    · cases ran
  | resume => exact known.step (resume_motion ran) fresh

section

omit [DecidableEq Manager] [DecidableEq Task]

theorem Known.weaken {more : List Owner} (known : Known drawn state)
    (wider : ∀ owner ∈ drawn, owner ∈ more) : Known more state :=
  ⟨fun number owner target => wider _ (known.targets number owner target),
    fun task attempt tries => wider _ (known.trying task attempt tries), known.unique,
    known.apart, known.undetected⟩

theorem known_start (now : Int) : Known [] ({ now } : State Manager Task Owner) := by
  refine ⟨?_, nofun, nofun, nofun, fun task ⟨_, same, _⟩ => nomatch same⟩
  rintro _ _ (⟨_, _, got, -⟩ | ⟨_, held⟩)
  · cases got
  · cases held

end

theorem run_known {config : Manager → ManagerConfig} (events : List (Event Manager Task Owner))
    {state : State Manager Task Owner} {drawn : List Owner} (known : Known drawn state)
    (apart : (events.filterMap Event.drawn).Nodup)
    (fresh : ∀ owner ∈ events.filterMap Event.drawn, owner ∉ drawn) :
    ∃ more, Known more ((machine config).run state events) := by
  induction events generalizing state drawn with
  | nil => exact ⟨drawn, known⟩
  | cons event events ih =>
    have later : ∀ owner ∈ events.filterMap Event.drawn, owner ∉ event.drawn.toList ++ drawn := by
      intro owner mem used
      rcases mem_append.mp used with now | before
      · have named := Option.mem_toList.mp now
        rw [filterMap_cons_some named] at apart
        exact (nodup_cons.mp apart).1 mem
      · exact fresh owner (mem_filterMap.mpr (by
          obtain ⟨found, here, named⟩ := mem_filterMap.mp mem
          exact ⟨found, mem_cons_of_mem event here, named⟩)) before
    have rest : (events.filterMap Event.drawn).Nodup :=
      apart.sublist ((sublist_cons_self event events).filterMap _)
    refine ih ?_ rest later
    rcases (machine config).apply_cases state event with ran | same
    · refine known_step known (fun owner named => ?_) (ofStep_exec_eq_ok.mp ran)
      exact fresh owner (mem_filterMap.mpr ⟨event, mem_cons_self, named⟩)
    · rw [same]
      exact known.weaken fun owner mem => mem_append_right _ mem

end SorobanPlayground.Backend.OracleLocks
