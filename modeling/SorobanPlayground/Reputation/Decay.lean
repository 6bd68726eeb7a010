import SorobanPlayground.Host

/-! # The decay of reputation

An activity score decays by a rate for every whole epoch since its last decay, when it
is next read or written. Below the cap on the number of epochs the decay of several
steps is the decay of one; from the cap on a score is cleared at once and its epochs
start anew, so that the steps matter.
-/

namespace SorobanPlayground.Reputation

def bps : Int := 10000

def maxCredentialScore : Int := 500000

def maxDecayEpochs : Nat := 128

inductive Error where
  | notInitialized
  | subjectNotFound
  deriving DecidableEq

structure IssuerConfig where
  active : Bool
  maxCredentialWeight : Int

structure Credential (Address : Type) where
  issuer : Address
  kind : String
  weight : Int
  issuedAt : Nat
  expiresAt : Nat
  revoked : Bool

structure SubjectRecord (Address : Type) where
  activityScore : Int
  lastDecayAt : Nat
  registeredAt : Nat
  positiveEvents : Nat
  negativeEvents : Nat
  issuers : List Address
  deriving DecidableEq

structure ScoreMatrix where
  activityScore : Int
  credentialScore : Int
  activeCredentials : Nat
  confidenceBps : Int
  finalScore : Int

structure State (Address : Type) where
  decayBps : Option Nat := none
  epochSeconds : Option Nat := none
  subjects : FiniteMap Address (SubjectRecord Address) := ∅
  issuers : FiniteMap Address IssuerConfig := ∅
  credentials : FiniteMap (Address × Address) (Credential Address) := ∅

/-- The decay of one epoch. -/
def decayRound (retain score : Int) : Int := (saturateI64 (score * retain)).tdiv bps

/-- The rounds of the decay; a score of 0 leaves the loop. -/
def decayLoop (retain : Int) : Nat → Int → Int
  | 0, score => score
  | epochs + 1, score =>
      let decayed := decayRound retain score
      if decayed = 0 then decayed else decayLoop retain epochs decayed

variable {Address : Type} [DecidableEq Address] (state : State Address)

def applyDecay (now : Nat) (record : SubjectRecord Address) :
    Outcome Error (SubjectRecord Address) := do
  let epochSeconds ← orError state.epochSeconds .notInitialized
  assertOrTrap (epochSeconds ≠ 0)
  let epochs := (now - record.lastDecayAt) / epochSeconds
  if epochs = 0 then return record
  else if maxDecayEpochs ≤ epochs then
    return { record with activityScore := 0, lastDecayAt := now }
  else do
    let decayBps ← orError state.decayBps .notInitialized
    return { record with
      activityScore := decayLoop (bps - decayBps) epochs record.activityScore
      lastDecayAt := min u64Max (record.lastDecayAt + min u64Max (epochs * epochSeconds)) }

/-- The weight of an issuer's credential, while it counts. -/
def activeWeight (now : Nat) (subject issuer : Address) : Option Int :=
  match state.issuers.get issuer, state.credentials.get (subject, issuer) with
  | some config, some credential =>
      if config.active ∧ ¬ credential.revoked ∧ now < credential.expiresAt then
        some credential.weight
      else none
  | _, _ => none

def matrix (now : Nat) (subject : Address) (record : SubjectRecord Address) :
    Outcome Error ScoreMatrix := do
  let decayed ← applyDecay state now record
  let weights := record.issuers.filterMap (activeWeight state now subject)
  let credentialScore := weights.foldl
    (fun score weight => min (saturateI64 (score + weight)) maxCredentialScore) 0
  let activeCredentials := weights.length
  let confidenceBps : Int := match activeCredentials with
    | 0 => 2500
    | 1 => 6000
    | 2 => 8000
    | _ => 10000
  let total := saturateI64 (decayed.activityScore + credentialScore)
  let finalScore := (saturateI64 (total * confidenceBps)).tdiv bps
  return { activityScore := decayed.activityScore, credentialScore, activeCredentials,
           confidenceBps, finalScore }

def getScore (now : Nat) (subject : Address) : Outcome Error ScoreMatrix := do
  let record ← orError (state.subjects.get subject) .subjectNotFound
  matrix state now subject record

theorem decayLoop_eq (retain : Int) (epochs : Nat) (score : Int) :
    decayLoop retain epochs score = (decayRound retain)^[epochs] score := by
  have still : decayRound retain 0 = 0 := by
    rw [decayRound, zero_mul]
    rfl
  induction epochs generalizing score with
  | zero => rfl
  | succ epochs ih =>
    rw [decayLoop, Function.iterate_succ_apply]
    split_ifs with ended
    · rw [ended, Function.iterate_fixed still]
    · exact ih _

/-- What a decay leaves of a record, under a policy. -/
def decayed (epoch : Nat) (retain : Int) (now : Nat) (record : SubjectRecord Address) :
    SubjectRecord Address :=
  let epochs := (now - record.lastDecayAt) / epoch
  if maxDecayEpochs ≤ epochs then { record with activityScore := 0, lastDecayAt := now }
  else { record with
    activityScore := (decayRound retain)^[epochs] record.activityScore
    lastDecayAt := record.lastDecayAt + epochs * epoch }

variable {state} {epoch decay now first second : Nat} {record : SubjectRecord Address}

/-- The decay policy that a contract is initialized with. -/
structure Policy (state : State Address) (epoch decay : Nat) : Prop where
  epochSeconds : state.epochSeconds = some epoch
  decayBps : state.decayBps = some decay
  pos : 0 < epoch

omit [DecidableEq Address] in
theorem applyDecay_eq (policy : Policy state epoch decay) (later : record.lastDecayAt ≤ now)
    (fits : now ≤ u64Max) :
    applyDecay state now record = .ok (decayed epoch (bps - decay) now record) := by
  have whole := Nat.div_mul_le_self (now - record.lastDecayAt) epoch
  simp only [applyDecay, bind_eq_ok, orError_eq_ok, assertOrTrap_eq_ok, exists_const]
  refine ⟨epoch, policy.epochSeconds, policy.pos.ne', ?_⟩
  unfold decayed
  generalize (now - record.lastDecayAt) / epoch = epochs at *
  dsimp only
  split_ifs with none many
  · subst none
    contradiction
  · subst none
    simp [pure, Except.pure]
  · rfl
  · have bound : min u64Max (record.lastDecayAt + min u64Max (epochs * epoch)) =
        record.lastDecayAt + epochs * epoch := by
      omega
    refine bind_eq_ok.mpr ⟨decay, orError_eq_ok.mpr policy.decayBps, ?_⟩
    rw [decayLoop_eq, bound]
    rfl

section

omit [DecidableEq Address]

theorem decayed_last (epoch : Nat) (retain : Int) (later : record.lastDecayAt ≤ now) :
    record.lastDecayAt ≤ (decayed epoch retain now record).lastDecayAt ∧
      (decayed epoch retain now record).lastDecayAt ≤ now := by
  have whole := Nat.div_mul_le_self (now - record.lastDecayAt) epoch
  unfold decayed
  dsimp only
  split_ifs
  · exact ⟨later, le_rfl⟩
  · dsimp only
    omega

theorem decayed_issuers (retain : Int) :
    (decayed epoch retain now record).issuers = record.issuers := by
  unfold decayed
  dsimp only
  split_ifs <;> rfl

/-- Below the cap at the second time, the epochs of two decays add up. -/
theorem decayed_decayed (retain : Int) (ordered : first ≤ second)
    (few : (second - record.lastDecayAt) / epoch < maxDecayEpochs) :
    decayed epoch retain second (decayed epoch retain first record) =
      decayed epoch retain second record := by
  have fewer : (first - record.lastDecayAt) / epoch ≤ (second - record.lastDecayAt) / epoch :=
    Nat.div_le_div_right (by omega)
  have rest := Nat.sub_mul_div (second - record.lastDecayAt) epoch
    ((first - record.lastDecayAt) / epoch)
  rw [Nat.sub_sub, mul_comm] at rest
  simp only [decayed, if_neg (fewer.trans_lt few).not_ge, if_neg few.not_ge, rest,
    if_neg (Nat.sub_le _ _ |>.trans_lt few).not_ge, ← Function.iterate_add_apply, add_assoc,
    ← Nat.add_mul, Nat.add_sub_cancel' fewer, Nat.sub_add_cancel fewer]

/-- A decay clears a score and starts its epochs anew from the cap on, and where the score has
decayed to nothing over whole epochs. -/
theorem decayed_eq_cleared_iff (retain : Int) (later : record.lastDecayAt ≤ now) :
    decayed epoch retain now record =
        { record with activityScore := 0, lastDecayAt := now } ↔
      maxDecayEpochs ≤ (now - record.lastDecayAt) / epoch ∨
        epoch ∣ now - record.lastDecayAt ∧
          (decayRound retain)^[(now - record.lastDecayAt) / epoch] record.activityScore = 0 := by
  unfold decayed
  dsimp only
  split_ifs with many
  · exact iff_of_true rfl (.inl many)
  · have whole : record.lastDecayAt + (now - record.lastDecayAt) / epoch * epoch = now ↔
        epoch ∣ now - record.lastDecayAt := by
      rw [Nat.dvd_iff_div_mul_eq]
      have rounded := Nat.div_mul_le_self (now - record.lastDecayAt) epoch
      omega
    rw [SubjectRecord.mk.injEq, or_iff_right many]
    tauto

end

/-- The record of a subject who was touched at each of some times. -/
def touch (state : State Address) (times : List Nat) (record : SubjectRecord Address) :
    Outcome Error (SubjectRecord Address) :=
  times.foldlM (fun record now => applyDecay state now record) record

omit [DecidableEq Address] in
theorem touch_keeps {times : List Nat} (policy : Policy state epoch decay)
    (ordered : (record.lastDecayAt :: (times ++ [now])).Pairwise (· ≤ ·)) (fits : now ≤ u64Max)
    (few : (now - record.lastDecayAt) / epoch < maxDecayEpochs) :
    ∃ touched, touch state times record = .ok touched ∧ touched.issuers = record.issuers ∧
      applyDecay state now touched = applyDecay state now record := by
  induction times generalizing record with
  | nil => exact ⟨record, rfl, rfl, rfl⟩
  | cons time times ih =>
    obtain ⟨early, sorted⟩ := List.pairwise_cons.mp ordered
    have start := early time List.mem_cons_self
    have last : time ≤ now :=
      List.rel_of_pairwise_cons sorted (List.mem_append_right _ List.mem_cons_self)
    have ran := applyDecay_eq policy start (last.trans fits)
    obtain ⟨above, below⟩ := decayed_last epoch (bps - decay) start
    have following : ((decayed epoch (bps - decay) time record).lastDecayAt ::
        (times ++ [now])).Pairwise (· ≤ ·) :=
      List.pairwise_cons.mpr ⟨fun other mem => below.trans (List.rel_of_pairwise_cons sorted mem),
        (List.pairwise_cons.mp sorted).2⟩
    obtain ⟨touched, rest, issuers, same⟩ :=
      ih following ((Nat.div_le_div_right (by omega)).trans_lt few)
    refine ⟨touched, bind_eq_ok.mpr ⟨_, ran, rest⟩, issuers.trans (decayed_issuers _), ?_⟩
    rw [same, applyDecay_eq policy (below.trans last) fits,
      applyDecay_eq policy (start.trans last) fits, decayed_decayed _ last few]

/-- One decay leaves what two leave exactly where fewer epochs than the cap have passed, or as many
pass again after the first decay, or the score that it leaves decays to nothing over whole epochs.
Below the cap a score does not depend on the times at which its record was touched. -/
theorem decay_path_independent_iff (policy : Policy state epoch decay) {subject : Address}
    (got : state.subjects.get subject = some record) (fits : second ≤ u64Max) :
    (∀ first, record.lastDecayAt ≤ first → first ≤ second →
      ∃ touched after once, applyDecay state first record = .ok touched ∧
        applyDecay state second touched = .ok after ∧ applyDecay state second record = .ok once ∧
        (after = once ↔ (second - record.lastDecayAt) / epoch < maxDecayEpochs ∨
          maxDecayEpochs ≤ (second - touched.lastDecayAt) / epoch ∨
          epoch ∣ second - touched.lastDecayAt ∧
            (decayRound (bps - decay))^[(second - touched.lastDecayAt) / epoch]
              touched.activityScore = 0)) ∧
    ∀ times, (record.lastDecayAt :: (times ++ [second])).Pairwise (· ≤ ·) →
      (second - record.lastDecayAt) / epoch < maxDecayEpochs →
      ∃ touched, touch state times record = .ok touched ∧
        getScore { state with subjects := state.subjects.set subject touched } second subject =
          getScore state second subject := by
  refine ⟨fun first early ordered => ?_, fun times ordered few => ?_⟩
  · have late := early.trans ordered
    obtain ⟨-, below⟩ := decayed_last epoch (bps - decay) early
    refine ⟨_, _, _, applyDecay_eq policy early (ordered.trans fits),
      applyDecay_eq policy (below.trans ordered) fits, applyDecay_eq policy late fits, ?_⟩
    by_cases few : (second - record.lastDecayAt) / epoch < maxDecayEpochs
    · exact iff_of_true (decayed_decayed _ ordered few) (.inl few)
    · have once : decayed epoch (bps - decay) second record =
          { decayed epoch (bps - decay) first record with
            activityScore := 0, lastDecayAt := second } := by
        rw [(decayed_eq_cleared_iff _ late).mpr (.inl (not_lt.mp few))]
        unfold decayed
        dsimp only
        split_ifs <;> rfl
      rw [once, decayed_eq_cleared_iff _ (below.trans ordered), or_iff_right few]
  · obtain ⟨touched, ran, issuers, same⟩ := touch_keeps policy ordered fits few
    refine ⟨touched, ran, ?_⟩
    have other : applyDecay { state with subjects := state.subjects.set subject touched } second
        touched = applyDecay state second record := same
    unfold getScore
    rw [get_set_self, got]
    change matrix _ second subject touched = matrix state second subject record
    unfold matrix
    rw [other, issuers]
    rfl

/-- A subject whose score loses a hundredth in each epoch of ten seconds. -/
def scored : SubjectRecord Nat :=
  { activityScore := 1000000, lastDecayAt := 0, registeredAt := 0, positiveEvents := 1,
    negativeEvents := 0, issuers := [] }

def hundredth : State Nat :=
  { decayBps := some 100, epochSeconds := some 10, subjects := FiniteMap.set ∅ 1 scored }

theorem decay_path_independent_iff_epoch : ∃ touched, touch hundredth [10] scored = .ok touched ∧
    getScore { hundredth with subjects := hundredth.subjects.set 1 touched } 20 1 =
      getScore hundredth 20 1 := by
  have policy : Policy hundredth 10 100 := ⟨rfl, rfl, by decide⟩
  have got : hundredth.subjects.get 1 = some scored := rfl
  exact (decay_path_independent_iff policy got (by decide)).2 [10] (by decide) (by decide)

/-- Touched after an epoch, a score is left with a part after 128 epochs, and untouched it is
cleared. -/
theorem touched_score_survives :
    (applyDecay hundredth 1280 scored).map SubjectRecord.activityScore = .ok 0 ∧
      (touch hundredth [10, 1280] scored).map SubjectRecord.activityScore = .ok 276216 := by
  decide +kernel

end SorobanPlayground.Reputation
