import Mathlib.Data.Int.Order.Basic
import SorobanPlayground.Library.CallMachine

/-! # The nonce pool

The transactions of one source account take their sequence numbers from a shared counter. The
counter is set from the ledger when it is first used and after failed submissions; each answer of
the ledger arrives later than it was given, and other transactions run in between.
-/

namespace SorobanPlayground.Backend.NoncePool

structure Pool where
  sequence : Option Int := none
  initialized : Bool := false

/-- Where a transaction waits. -/
inductive Phase where
  | queued
  /-- `fetchFn` is called in `ensureInitialized`. -/
  | initializing (attempt : Nat)
  | initialAnswer (attempt : Nat) (sequence : Int)
  /-- `ensureInitialized` is over. -/
  | acquiring (attempt : Nat)
  /-- `submitFn` is called with this number. -/
  | submitting (attempt : Nat) (sequence : Int)
  /-- `fetchFn` is called in `resync`. -/
  | resyncing (attempt : Nat) (retries : Bool)
  | resyncAnswer (attempt : Nat) (retries : Bool) (sequence : Int)
  /-- The delay before the next attempt. -/
  | delayed (attempt : Nat)
  | succeeded
  | failed
  deriving DecidableEq, Repr

/-- The number of a submission that is not answered. -/
def Phase.number : Phase → Option Int
  | .submitting _ sequence => some sequence
  | _ => none

/-- An answer of the ledger that is not read yet. -/
def Phase.answer : Phase → Option Int
  | .initialAnswer _ sequence => some sequence
  | .resyncAnswer _ _ sequence => some sequence
  | _ => none

/-- The pool, the ledger's sequence number and all transactions. -/
structure State (Tx : Type) where
  pool : Pool := {}
  ledger : Int
  phase : Tx → Phase := fun _ => .queued

variable {Tx : Type} [DecidableEq Tx]

omit [DecidableEq Tx] in
def State.withPool (state : State Tx) (pool : Pool) : State Tx := { state with pool }

def State.move (state : State Tx) (tx : Tx) (phase : Phase) : State Tx :=
  { state with phase := Function.update state.phase tx phase }

/-- `acquire` runs up to its first `await`. -/
def acquire (pool : Pool) (attempt : Nat) : Phase :=
  if pool.initialized = true then .acquiring attempt else .initializing attempt

/-- After a resync: the next attempt, or the failure of the transaction. -/
def afterResync (attempt : Nat) (retries : Bool) : Phase :=
  if retries = true then .delayed attempt else .failed

/-- What follows a submission that is rejected. -/
def afterRejection (retryAttempts attempt : Nat) (isSeqError : Bool) : Phase :=
  if retryAttempts ≤ attempt then .resyncing attempt false
  else if isSeqError = true then .resyncing attempt true
  else .delayed attempt

inductive Event (Tx : Type) where
  /-- A flush takes the transaction. -/
  | flush (tx : Tx)
  /-- The ledger accepts a number. -/
  | advance (sequence : Int)
  /-- `fetchFn` is answered. -/
  | answer (tx : Tx)
  /-- `fetchFn` fails. -/
  | fetchFails (tx : Tx)
  /-- The code after an `await` runs. -/
  | resume (tx : Tx)
  /-- `buildEnvelope` throws. -/
  | buildFails (tx : Tx)
  /-- `submitFn` resolves. -/
  | submitted (tx : Tx)
  /-- `submitFn` rejects. -/
  | rejected (tx : Tx) (isSeqError : Bool)

/-- The code after an `await` of a transaction, up to the next one. -/
def resume (state : State Tx) (tx : Tx) : Option (State Tx) :=
  match state.phase tx with
  | .initialAnswer attempt sequence =>
      some ((state.withPool { sequence := some sequence, initialized := true }).move tx
        (.acquiring attempt))
  | .acquiring attempt =>
      state.pool.sequence.map fun sequence =>
        (state.withPool { state.pool with sequence := some (sequence + 1) }).move tx
          (.submitting attempt (sequence + 1))
  | .resyncAnswer attempt retries sequence =>
      some ((state.withPool { state.pool with sequence := some sequence }).move tx
        (afterResync attempt retries))
  | .delayed attempt => some (state.move tx (acquire state.pool (attempt + 1)))
  | _ => none

def step (retryAttempts : Nat) (state : State Tx) : Event Tx → Option (State Tx)
  | .flush tx =>
      match state.phase tx with
      | .queued => some (state.move tx (acquire state.pool 1))
      | _ => none
  | .advance sequence =>
      if state.ledger ≤ sequence then some { state with ledger := sequence } else none
  | .answer tx =>
      match state.phase tx with
      | .initializing attempt => some (state.move tx (.initialAnswer attempt state.ledger))
      | .resyncing attempt retries =>
          some (state.move tx (.resyncAnswer attempt retries state.ledger))
      | _ => none
  | .fetchFails tx =>
      match state.phase tx with
      -- `acquire` throws out of the submission, and the flush resyncs
      | .initializing attempt => some (state.move tx (.resyncing attempt false))
      | .resyncing attempt retries => some (state.move tx (afterResync attempt retries))
      | _ => none
  | .resume tx => resume state tx
  | .buildFails tx =>
      match state.phase tx with
      | .submitting attempt _ => some (state.move tx (.resyncing attempt false))
      | _ => none
  | .submitted tx =>
      match state.phase tx with
      | .submitting _ sequence =>
          if sequence ≤ state.ledger then some (state.move tx .succeeded) else none
      | _ => none
  | .rejected tx isSeqError =>
      match state.phase tx with
      | .submitting attempt _ =>
          some (state.move tx (afterRejection retryAttempts attempt isSeqError))
      | _ => none

def machine (retryAttempts : Nat) : CallMachine (State Tx) (Event Tx) Unit :=
  CallMachine.ofStep (step retryAttempts)

/-- No two submissions that are not answered have one number. -/
def Distinct (state : State Tx) : Prop :=
  ∀ first second sequence, (state.phase first).number = some sequence →
    (state.phase second).number = some sequence → first = second

/-- An answer that is read is not older than a number that is still used. -/
def Fresh (state : State Tx) : Event Tx → Prop
  | .resume tx => ∀ answer, (state.phase tx).answer = some answer →
      ∀ other sequence, (state.phase other).number = some sequence → sequence ≤ answer
  | _ => True

variable {retryAttempts : Nat} {state next : State Tx} {event : Event Tx}

@[simp] theorem move_phase_self (tx : Tx) (phase : Phase) :
    (state.move tx phase).phase tx = phase :=
  Function.update_self _ _ _

variable {tx other : Tx}

theorem move_phase_of_ne (ne : other ≠ tx) (phase : Phase) :
    (state.move tx phase).phase other = state.phase other :=
  Function.update_of_ne ne _ _

@[simp] theorem acquire_number (pool : Pool) (attempt : Nat) :
    (acquire pool attempt).number = none := by
  unfold acquire
  split <;> rfl

@[simp] theorem afterResync_number (attempt : Nat) (retries : Bool) :
    (afterResync attempt retries).number = none := by
  unfold afterResync
  split <;> rfl

@[simp] theorem afterRejection_number (attempt : Nat) (isSeqError : Bool) :
    (afterRejection retryAttempts attempt isSeqError).number = none := by
  unfold afterRejection
  split_ifs <;> rfl

/-- A phase in which a transaction can go on with the next number. -/
def Phase.Acquires (phase : Phase) : Prop := ∃ attempt, phase = .acquiring attempt

variable {attempt : Nat}

theorem acquire_acquires {pool : Pool} (acquires : (acquire pool attempt).Acquires) :
    pool.initialized = true := by
  obtain ⟨_, same⟩ := acquires
  unfold acquire at same
  split at same
  · assumption
  · cases same

theorem not_acquires_afterResync {retries : Bool} : ¬ (afterResync attempt retries).Acquires := by
  rintro ⟨_, same⟩
  unfold afterResync at same
  split at same <;> cases same

theorem not_acquires_afterRejection {isSeqError : Bool} :
    ¬ (afterRejection retryAttempts attempt isSeqError).Acquires := by
  rintro ⟨_, same⟩
  unfold afterRejection at same
  split_ifs at same

/-- What a step does to the numbers. -/
inductive Effect (state : State Tx) : Event Tx → State Tx → Prop
  | advanced (sequence : Int) :
      Effect state (.advance sequence) { state with ledger := sequence }
  | moved (event : Event Tx) (tx : Tx) (phase : Phase) (numberless : phase.number = none)
      (acquires : phase.Acquires → state.pool.initialized = true) :
      Effect state event (state.move tx phase)
  | read (tx : Tx) (answer : Int) (phase : Phase) (initialized : Bool)
      (answered : (state.phase tx).answer = some answer) (numberless : phase.number = none)
      (kept : state.pool.initialized = true → initialized = true)
      (acquires : phase.Acquires → initialized = true) :
      Effect state (.resume tx)
        ((state.withPool { sequence := some answer, initialized }).move tx phase)
  | took (tx : Tx) (attempt : Nat) (sequence : Int)
      (acquiring : state.phase tx = .acquiring attempt)
      (counter : state.pool.sequence = some sequence) :
      Effect state (.resume tx)
        ((state.withPool { state.pool with sequence := some (sequence + 1) }).move tx
          (.submitting attempt (sequence + 1)))

theorem resume_effect (ran : resume state tx = some next) : Effect state (.resume tx) next := by
  unfold resume at ran
  split at ran
  · next attempt sequence phase =>
    cases ran
    exact Effect.read tx sequence _ true (by rw [phase]; rfl) rfl (fun _ => rfl) fun _ => rfl
  · next attempt phase =>
    obtain ⟨sequence, counter, rfl⟩ := Option.map_eq_some_iff.mp ran
    exact Effect.took tx attempt sequence phase counter
  · next attempt retries sequence phase =>
    cases ran
    exact Effect.read tx sequence _ _ (by rw [phase]; rfl) (afterResync_number _ _) id
      fun acquires => absurd acquires not_acquires_afterResync
  · cases ran
    exact Effect.moved _ tx _ (acquire_number _ _) acquire_acquires
  · cases ran

theorem step_effect (ran : step retryAttempts state event = some next) :
    Effect state event next := by
  cases event with
  | flush tx =>
    dsimp only [step] at ran
    split at ran
    · cases ran
      exact Effect.moved _ tx _ (acquire_number _ _) acquire_acquires
    · cases ran
  | advance sequence =>
    dsimp only [step] at ran
    split at ran
    · cases ran
      exact Effect.advanced sequence
    · cases ran
  | answer tx =>
    dsimp only [step] at ran
    split at ran
    · cases ran
      exact Effect.moved _ tx _ rfl fun ⟨_, same⟩ => nomatch same
    · cases ran
      exact Effect.moved _ tx _ rfl fun ⟨_, same⟩ => nomatch same
    · cases ran
  | fetchFails tx =>
    dsimp only [step] at ran
    split at ran
    · cases ran
      exact Effect.moved _ tx _ rfl fun ⟨_, same⟩ => nomatch same
    · cases ran
      exact Effect.moved _ tx _ (afterResync_number _ _) fun acquires =>
        absurd acquires not_acquires_afterResync
    · cases ran
  | resume => exact resume_effect ran
  | buildFails tx =>
    dsimp only [step] at ran
    split at ran
    · cases ran
      exact Effect.moved _ tx _ rfl fun ⟨_, same⟩ => nomatch same
    · cases ran
  | submitted tx =>
    dsimp only [step] at ran
    split at ran
    · split at ran
      · cases ran
        exact Effect.moved _ tx _ rfl fun ⟨_, same⟩ => nomatch same
      · cases ran
    · cases ran
  | rejected tx =>
    dsimp only [step] at ran
    split at ran
    · cases ran
      exact Effect.moved _ tx _ (afterRejection_number _ _) fun acquires =>
        absurd acquires not_acquires_afterRejection
    · cases ran

/-- The counter is set before it is used. -/
structure Counted (state : State Tx) : Prop where
  set : state.pool.initialized = true → ∃ sequence, state.pool.sequence = some sequence
  acquiring : ∀ tx, (state.phase tx).Acquires → state.pool.initialized = true
  submitting : ∀ tx sequence, (state.phase tx).number = some sequence →
    state.pool.initialized = true

/-- No used number is above the counter. -/
structure Ordered (state : State Tx) : Prop where
  counted : Counted state
  below : ∀ tx sequence, (state.phase tx).number = some sequence →
    ∃ counter, state.pool.sequence = some counter ∧ sequence ≤ counter
  distinct : Distinct state

theorem number_of_move {phase : Phase} {sequence : Int} (numberless : phase.number = none)
    (held : ((state.move tx phase).phase other).number = some sequence) :
    (state.phase other).number = some sequence := by
  by_cases own : other = tx
  · rw [own, move_phase_self, numberless] at held
    cases held
  · rwa [move_phase_of_ne own] at held

theorem Counted.step (counted : Counted state) (effect : Effect state event next) :
    Counted next := by
  cases effect with
  | advanced => exact ⟨counted.set, counted.acquiring, counted.submitting⟩
  | moved _ tx _ numberless acquires =>
    refine ⟨counted.set, fun other held => ?_, fun other sequence held => ?_⟩
    · by_cases own : other = tx
      · rw [own, move_phase_self] at held
        exact acquires held
      · rw [move_phase_of_ne own] at held
        exact counted.acquiring other held
    · exact counted.submitting other sequence (number_of_move numberless held)
  | read tx answer _ _ _ numberless kept acquires =>
    refine ⟨fun _ => ⟨answer, rfl⟩, fun other held => ?_, fun other sequence held => ?_⟩
    · by_cases own : other = tx
      · rw [own, move_phase_self] at held
        exact acquires held
      · rw [move_phase_of_ne own] at held
        exact kept (counted.acquiring other held)
    · exact kept (counted.submitting other sequence (number_of_move numberless held))
  | took tx attempt sequence acquiring =>
    have initialized := counted.acquiring tx ⟨attempt, acquiring⟩
    exact ⟨fun _ => ⟨sequence + 1, rfl⟩, fun _ _ => initialized, fun _ _ _ => initialized⟩

theorem Ordered.step (ordered : Ordered state) (fresh : Fresh state event)
    (effect : Effect state event next) : Ordered next := by
  have counted := ordered.counted.step effect
  cases effect with
  | advanced => exact ⟨counted, ordered.below, ordered.distinct⟩
  | moved _ _ _ numberless =>
    refine ⟨counted, fun other sequence held => ?_, fun first second sequence one two => ?_⟩
    · exact ordered.below other sequence (number_of_move numberless held)
    · exact ordered.distinct first second sequence (number_of_move numberless one)
        (number_of_move numberless two)
  | read _ answer _ _ answered numberless =>
    refine ⟨counted, fun other sequence held => ⟨answer, rfl, ?_⟩,
      fun first second sequence one two => ?_⟩
    · exact fresh answer answered other sequence (number_of_move numberless held)
    · exact ordered.distinct first second sequence (number_of_move numberless one)
        (number_of_move numberless two)
  | took tx _ sequence _ counter =>
    have below : ∀ other held, (state.phase other).number = some held → held ≤ sequence := by
      intro other held used
      obtain ⟨_, set, bound⟩ := ordered.below other held used
      cases counter.symm.trans set
      exact bound
    refine ⟨counted, fun other held used => ⟨sequence + 1, rfl, ?_⟩,
      fun first second held one two => ?_⟩
    · by_cases own : other = tx
      · rw [own, move_phase_self] at used
        exact Int.le_of_eq (Option.some.inj used).symm
      · rw [move_phase_of_ne own] at used
        exact Int.le_trans (below other held used) (Int.le_of_lt (Int.lt_succ sequence))
    · by_cases mine : first = tx
      · by_cases also : second = tx
        · exact mine.trans also.symm
        · rw [mine, move_phase_self] at one
          rw [move_phase_of_ne also] at two
          cases one
          exact absurd (below second _ two) (Int.not_le.mpr (Int.lt_succ sequence))
      · rw [move_phase_of_ne mine] at one
        by_cases also : second = tx
        · rw [also, move_phase_self] at two
          cases two
          exact absurd (below first _ one) (Int.not_le.mpr (Int.lt_succ sequence))
        · rw [move_phase_of_ne also] at two
          exact ordered.distinct first second held one two

omit [DecidableEq Tx] in
theorem ordered_start (ledger : Int) : Ordered ({ ledger } : State Tx) :=
  ⟨⟨nofun, nofun, nofun⟩, nofun, nofun⟩

/-- The initial answer of the second transaction arrives after the number of the first. -/
def lateAnswer : List (Event Nat) :=
  [.flush 0, .flush 1, .answer 0, .answer 1, .resume 0, .resume 0, .resume 1, .resume 1]

/-- As long as no transaction reads an answer that is smaller than a number whose submission is
not answered, all these numbers differ. -/
theorem numbers_differ (retryAttempts : Nat) (ledger : Int) (events : List (Event Tx))
    (fresh : (machine retryAttempts).Meets Fresh { ledger } events) :
    (machine retryAttempts).Always Distinct { ledger } events := by
  have ordered : (machine retryAttempts).Always Ordered { ledger } events := by
    refine always_of_meets ?_ (ordered_start ledger) fresh
    intro state event next ordered read ran
    exact ordered.step read (step_effect (ofStep_exec_eq_ok.mp ran))
  exact ordered.mono fun state ordered => ordered.distinct

theorem numbers_differ_twice :
    (machine 3).Always Distinct { ledger := 10 }
      ([.flush 0, .answer 0, .resume 0, .resume 0, .flush 1, .resume 1] : List (Event Nat)) := by
  refine numbers_differ 3 10 _ ⟨fun _ => trivial, fun _ => trivial, fun _ => ?_, fun _ => ?_,
    fun _ => trivial, fun _ => ?_, trivial⟩
  · intro answer _ other sequence held
    cases other with
    | zero => cases held
    | succ => cases held
  · intro answer answered
    cases answered
  · intro answer answered
    cases answered

/-- Both transactions submit number 11. -/
theorem numbers_collide : ¬ (machine 3).Always Distinct { ledger := 10 } lateAnswer := by
  intro distinct
  have same := distinct.final 0 1 11 rfl rfl
  cases same

end SorobanPlayground.Backend.NoncePool
