import Mathlib.Tactic.Ring
import SorobanPlayground.Escrow.AtomicSwap

/-! # The life of an atomic swap

`Transition` is the protocol of a swap: the maker opens it, the taker funds it,
and it is settled once, by an exchange of both legs or by the return of what is
locked, each transition with the token movements it makes. Every call of the
contract makes at most one transition of one swap. From this follow that the
contract always holds the legs of the unsettled swaps and that the statistics
count the swaps.
-/

namespace SorobanPlayground.Escrow

open State

variable {Address : Type} {contract : Address}

/-- A swap whose legs the contract still holds. -/
def AtomicSwapStatus.unsettled : AtomicSwapStatus → Bool
  | .awaitingCounterparty => true
  | .funded => true
  | _ => false

/-- The movements that return what is locked: the maker's leg, and the taker's
leg once it is funded. -/
def AtomicSwap.refundLegs (contract : Address) (swap : AtomicSwap Address) : List (Leg Address) :=
  ⟨swap.offeredToken, contract, swap.maker, swap.offeredAmount⟩ ::
    if swap.status = .funded then
      [⟨swap.requestedToken, contract, swap.taker, swap.requestedAmount⟩]
    else []

/-- The transitions of a swap at a time, with the token movements they make. -/
inductive Transition (sha256 : Bytes → BitVec 256) (contract : Address) (now : Nat) :
    Option (AtomicSwap Address) → AtomicSwap Address → List (Leg Address) → Prop where
  | opened {swap : AtomicSwap Address} (status : swap.status = .awaitingCounterparty)
      (early : now < swap.expiresAt) :
      Transition sha256 contract now none swap
        [⟨swap.offeredToken, swap.maker, contract, swap.offeredAmount⟩]
  | funded {swap : AtomicSwap Address} (status : swap.status = .awaitingCounterparty)
      (early : now < swap.expiresAt) :
      Transition sha256 contract now (some swap)
        { swap with status := .funded, fundedAt := some now }
        [⟨swap.requestedToken, swap.taker, contract, swap.requestedAmount⟩]
  | claimed {swap : AtomicSwap Address} {preimage : Bytes} (status : swap.status = .funded)
      (early : now < swap.expiresAt) (revealed : sha256 preimage = swap.hashlock) :
      Transition sha256 contract now (some swap)
        { swap with status := .claimed, revealedPreimage := some preimage, settledAt := some now }
        [⟨swap.offeredToken, contract, swap.taker, swap.offeredAmount⟩,
          ⟨swap.requestedToken, contract, swap.maker, swap.requestedAmount⟩]
  | refunded {swap : AtomicSwap Address} (status : swap.status.unsettled = true)
      (late : swap.expiresAt ≤ now) :
      Transition sha256 contract now (some swap)
        { swap with status := .refunded, settledAt := some now } (swap.refundLegs contract)
  | cancelled {swap : AtomicSwap Address} (status : swap.status = .awaitingCounterparty)
      (early : now < swap.expiresAt) :
      Transition sha256 contract now (some swap)
        { swap with status := .cancelled, settledAt := some now } (swap.refundLegs contract)

variable [DecidableEq Address]

/-- What the contract holds of a token for a swap. -/
def AtomicSwap.held (swap : AtomicSwap Address) (token : Address) : Int :=
  (if swap.status.unsettled = true ∧ token = swap.offeredToken then swap.offeredAmount else 0) +
    if swap.status = .funded ∧ token = swap.requestedToken then swap.requestedAmount else 0

/-- The legs of a token that unsettled swaps hold. -/
def State.held (state : State Address) (token : Address) : Int :=
  state.atomicSwaps.total fun _ swap => swap.held token

/-- The contract's balance of each token covers the legs it holds. -/
def Covered (contract : Address) (state : State Address) : Prop :=
  ∀ token, state.held token ≤ state.ledger token contract

inductive Counter where
  | total
  | active
  | claimed
  | refunded
  | cancelled

def Counter.read : Counter → AtomicSwapStats → Nat
  | .total, stats => stats.total
  | .active, stats => stats.active
  | .claimed, stats => stats.claimed
  | .refunded, stats => stats.refunded
  | .cancelled, stats => stats.cancelled

def Counter.counts : Counter → AtomicSwapStatus → Bool
  | .total, _ => true
  | .active, status => status.unsettled
  | .claimed, status => decide (status = .claimed)
  | .refunded, status => decide (status = .refunded)
  | .cancelled, status => decide (status = .cancelled)

def Counter.weight (counter : Counter) (_ : Nat) (swap : AtomicSwap Address) : Int :=
  if counter.counts swap.status then 1 else 0

def State.count (state : State Address) (counter : Counter) : Int :=
  state.atomicSwaps.total counter.weight

structure Sound (contract : Address) (state : State Address) : Prop where
  named : ∀ id swap, state.atomicSwaps.get id = some swap → swap.id = id
  allocated : ∀ id swap, state.atomicSwaps.get id = some swap → id ≤ state.atomicSwapCount
  external : ∀ id swap, state.atomicSwaps.get id = some swap →
    swap.maker ≠ contract ∧ (swap.status = .funded → swap.taker ≠ contract)
  ready : ∀ id swap, state.atomicSwaps.get id = some swap → state.initialized = true
  covered : Covered contract state
  counted : ∀ counter : Counter, (counter.read state.atomicSwapStats : Int) = state.count counter
  numbered : state.atomicSwapStats.total = state.atomicSwapCount
  bounded : state.atomicSwapCount ≤ u64Max

/-- A call makes one transition of one swap. -/
structure Step (sha256 : Bytes → BitVec 256) (now : Nat) (contract : Address)
    (state next : State Address) (id : Nat) (after : AtomicSwap Address)
    (legs : List (Leg Address)) : Prop where
  transition : Transition sha256 contract now (state.atomicSwaps.get id) after legs
  named : after.id = id
  external : after.maker ≠ contract ∧ (after.status = .funded → after.taker ≠ contract)
  ready : next.initialized = true
  written : next.atomicSwaps = state.atomicSwaps.set id after
  moved : Moved legs state.ledger next.ledger
  counted : ∀ counter : Counter, (counter.read next.atomicSwapStats : Int) =
    counter.read state.atomicSwapStats -
      FiniteMap.weightAt counter.weight id (state.atomicSwaps.get id) + counter.weight id after
  numbered : state.atomicSwapStats.total = state.atomicSwapCount →
    next.atomicSwapStats.total = next.atomicSwapCount
  bounded : state.atomicSwapCount ≤ u64Max → next.atomicSwapCount ≤ u64Max
  grown : state.atomicSwapCount ≤ next.atomicSwapCount
  allocated : id ≤ next.atomicSwapCount

variable {sha256 : Bytes → BitVec 256} {now : Nat} {state next : State Address} {id : Nat}
  {before : Option (AtomicSwap Address)} {after : AtomicSwap Address} {legs : List (Leg Address)}
  {swap : AtomicSwap Address}

theorem AtomicSwap.held_of_awaiting (status : swap.status = .awaitingCounterparty) (token : Address)
    :
    swap.held token = if token = swap.offeredToken then swap.offeredAmount else 0 := by
  simp [AtomicSwap.held, status, AtomicSwapStatus.unsettled]

theorem AtomicSwap.held_of_funded {swap : AtomicSwap Address} (status : swap.status = .funded)
    (token : Address) : swap.held token =
      (if token = swap.offeredToken then swap.offeredAmount else 0) +
        if token = swap.requestedToken then swap.requestedAmount else 0 := by
  simp [AtomicSwap.held, status, AtomicSwapStatus.unsettled]

theorem AtomicSwap.held_of_settled (status : swap.status.unsettled = false) (token : Address) :
    swap.held token = 0 := by
  have unfunded : swap.status ≠ .funded := by
    intro funded
    rw [funded] at status
    cases status
  simp [AtomicSwap.held, status, unfunded]

theorem AtomicSwap.moved_refundLegs (status : swap.status.unsettled = true)
    (maker : swap.maker ≠ contract) (taker : swap.status = .funded → swap.taker ≠ contract)
    (token : Address) : movedBy (swap.refundLegs contract) token contract = -swap.held token := by
  unfold AtomicSwap.refundLegs
  cases stage : swap.status with
  | awaitingCounterparty =>
    rw [if_neg nofun, movedBy_cons, movedBy_nil, transferDelta_out maker,
      AtomicSwap.held_of_awaiting stage, add_zero]
  | funded =>
    rw [if_pos rfl, movedBy_cons, movedBy_cons, movedBy_nil, transferDelta_out maker,
      transferDelta_out (taker stage), AtomicSwap.held_of_funded stage]
    ring
  | claimed => rw [stage] at status; cases status
  | refunded => rw [stage] at status; cases status
  | cancelled => rw [stage] at status; cases status

/-- A transition moves into the contract what the swap holds after it and did
not hold before. -/
theorem Transition.moved_contract (transition : Transition sha256 contract now before after legs)
    (maker : after.maker ≠ contract) (taker : after.status = .funded → after.taker ≠ contract)
    (funder : ∀ swap, before = some swap → swap.status = .funded → swap.taker ≠ contract)
    (token : Address) (id : Nat) : movedBy legs token contract =
      after.held token -
        FiniteMap.weightAt (fun _ swap => AtomicSwap.held swap token) id before := by
  cases transition with
  | opened status =>
    rw [movedBy_cons, movedBy_nil, transferDelta_in maker, AtomicSwap.held_of_awaiting status,
      weightAt_none]
    ring
  | @funded swap status early =>
    rw [movedBy_cons, movedBy_nil, transferDelta_in (taker rfl), weightAt_some,
      AtomicSwap.held_of_awaiting status, AtomicSwap.held_of_funded rfl]
    ring
  | @claimed swap preimage status early revealed =>
    have recipient := funder swap rfl status
    rw [movedBy_cons, movedBy_cons, movedBy_nil, transferDelta_out recipient, transferDelta_out
      maker, weightAt_some, AtomicSwap.held_of_funded status, AtomicSwap.held_of_settled
      rfl]
    ring
  | @refunded swap status late =>
    have settled :
        AtomicSwap.held { swap with status := .refunded, settledAt := some now } token = 0 :=
      AtomicSwap.held_of_settled rfl token
    rw [AtomicSwap.moved_refundLegs status maker (funder swap rfl), weightAt_some,
      settled, zero_sub]
  | @cancelled swap status early =>
    have unsettled : swap.status.unsettled = true := by rw [status]; rfl
    have settled : AtomicSwap.held { swap with status := .cancelled, settledAt := some now }
        token = 0 := AtomicSwap.held_of_settled rfl token
    rw [AtomicSwap.moved_refundLegs unsettled maker (funder swap rfl), weightAt_some,
      settled, zero_sub]

theorem Step.keeps (step : Step sha256 now contract state next id after legs)
    (sound : Sound contract state) : Sound contract next where
  named := by
    rw [step.written]
    exact forall_set sound.named step.named
  allocated := by
    rw [step.written]
    refine forall_set (fun other swap found => ?_) step.allocated
    exact (sound.allocated other swap found).trans step.grown
  external := by
    rw [step.written]
    exact forall_set sound.external step.external
  ready := fun _ _ _ => step.ready
  covered := fun token => by
    have before := sound.covered token
    have moved := step.moved token contract
    have legs := step.transition.moved_contract step.external.1 step.external.2
      (fun swap found => (sound.external id swap found).2) token id
    have held : next.held token = state.held token -
        FiniteMap.weightAt (fun _ swap => swap.held token) id (state.atomicSwaps.get id) +
          after.held token := by
      unfold held
      rw [step.written]
      exact total_set _ _ _ _
    omega
  counted := fun counter => by
    have wrote : next.count counter = state.count counter -
        FiniteMap.weightAt counter.weight id (state.atomicSwaps.get id) +
          counter.weight id after := by
      unfold count
      rw [step.written]
      exact total_set _ _ _ _
    rw [step.counted counter, sound.counted counter, wrote]
  numbered := step.numbered sound.numbered
  bounded := step.bounded sound.bounded

variable {tokens : TokenHost Address} {sha256 : Bytes → BitVec 256} {env : Env Address contract}
  {state next : State Address} {maker taker : Address}

theorem createAtomicSwap_step {offeredToken : Address} {offeredAmount : Int}
    {requestedToken : Address} {requestedAmount : Int} {hashlock : BitVec 256} {expiresAt id : Nat}
    (sound : Sound contract state)
    (ran : createAtomicSwap tokens env maker taker offeredToken offeredAmount requestedToken
      requestedAmount hashlock expiresAt state = .ok (id, next)) :
    ∃ swap legs, Step sha256 env.timestamp contract state next id swap legs := by
  simp only [createAtomicSwap, ensureInitialized, nextAtomicSwapId, call_ok, arith_ok] at ran
  obtain ⟨ready, signed, -, -, -, -, -, timely, -, bound, -, -, _, paid, rfl, rfl⟩ := ran
  have gone : state.atomicSwaps.get (state.atomicSwapCount + 1) = none := by
    cases found : state.atomicSwaps.get (state.atomicSwapCount + 1) with
    | none => rfl
    | some swap => exact absurd (sound.allocated _ swap found) (Nat.not_succ_le_self _)
  have early : env.timestamp < expiresAt := by
    unfold minTimelockSeconds at timely
    omega
  have maker := env.ne_contract signed
  refine ⟨_, _, ?_, rfl, ⟨maker, fun status => ?_⟩, ready, rfl, tokens.pay_moved paid,
    ?_, ?_, fun _ => bound, ?_, le_rfl⟩
  · rw [gone]
    exact .opened rfl early
  · cases status
  · intro counter
    rw [gone, weightAt_none]
    cases counter <;> simp [Counter.read, Counter.weight, Counter.counts, withLedger,
      setAtomicSwapStats, AtomicSwapStatus.unsettled]
  · intro numbered
    exact congrArg (· + 1) numbered
  · exact Nat.le_succ _

variable {swapId : Nat}

theorem fundAtomicSwap_step (sound : Sound contract state)
    (ran : fundAtomicSwap tokens env swapId taker state = .ok next) :
    ∃ swap legs, Step sha256 env.timestamp contract state next swapId swap legs := by
  simp only [fundAtomicSwap, ensureInitialized, getAtomicSwap, call_ok] at ran
  obtain ⟨ready, signed, swap, got, rfl, status, early, _, paid, rfl⟩ := ran
  have named := sound.named swapId swap got
  have maker := (sound.external swapId swap got).1
  refine ⟨{ swap with status := .funded, fundedAt := some env.timestamp }, _, ?_, named,
    ⟨maker, fun _ => env.ne_contract signed⟩, ready, ?_, tokens.pay_moved paid, ?_, id, id,
    le_rfl, sound.allocated swapId swap got⟩
  · rw [got]
    exact .funded status early
  · rw [← named]
    rfl
  · intro counter
    rw [got, weightAt_some]
    cases counter <;> simp [Counter.read, Counter.weight, Counter.counts, withLedger,
      setAtomicSwap, AtomicSwapStatus.unsettled, status]

variable {status : AtomicSwapStatus}

section

omit [DecidableEq Address]

theorem AtomicSwapStatus.unsettled_iff :
    status.unsettled = true ↔ status = .awaitingCounterparty ∨ status = .funded := by
  cases status <;> simp [AtomicSwapStatus.unsettled]

theorem counted_settled {stats settled : AtomicSwapStats} {swap after : AtomicSwap Address}
    (unsettled : swap.status.unsettled = true) (left : after.status.unsettled = false)
    (pos : 1 ≤ stats.active) (total : settled.total = stats.total)
    (active : settled.active = stats.active - 1)
    (claimed : settled.claimed = stats.claimed + if after.status = .claimed then 1 else 0)
    (refunded : settled.refunded = stats.refunded + if after.status = .refunded then 1 else 0)
    (cancelled : settled.cancelled = stats.cancelled + if after.status = .cancelled then 1 else 0)
    (id : Nat) (counter : Counter) : (counter.read settled : Int) =
      counter.read stats - FiniteMap.weightAt counter.weight id (some swap) +
        counter.weight id after := by
  unfold Counter.weight
  rcases AtomicSwapStatus.unsettled_iff.mp unsettled with stage | stage
  · rw [stage] at unsettled
    cases counter <;> simp [Counter.read, Counter.counts, stage, unsettled, left, total, active,
      claimed, refunded, cancelled, pos]
  · rw [stage] at unsettled
    cases counter <;> simp [Counter.read, Counter.counts, stage, unsettled, left, total, active,
      claimed, refunded, cancelled, pos]

end

theorem claimAtomicSwap_step {preimage : Bytes} (sound : Sound contract state)
    (ran : claimAtomicSwap tokens sha256 env swapId preimage state = .ok next) :
    ∃ swap legs, Step sha256 env.timestamp contract state next swapId swap legs := by
  simp only [claimAtomicSwap, ensureInitialized, getAtomicSwap, call_ok, arith_ok,
    checkedSubUnsigned_eq_ok] at ran
  obtain ⟨ready, -, swap, got, status, early, revealed, pos, -, _,
    first, _, second, rfl⟩ := ran
  have named := sound.named swapId swap got
  have maker := (sound.external swapId swap got).1
  have unsettled := AtomicSwapStatus.unsettled_iff.mpr (.inr status)
  have moved := (tokens.pay_moved first).append (tokens.pay_moved second)
  have transition : Transition sha256 contract env.timestamp (some swap) _ _ :=
    .claimed status early revealed
  rw [← got] at transition
  refine ⟨_, _, transition, named, ⟨maker, fun again => ?_⟩, ready, ?_,
    moved, ?_, id, id, le_rfl, sound.allocated swapId swap got⟩
  · cases again
  · rw [← named]
    rfl
  · intro counter
    rw [got]
    refine counted_settled unsettled ?_ pos ?_ ?_ ?_ ?_ ?_ swapId counter
    all_goals rfl

theorem returnFunded_moved {paid ledger : TokenLedger Address} {start : TokenLedger Address}
    (first : Moved [⟨swap.offeredToken, contract, swap.maker, swap.offeredAmount⟩] start paid)
    (returned : returnFunded tokens contract swap (decide (swap.status = .funded)) paid =
      .ok ledger) : Moved (swap.refundLegs contract) start ledger := by
  unfold returnFunded at returned
  unfold AtomicSwap.refundLegs
  by_cases funded : swap.status = .funded
  · rw [if_pos (decide_eq_true funded)] at returned
    rw [if_pos funded]
    exact first.append (tokens.pay_moved returned)
  · rw [if_neg (by simpa using funded)] at returned
    rw [if_neg funded]
    cases returned
    exact first

theorem refundable_unsettled
    (refundable : ¬ (decide (status = .funded) = false ∧ status ≠ .awaitingCounterparty)) :
    status.unsettled = true := by
  apply AtomicSwapStatus.unsettled_iff.mpr
  by_contra settled
  obtain ⟨awaiting, funded⟩ := not_or.mp settled
  exact refundable ⟨decide_eq_false funded, awaiting⟩

section

variable (sound : Sound contract state)
include sound

theorem refundAtomicSwap_step (ran : refundAtomicSwap tokens env swapId state = .ok next) :
    ∃ swap legs, Step sha256 env.timestamp contract state next swapId swap legs := by
  simp only [refundAtomicSwap, ensureInitialized, getAtomicSwap, call_ok, arith_ok,
    checkedSubUnsigned_eq_ok] at ran
  obtain ⟨ready, swap, got, refundable, late, pos, -, _, first,
    _, second, rfl⟩ := ran
  have named := sound.named swapId swap got
  have maker := (sound.external swapId swap got).1
  have unsettled := refundable_unsettled refundable
  have moved := returnFunded_moved (tokens.pay_moved first) second
  have transition : Transition sha256 contract env.timestamp (some swap) _ _ :=
    .refunded unsettled late
  rw [← got] at transition
  refine ⟨_, _, transition, named, ⟨maker, fun again => ?_⟩, ready, ?_,
    moved, ?_, id, id, le_rfl, sound.allocated swapId swap got⟩
  · cases again
  · rw [← named]
    rfl
  · intro counter
    rw [got]
    refine counted_settled unsettled ?_ pos ?_ ?_ ?_ ?_ ?_ swapId counter
    all_goals rfl

theorem cancelAtomicSwap_step (ran : cancelAtomicSwap tokens env swapId maker state = .ok next) :
    ∃ swap legs, Step sha256 env.timestamp contract state next swapId swap legs := by
  simp only [cancelAtomicSwap, ensureInitialized, getAtomicSwap, call_ok, arith_ok,
    checkedSubUnsigned_eq_ok] at ran
  obtain ⟨ready, _, swap, got, rfl, status, early, pos, -,
    ledger, paid, rfl⟩ := ran
  have named := sound.named swapId swap got
  have maker := (sound.external swapId swap got).1
  have unsettled := AtomicSwapStatus.unsettled_iff.mpr (.inl status)
  have moved : Moved (swap.refundLegs contract) state.ledger ledger := by
    unfold AtomicSwap.refundLegs
    rw [status, if_neg (by simp)]
    exact tokens.pay_moved paid
  have transition : Transition sha256 contract env.timestamp (some swap) _ _ :=
    .cancelled status early
  rw [← got] at transition
  refine ⟨_, _, transition, named, ⟨maker, fun again => ?_⟩, ready, ?_,
    moved, ?_, id, id, le_rfl, sound.allocated swapId swap got⟩
  · cases again
  · rw [← named]
    rfl
  · intro counter
    rw [got]
    refine counted_settled unsettled ?_ pos ?_ ?_ ?_ ?_ ?_ swapId counter
    all_goals rfl

variable {call : Env Address contract × Operation Address}

theorem dispatch_cases (ran : dispatch tokens sha256 state call = .ok next) :
    (∃ id swap legs, Step sha256 call.1.timestamp contract state next id swap legs) ∨
      (next.atomicSwaps = state.atomicSwaps ∧ Sound contract next) := by
  obtain ⟨env, op⟩ := call
  cases op with
  | initializeEscrow =>
    simp only [dispatch, initializeEscrow, call_ok] at ran
    obtain ⟨-, _, -, -, rfl⟩ := ran
    exact .inr ⟨rfl, ⟨sound.named, sound.allocated, sound.external, fun _ _ _ => rfl,
      sound.covered, sound.counted, sound.numbered, sound.bounded⟩⟩
  | createAtomicSwap =>
    obtain ⟨⟨id, _⟩, created, rfl⟩ := map_eq_ok.mp ran
    exact .inl ⟨id, createAtomicSwap_step sound created⟩
  | fundAtomicSwap swapId => exact .inl ⟨swapId, fundAtomicSwap_step sound ran⟩
  | claimAtomicSwap swapId => exact .inl ⟨swapId, claimAtomicSwap_step sound ran⟩
  | refundAtomicSwap swapId => exact .inl ⟨swapId, refundAtomicSwap_step sound ran⟩
  | cancelAtomicSwap swapId => exact .inl ⟨swapId, cancelAtomicSwap_step sound ran⟩
  | transfer =>
    simp only [dispatch, payAs, call_ok] at ran
    obtain ⟨ledger, ⟨signed, paid⟩, rfl⟩ := ran
    refine .inr ⟨rfl, ⟨sound.named, sound.allocated, sound.external, sound.ready, fun read => ?_,
      sound.counted, sound.numbered, sound.bounded⟩⟩
    have before := sound.covered read
    have grown := tokens.pay_le paid (env.ne_contract signed).symm read
    change state.held read ≤ (ledger read contract : Int)
    omega

theorem dispatch_sound (ran : dispatch tokens sha256 state call = .ok next) :
    Sound contract next := by
  rcases dispatch_cases sound ran with ⟨_, _, _, step⟩ | ⟨-, kept⟩
  · exact step.keeps sound
  · exact kept

end

variable {state next : State Address}

def State.unsettledAt (state : State Address) (id : Nat) : Bool :=
  (state.atomicSwaps.get id).elim false fun swap => swap.status.unsettled

def State.settledAt (state : State Address) (id : Nat) : Bool :=
  (state.atomicSwaps.get id).elim false fun swap => !swap.status.unsettled

def Leaves (id : Nat) (state next : State Address) : Prop :=
  state.unsettledAt id = true ∧ next.unsettledAt id = false

instance (id : Nat) : DecidableRel (@Leaves Address id) :=
  fun _ _ => inferInstanceAs (Decidable (_ ∧ _))

omit [DecidableEq Address] in
theorem Transition.unsettled {swap after : AtomicSwap Address} {legs : List (Leg Address)}
    (transition : Transition sha256 contract now (some swap) after legs) :
    swap.status.unsettled = true := by
  cases transition with
  | funded status => rw [status]; rfl
  | claimed status => rw [status]; rfl
  | refunded status => exact status
  | cancelled status => rw [status]; rfl

theorem Step.settledAt {id : Nat} {after : AtomicSwap Address} {legs : List (Leg Address)}
    (step : Step sha256 now contract state next id after legs) : state.settledAt id = false := by
  unfold State.settledAt
  have transition := step.transition
  cases got : state.atomicSwaps.get id with
  | none => rfl
  | some =>
    rw [got] at transition
    have unsettled := transition.unsettled
    simp only [Option.elim_some, unsettled, Bool.not_true]

theorem Step.get_of_ne {id other : Nat} {after : AtomicSwap Address} {legs : List (Leg Address)}
    (step : Step sha256 now contract state next id after legs) (ne : other ≠ id) :
    next.atomicSwaps.get other = state.atomicSwaps.get other := by
  rw [step.written, get_set_of_ne _ _ ne]

theorem Step.leaves_iff {id : Nat} {after : AtomicSwap Address} {legs : List (Leg Address)}
    (step : Step sha256 now contract state next id after legs) (read : Nat) :
    Leaves read state next ↔ ¬ state.settledAt read = true ∧ next.settledAt read = true := by
  by_cases same : read = id
  · subst same
    have got : next.atomicSwaps.get read = some after := by
      rw [step.written, get_set_self]
    have transition := step.transition
    have open' := step.settledAt
    unfold Leaves unsettledAt
    rw [open', State.settledAt, got]
    cases before : state.atomicSwaps.get read with
    | none =>
      rw [before] at transition
      cases transition with
      | opened status => simp [status, AtomicSwapStatus.unsettled]
    | some =>
      rw [before] at transition
      simp [transition.unsettled]
  · have unchanged := step.get_of_ne same
    unfold Leaves unsettledAt State.settledAt
    rw [unchanged]
    constructor
    · rintro ⟨inside, outside⟩
      rw [inside] at outside
      cases outside
    · rintro ⟨outside, inside⟩
      exact absurd inside outside

variable {state : State Address}

section

omit [DecidableEq Address]

theorem Counter.weight_nonneg (counter : Counter) (id : Nat) (swap : AtomicSwap Address) :
    0 ≤ counter.weight id swap := by
  unfold Counter.weight
  split <;> decide

theorem State.count_total (state : State Address) :
    state.count .total = state.count .active + state.count .claimed + state.count .refunded +
      state.count .cancelled := by
  unfold count
  rw [← FiniteMap.total_add, ← FiniteMap.total_add, ← FiniteMap.total_add]
  refine congrArg _ (funext fun id => funext fun swap => ?_)
  unfold Counter.weight
  cases status : swap.status <;> rfl

end

theorem Sound.balanced (sound : Sound contract state) : state.atomicSwapStats.total =
    state.atomicSwapStats.active + state.atomicSwapStats.claimed +
      state.atomicSwapStats.refunded + state.atomicSwapStats.cancelled := by
  have total := state.count_total
  have counted := fun counter => sound.counted counter
  rw [← counted, ← counted, ← counted, ← counted, ← counted] at total
  simp only [Counter.read] at total
  omega

theorem Sound.active_pos (sound : Sound contract state) {id : Nat}
    (got : state.atomicSwaps.get id = some swap) (unsettled : swap.status.unsettled = true) :
    1 ≤ state.atomicSwapStats.active := by
  have counted := sound.counted .active
  have bound := weight_le_total
    (fun id swap _ => Counter.weight_nonneg Counter.active id swap) got
  have weight : Counter.weight Counter.active id swap = 1 := if_pos unsettled
  simp only [count, Counter.read] at counted
  omega

theorem Sound.room (sound : Sound contract state) {id : Nat} {swap : AtomicSwap Address}
    (got : state.atomicSwaps.get id = some swap) (unsettled : swap.status.unsettled = true) :
    1 ≤ state.atomicSwapStats.active ∧ state.atomicSwapStats.claimed + 1 ≤ u64Max ∧
      state.atomicSwapStats.refunded + 1 ≤ u64Max ∧
      state.atomicSwapStats.cancelled + 1 ≤ u64Max := by
  have active := sound.active_pos got unsettled
  have balanced := sound.balanced
  have numbered := sound.numbered
  have bound := sound.bounded
  omega

/-- A successful call touches no swap or makes one transition of one swap, with
exactly the token movements of the transition. -/
def FollowsLifecycle (tokens : TokenHost Address) (sha256 : Bytes → BitVec 256)
    (state : State Address) (call : Env Address contract × Operation Address) : Prop :=
  ∀ next, dispatch tokens sha256 state call = .ok next →
    next.atomicSwaps = state.atomicSwaps ∨ ∃ id swap legs,
      Transition sha256 contract call.1.timestamp (state.atomicSwaps.get id) swap legs ∧
        next.atomicSwaps = state.atomicSwaps.set id swap ∧ Moved legs state.ledger next.ledger

/-- The statistics add up and count the unsettled swaps as active. -/
def StatsBalance (state : State Address) : Prop :=
  state.atomicSwapStats.total = state.atomicSwapStats.active + state.atomicSwapStats.claimed +
      state.atomicSwapStats.refunded + state.atomicSwapStats.cancelled ∧
    (state.atomicSwapStats.active : Int) =
      state.atomicSwaps.total fun _ swap => if swap.status.unsettled then 1 else 0

def Operation.settles : Operation Address → Bool
  | .claimAtomicSwap _ _ => true
  | .refundAtomicSwap _ => true
  | .cancelAtomicSwap _ _ => true
  | _ => false

/-- No call that settles a swap fails in the arithmetic of the statistics. -/
def NeverOverflows (tokens : TokenHost Address) (sha256 : Bytes → BitVec 256) (contract : Address)
    (state : State Address) : Prop :=
  ∀ call : Env Address contract × Operation Address, call.2.settles = true →
    dispatch tokens sha256 state call ≠ .error (.error .overflow)

theorem returnFunded_ne_error {wasFunded : Bool} {ledger : TokenLedger Address} {reason : Error} :
    returnFunded tokens contract swap wasFunded ledger ≠ .error (.error reason) := by
  unfold returnFunded
  split
  · exact tokens.pay_ne_error
  · nofun

theorem Sound.neverOverflows {state : State Address} (sound : Sound contract state) :
    NeverOverflows tokens sha256 contract state := by
  rintro ⟨_, op⟩ settles failed
  cases op with
  | claimAtomicSwap =>
    simp only [dispatch, claimAtomicSwap, ensureInitialized, getAtomicSwap,
      bind_eq_error, pure_ne_error, ensure_eq_error, ensure_eq_ok, orError_eq_error,
      orError_eq_ok, checkedSubUnsigned_eq_error, checkedSubUnsigned_eq_ok, inUnsigned_eq_error,
      arith_ok, tokens.pay_ne_error, exists_const, Failure.error.injEq, reduceCtorEq, and_false,
      and_true, false_or, or_false] at failed
    obtain ⟨-, -, swap, got, status, -, -, spare⟩ := failed
    have room := sound.room got (AtomicSwapStatus.unsettled_iff.mpr (.inr status))
    omega
  | refundAtomicSwap =>
    simp only [dispatch, refundAtomicSwap, ensureInitialized, getAtomicSwap,
      bind_eq_error, pure_ne_error, ensure_eq_error, ensure_eq_ok, orError_eq_error,
      orError_eq_ok, checkedSubUnsigned_eq_error, checkedSubUnsigned_eq_ok, inUnsigned_eq_error,
      arith_ok, tokens.pay_ne_error, returnFunded_ne_error, exists_const, Failure.error.injEq,
      reduceCtorEq, and_false, and_true, false_or, or_false] at failed
    obtain ⟨-, swap, got, refundable, -, spare⟩ := failed
    have room := sound.room got (refundable_unsettled refundable)
    omega
  | cancelAtomicSwap =>
    simp only [dispatch, cancelAtomicSwap, ensureInitialized, getAtomicSwap,
      bind_eq_error, pure_ne_error, requireAuth_eq_error, requireAuth_eq_ok,
      ensure_eq_error, ensure_eq_ok, orError_eq_error, orError_eq_ok, checkedSubUnsigned_eq_error,
      checkedSubUnsigned_eq_ok, inUnsigned_eq_error, arith_ok, tokens.pay_ne_error, exists_const,
      Failure.error.injEq, reduceCtorEq, and_false, and_true, false_or, or_false] at failed
    obtain ⟨-, -, _, got, -, status, -, spare⟩ := failed
    have room := sound.room got (AtomicSwapStatus.unsettled_iff.mpr (.inl status))
    omega
  | _ => cases settles

/-- From its expiry on, every unsettled swap can be refunded by anyone, unless a
token refuses its transfer. -/
def Refundable (tokens : TokenHost Address) (sha256 : Bytes → BitVec 256) (contract : Address)
    (state : State Address) : Prop :=
  ∀ (env : Env Address contract) id swap, state.atomicSwaps.get id = some swap →
    swap.status.unsettled = true → swap.expiresAt ≤ env.timestamp →
    (∃ next, dispatch tokens sha256 state (env, .refundAtomicSwap id) = .ok next) ∨
      dispatch tokens sha256 state (env, .refundAtomicSwap id) = .error .trap

theorem Sound.refundable {state : State Address} (sound : Sound contract state) :
    Refundable tokens sha256 contract state := by
  intro env id swap got unsettled late
  cases outcome : dispatch tokens sha256 state (env, .refundAtomicSwap id) with
  | ok next => exact .inl ⟨next, rfl⟩
  | error failure =>
    cases failure with
    | trap => exact .inr rfl
    | error =>
      have ready := sound.ready id swap got
      have room := sound.room got unsettled
      simp only [dispatch, refundAtomicSwap, ensureInitialized, getAtomicSwap,
        bind_eq_error, pure_ne_error, ensure_eq_error, ensure_eq_ok,
        orError_eq_error, orError_eq_ok, checkedSubUnsigned_eq_error, checkedSubUnsigned_eq_ok,
        inUnsigned_eq_error, arith_ok, tokens.pay_ne_error, returnFunded_ne_error, exists_const,
        Failure.error.injEq, and_false, or_false] at outcome
      rcases outcome with ⟨unready, -⟩ | ⟨-, ⟨missing, -⟩ | ⟨_, same, failed⟩⟩
      · exact absurd ready unready
      · rw [got] at missing
        cases missing
      · cases got.symm.trans same
        rcases failed with ⟨refused, -⟩ | ⟨-, ⟨early, -⟩ | ⟨-, spare⟩⟩
        · obtain ⟨unfunded, settled⟩ := not_not.mp refused
          rcases AtomicSwapStatus.unsettled_iff.mp unsettled with awaiting | funded
          · exact absurd awaiting settled
          · exact absurd funded (of_decide_eq_false unfunded)
        · exact absurd late early
        · omega

theorem initial_sound (ledger : TokenLedger Address) : Sound contract { ledger } where
  named := fun _ _ found => nomatch found
  allocated := fun _ _ found => nomatch found
  external := fun _ _ found => nomatch found
  ready := fun _ _ found => nomatch found
  covered := fun token => Int.natCast_nonneg _
  counted := fun counter => by cases counter <;> rfl
  numbered := rfl
  bounded := Nat.zero_le _

end SorobanPlayground.Escrow
