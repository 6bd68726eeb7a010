import Mathlib.Algebra.BigOperators.Ring.Finset
import SorobanPlayground.CrossChainBridge.Contract

/-! # The accounts of the bridge

A deposit is pending until a mint or a refund settles it, and what settles it
depends on whether it has expired. The statistics move with each lock, mint and
refund, so that the locked total is what was minted, what was refunded and what
is still pending.
-/

namespace SorobanPlayground.CrossChainBridge

open State Option

variable {Address : Type} {contract : Address}

/-- The status of a deposit, if there is one of that id. -/
def State.statusOf (state : State Address) (id : Nat) : Option DepositStatus :=
  (state.deposits.get id).map Deposit.status

/-- How many deposits are pending. -/
def State.pendingCount (state : State Address) : Nat :=
  (state.deposits.keys.filter fun id => state.statusOf id = some .pending).card

def Deposit.pendingAmount (deposit : Deposit Address) : Int :=
  if deposit.status = .pending then deposit.amount else 0

/-- The amounts of the pending deposits, added up. -/
def State.pendingAmount (state : State Address) : Int :=
  state.deposits.total fun _ deposit => deposit.pendingAmount

/-- The statistics agree with the deposits. -/
structure Accounted (state : State Address) : Prop where
  totals : state.stats.totalLocked =
    state.stats.totalMinted + state.stats.totalRefunded + state.pendingAmount
  active : state.stats.activeDeposits = state.pendingCount

/-- What a call at a given time may do to the deposits: a new one is pending, a pending one keeps
its amount and its expiry, is minted up to its expiry only and refunded after it only, and a
settled one stays as it is. -/
structure Progress (now : Nat) (state next : State Address) : Prop where
  opened : ∀ id after, state.deposits.get id = none → next.deposits.get id = some after →
    after.status = .pending
  pending : ∀ id deposit, state.deposits.get id = some deposit → deposit.status = .pending →
    ∃ after, next.deposits.get id = some after ∧ after.amount = deposit.amount ∧
      after.expiresAt = deposit.expiresAt ∧
      (after.status = .minted → now ≤ deposit.expiresAt) ∧
      (after.status = .refunded → deposit.expiresAt < now)
  settled : ∀ id deposit, state.deposits.get id = some deposit → deposit.status ≠ .pending →
    next.deposits.get id = some deposit

def LeavesPending (id : Nat) (state next : State Address) : Prop :=
  state.statusOf id = some .pending ∧ next.statusOf id ≠ some .pending

/-- There is a deposit of that id, and it is not pending any more. -/
def Settled (id : Nat) (state : State Address) : Prop :=
  state.statusOf id ≠ none ∧ state.statusOf id ≠ some .pending

instance (id : Nat) : DecidablePred (@Settled Address id) :=
  fun _ => inferInstanceAs (Decidable (_ ∧ _))

instance (id : Nat) : DecidableRel (@LeavesPending Address id) :=
  fun _ _ => inferInstanceAs (Decidable (_ ∧ _))

def Deposit.pendingUnit (deposit : Deposit Address) : Int :=
  if deposit.status = .pending then 1 else 0

theorem pendingCount_eq (state : State Address) :
    (state.pendingCount : Int) = state.deposits.total fun _ deposit => deposit.pendingUnit := by
  rw [FiniteMap.total_eq_sum_keys, pendingCount, Finset.natCast_card_filter]
  apply Finset.sum_congr rfl
  intro id _
  unfold statusOf
  cases state.deposits.get id with
  | none => rfl
  | some =>
    exact if_congr (some_inj) rfl rfl

/-- What a successful call leaves of the deposits and the statistics. -/
inductive Effect (state : State Address) (now : Nat) (next : State Address) : Prop
  | quiet (deposits : next.deposits = state.deposits) (stats : next.stats = state.stats)
      (count : next.depositCount = state.depositCount)
      (opened : next.admin = none → state.admin = none)
  | locked (deposit : Deposit Address) (pending : deposit.status = .pending)
      (deposits : next.deposits = state.deposits.set (state.depositCount + 1) deposit)
      (locked : next.stats.totalLocked = state.stats.totalLocked + deposit.amount)
      (minted : next.stats.totalMinted = state.stats.totalMinted)
      (refunded : next.stats.totalRefunded = state.stats.totalRefunded)
      (active : next.stats.activeDeposits = state.stats.activeDeposits + 1)
      (count : next.depositCount = state.depositCount + 1) (opened : next.admin ≠ none)
  | settled (id : Nat) (deposit after : Deposit Address)
      (stored : state.deposits.get id = some deposit) (pending : deposit.status = .pending)
      (deposits : next.deposits = state.deposits.set id after)
      (amount : after.amount = deposit.amount) (expiry : after.expiresAt = deposit.expiresAt)
      (settles : after.status = .minted ∧ now ≤ deposit.expiresAt ∨
        after.status = .refunded ∧ deposit.expiresAt < now)
      (locked : next.stats.totalLocked = state.stats.totalLocked)
      (released : next.stats.totalMinted + next.stats.totalRefunded =
        state.stats.totalMinted + state.stats.totalRefunded + deposit.amount)
      (active : next.stats.activeDeposits = state.stats.activeDeposits - 1)
      (count : next.depositCount = state.depositCount)
      (opened : next.admin = none → state.admin = none)

structure Books (state : State Address) : Prop where
  numbered : ∀ id deposit, state.deposits.get id = some deposit → id ≤ state.depositCount
  unopened : state.admin = none → state.depositCount = 0
  accounted : Accounted state

variable [DecidableEq Address] {state next : State Address}

omit [DecidableEq Address] in
theorem mintDeposit_effect {env : Env Address contract} {depositId : Nat} {ethTxHash : Bytes}
    (ran : mintDeposit env depositId ethTxHash state = .ok next) :
    Effect state env.timestamp next := by
  simp only [mintDeposit, getDeposit, call_ok, arith_ok] at ran
  obtain ⟨deposit, got, pending, timely, -, rfl⟩ := ran
  refine .settled depositId deposit _ got pending rfl rfl rfl (.inl ⟨rfl, not_lt.mp timely⟩) rfl
    ?_ rfl rfl id
  exact add_right_comm _ _ _

theorem dispatch_effect {call : Env Address contract × Operation Address} (books : Books state)
    (ran : dispatch state call = .ok next) : Effect state call.1.timestamp next := by
  obtain ⟨_, op⟩ := call
  cases op with
  | initializeBridge =>
    simp only [dispatch, initializeBridge, call_ok] at ran
    obtain ⟨fresh, -, -, rfl⟩ := ran
    have none := isSome_eq_false_iff.mp fresh
    exact .quiet rfl rfl (books.unopened (isNone_iff_eq_none.mp none)).symm (by simp)
  | lock =>
    obtain ⟨⟨id, after⟩, locked, rfl⟩ := map_eq_ok.mp ran
    simp only [lock, assertInitialized, accumulateDailyVolume, call_ok, arith_ok] at locked
    obtain ⟨opened, -, -, -, -, -, -, -, -, -, -, -, -, -, -, -, -, -, rfl⟩ := locked
    exact .locked _ rfl rfl rfl rfl rfl rfl rfl (isSome_iff_ne_none.mp opened)
  | confirmMint =>
    simp only [dispatch, confirmMint, call_ok] at ran
    obtain ⟨-, -, -, -, -, minted⟩ := ran
    exact mintDeposit_effect minted
  | confirmMintWithProof =>
    simp only [dispatch, confirmMintWithProof, call_ok] at ran
    obtain ⟨-, -, -, -, -, -, -, -, minted⟩ := ran
    exact mintDeposit_effect minted
  | refund _ depositId =>
    obtain ⟨⟨_, after⟩, refunded, rfl⟩ := map_eq_ok.mp ran
    simp only [refund, getDeposit, call_ok, arith_ok] at refunded
    obtain ⟨-, -, -, deposit, got, -, pending, late, -, -, rfl⟩ := refunded
    refine .settled depositId deposit _ got pending rfl rfl rfl (.inr ⟨rfl, not_le.mp late⟩)
      rfl ?_ rfl rfl id
    exact (add_assoc _ _ _).symm
  | submitProof =>
    obtain ⟨⟨_, _⟩, submitted, rfl⟩ := map_eq_ok.mp ran
    simp only [submitProof, submitValidatorVote, call_ok, arith_ok] at submitted
    obtain ⟨-, -, -, -, -, -, -, -, -, -, -, -, -, -, rfl⟩ := submitted
    exact .quiet rfl rfl rfl id
  | setPaused admin setting | setExpiry admin setting | setRelayer admin account setting
  | setValidator =>
    simp only [dispatch, setPaused, setExpiry, setRelayer, setValidator, call_ok] at ran
    obtain ⟨-, -, rfl⟩ := ran
    exact .quiet rfl rfl rfl id
  | setFee admin setting | setDailyLimit admin setting | setValidatorQuorum admin setting =>
    simp only [dispatch, setFee, setDailyLimit, setValidatorQuorum, call_ok] at ran
    obtain ⟨-, -, -, rfl⟩ := ran
    exact .quiet rfl rfl rfl id

variable {id : Nat}

section Steps

omit [DecidableEq Address]

theorem books_empty : Books ({} : State Address) := by
  constructor
  · intro id deposit got
    cases got
  · intro _
    rfl
  · exact ⟨rfl, rfl⟩

variable {written : Deposit Address}

theorem pendingAmount_set (deposits : next.deposits = state.deposits.set id written) :
    next.pendingAmount = state.pendingAmount -
      (state.deposits.get id).elim 0 Deposit.pendingAmount + written.pendingAmount := by
  unfold pendingAmount
  rw [deposits, total_set]
  rfl

theorem pendingCount_set (deposits : next.deposits = state.deposits.set id written) :
    (next.pendingCount : Int) = state.pendingCount -
      (state.deposits.get id).elim 0 Deposit.pendingUnit + written.pendingUnit := by
  rw [pendingCount_eq, pendingCount_eq, deposits, total_set]
  rfl

variable {now : Nat}

theorem accounted_effect (books : Books state) (effect : Effect state now next) :
    Accounted next := by
  obtain ⟨totals, active⟩ := books.accounted
  cases effect with
  | quiet deposits stats =>
    constructor
    · unfold pendingAmount
      rw [stats, deposits]
      exact totals
    · unfold pendingCount statusOf
      rw [stats, deposits]
      exact active
  | locked deposit pending deposits =>
    have gone : state.deposits.get (state.depositCount + 1) = none := by
      cases got : state.deposits.get (state.depositCount + 1) with
      | none => rfl
      | some deposit => exact absurd (books.numbered _ deposit got) (Nat.not_succ_le_self _)
    have amount := pendingAmount_set deposits
    have number := pendingCount_set deposits
    rw [gone, Deposit.pendingAmount, if_pos pending] at amount
    rw [gone, Deposit.pendingUnit, if_pos pending] at number
    change _ = _ - 0 + _ at amount number
    constructor
    · omega
    · omega
  | settled _ _ after got pending deposits amount _ settles =>
    have settled : after.status ≠ .pending := by
      rcases settles with ⟨minted, -⟩ | ⟨refunded, -⟩
      · rw [minted]
        exact nofun
      · rw [refunded]
        exact nofun
    have amount := pendingAmount_set deposits
    have number := pendingCount_set deposits
    rw [got, elim_some, Deposit.pendingAmount, Deposit.pendingAmount, if_pos pending,
      if_neg settled] at amount
    rw [got, elim_some, Deposit.pendingUnit, Deposit.pendingUnit, if_pos pending, if_neg
      settled] at number
    constructor
    · omega
    · omega

theorem books_effect (books : Books state) (effect : Effect state now next) : Books next := by
  have accounted := accounted_effect books effect
  cases effect with
  | quiet deposits _ count opened =>
    refine ⟨?_, fun none => ?_, accounted⟩
    · rw [deposits, count]
      exact books.numbered
    · rw [count]
      exact books.unopened (opened none)
  | locked _ _ deposits _ _ _ _ count opened =>
    refine ⟨?_, fun none => absurd none opened, accounted⟩
    rw [deposits, count]
    apply forall_set
    · intro id held got
      exact Nat.le_succ_of_le (books.numbered id held got)
    · exact le_rfl
  | settled id deposit _ got _ deposits _ _ _ _ _ _ count opened =>
    refine ⟨?_, fun none => ?_, accounted⟩
    · rw [deposits, count]
      exact forall_set books.numbered (books.numbered id deposit got)
    · rw [count]
      exact books.unopened (opened none)

/-- It is enough that a new deposit is pending and that each old one stays as it is or is pending
and settled in time. -/
theorem progress_of_cases
    (opened : ∀ id after, state.deposits.get id = none → next.deposits.get id = some after →
      after.status = .pending)
    (step : ∀ id deposit, state.deposits.get id = some deposit → next.deposits.get id =
      some deposit ∨ deposit.status = .pending ∧ ∃ after, next.deposits.get id = some after ∧
      after.amount = deposit.amount ∧ after.expiresAt = deposit.expiresAt ∧
      (after.status = .minted → now ≤ deposit.expiresAt) ∧
      (after.status = .refunded → deposit.expiresAt < now)) : Progress now state next where
  opened := opened
  pending id deposit got pending := by
    rcases step id deposit got with kept | ⟨-, settled⟩
    · refine ⟨deposit, kept, rfl, rfl, ?_, ?_⟩
      · rw [pending]
        exact nofun
      · rw [pending]
        exact nofun
    · exact settled
  settled id deposit got settled := by
    rcases step id deposit got with kept | ⟨pending, -⟩
    · exact kept
    · exact absurd pending settled

theorem progress_effect (books : Books state) (effect : Effect state now next) :
    Progress now state next := by
  cases effect with
  | quiet deposits =>
    apply progress_of_cases
    · intro id after gone got
      rw [deposits, gone] at got
      cases got
    · intro id deposit got
      rw [deposits]
      exact .inl got
  | locked _ pending deposits =>
    apply progress_of_cases
    · intro id after gone got
      rw [deposits, get_set, gone] at got
      split at got
      · cases got
        exact pending
      · cases got
    · intro id deposit got
      have ne : id ≠ state.depositCount + 1 := by
        rintro rfl
        exact Nat.not_succ_le_self _ (books.numbered _ deposit got)
      rw [deposits, get_set_of_ne _ _ ne]
      exact .inl got
  | settled key _ after found pending deposits amount expiry settles =>
    apply progress_of_cases
    · intro id written gone got
      have ne : id ≠ key := by
        rintro rfl
        cases gone.symm.trans found
      rw [deposits, get_set_of_ne _ _ ne, gone] at got
      cases got
    · intro id held got
      by_cases same : id = key
      · subst same
        cases found.symm.trans got
        refine .inr ⟨pending, after, ?_, amount, expiry, ?_, ?_⟩
        · rw [deposits, get_set_self]
        · rcases settles with ⟨-, timely⟩ | ⟨refunded, -⟩
          · exact fun _ => timely
          · rw [refunded]
            exact nofun
        · rcases settles with ⟨minted, -⟩ | ⟨-, late⟩
          · rw [minted]
            exact nofun
          · exact fun _ => late
      · rw [deposits, get_set_of_ne _ _ same]
        exact .inl got

end Steps

theorem books_step (state : State Address) (call : Env Address contract × Operation Address)
    (next : State Address) (books : Books state)
    (ran : (machine contract).exec state call = .ok next) : Books next :=
  books_effect books (dispatch_effect books ran)

theorem books_run (calls : List (Env Address contract × Operation Address)) :
    Books ((machine contract).run {} calls) :=
  run_invariant books_step books_empty calls

theorem progress_apply (books : Books state) (call : Env Address contract × Operation Address) :
    Progress call.1.timestamp state ((machine contract).apply state call) := by
  rcases (machine contract).apply_cases state call with ran | same
  · exact progress_effect books (dispatch_effect books ran)
  · rw [same]
    refine progress_of_cases (fun id after gone got => ?_) fun id deposit got => .inl got
    cases gone.symm.trans got

theorem settled_run {deposit : Deposit Address} (settled : deposit.status ≠ .pending)
    (books : Books state) (got : state.deposits.get id = some deposit)
    (calls : List (Env Address contract × Operation Address)) :
    ((machine contract).run state calls).deposits.get id = some deposit := by
  have step : ∀ (state : State Address) call next,
      (Books state ∧ state.deposits.get id = some deposit) →
      (machine contract).exec state call = .ok next →
      Books next ∧ next.deposits.get id = some deposit := by
    rintro state _ next ⟨books, got⟩ ran
    have effect : Effect state _ next := dispatch_effect books ran
    exact ⟨books_effect books effect,
      (progress_effect books effect).settled id deposit got settled⟩
  exact (run_invariant step ⟨books, got⟩ calls).2

section

omit [DecidableEq Address]

theorem statusOf_eq_some {state : State Address} {status : DepositStatus} :
    state.statusOf id = some status ↔
      ∃ deposit, state.deposits.get id = some deposit ∧ deposit.status = status :=
  map_eq_some_iff

theorem Progress.leaves_iff {now : Nat} {state next : State Address}
    (progress : Progress now state next) :
    LeavesPending id state next ↔ ¬ Settled id state ∧ Settled id next := by
  constructor
  · rintro ⟨before, left⟩
    obtain ⟨deposit, got, pending⟩ := statusOf_eq_some.mp before
    obtain ⟨after, found, -⟩ := progress.pending id deposit got pending
    refine ⟨fun settled => settled.2 before, ?_, left⟩
    rw [statusOf, found]
    exact nofun
  · rintro ⟨unsettled, here, left⟩
    refine ⟨?_, left⟩
    cases got : state.deposits.get id with
    | none =>
      obtain ⟨_, known⟩ := ne_none_iff_exists'.mp here
      obtain ⟨after, found, same⟩ := statusOf_eq_some.mp known
      rw [progress.opened id after got found] at same
      exact absurd (same ▸ known) left
    | some =>
      by_contra settled
      refine unsettled ⟨?_, settled⟩
      rw [statusOf, got]
      exact nofun

end

theorem departures_eq (id : Nat) (calls : List (Env Address contract × Operation Address)) :
    (machine contract).countSteps (LeavesPending id) {} calls =
      if Settled id ((machine contract).run {} calls) then 1 else 0 := by
  have stays : ∀ (state : State Address) call next, Books state → Settled id state →
      (machine contract).exec state call = .ok next → Settled id next := by
    rintro state call next books ⟨here, left⟩ ran
    obtain ⟨status, known⟩ := ne_none_iff_exists'.mp here
    obtain ⟨deposit, got, rfl⟩ := statusOf_eq_some.mp known
    have settled : deposit.status ≠ .pending := by
      intro pending
      exact left (pending ▸ known)
    have effect : Effect state _ next := dispatch_effect books ran
    have kept := (progress_effect books effect).settled id deposit got settled
    rw [Settled, statusOf, kept]
    exact ⟨nofun, fun same => settled (Option.some.inj same)⟩
  have entry : ∀ (state : State Address) call next, Books state →
      (machine contract).exec state call = .ok next →
      (LeavesPending id state next ↔ ¬ Settled id state ∧ Settled id next) := by
    intro state call next books ran
    have effect : Effect state _ next := dispatch_effect books ran
    exact (progress_effect books effect).leaves_iff
  have counted := CallMachine.countSteps_entry books_step stays entry
    (fun _ leaves => leaves.2 leaves.1) books_empty calls
  have unsettled : ¬ Settled id ({} : State Address) := fun settled => settled.1 rfl
  rwa [if_neg unsettled, Nat.add_zero] at counted

/-- In every run the locked total is what was minted, refunded and is still pending, and the active
deposits are the pending ones. Every deposit leaves the pending ones at most once, to be minted up
to its expiry only or refunded after it only, so that none is ever both minted and refunded. -/
theorem accounts_and_deadlines_hold
    (calls : List (Env Address contract × Operation Address)) :
    (machine contract).Always Accounted {} calls ∧
    (∀ id, (machine contract).countSteps (LeavesPending id) {} calls ≤ 1) ∧
    (∀ before call after, calls = before ++ call :: after →
      Progress call.1.timestamp ((machine contract).run {} before)
        ((machine contract).run {} (before ++ [call]))) ∧
    ∀ id first second, first <+: calls → second <+: calls →
      ((machine contract).run {} first).statusOf id = some .minted →
      ((machine contract).run {} second).statusOf id ≠ some .refunded := by
  refine ⟨?_, fun id => ?_, fun before call after _ => ?_, fun id first second one other => ?_⟩
  · have always : (machine contract).Always Books {} calls :=
      always_invariant books_step books_empty calls
    exact always.mono fun state books => books.accounted
  · rw [departures_eq]
    split
    · exact le_rfl
    · exact Nat.zero_le 1
  · rw [run_append]
    exact progress_apply (books_run before) call
  · intro minted refunded
    obtain ⟨early, got, isMinted⟩ := statusOf_eq_some.mp minted
    obtain ⟨late, found, isRefunded⟩ := statusOf_eq_some.mp refunded
    have same : late = early := by
      rcases List.prefix_or_prefix_of_prefix one other with ⟨rest, rfl⟩ | ⟨rest, rfl⟩
      · rw [run_append] at found
        have kept := settled_run (by rw [isMinted]; exact nofun) (books_run first) got rest
        exact mem_unique found kept
      · rw [run_append] at got
        have kept := settled_run (by rw [isRefunded]; exact nofun) (books_run second) found rest
        exact mem_unique kept got
    rw [same, isMinted] at isRefunded
    cases isRefunded

end SorobanPlayground.CrossChainBridge
