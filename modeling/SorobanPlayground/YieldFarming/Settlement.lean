import SorobanPlayground.Library.GroupedTotals
import SorobanPlayground.YieldFarming.Vault

/-! # The books of the vault

Each strategy keeps a running total that is meant to be the sum of the stored
balances of its positions. Every call settles positions one at a time: it
rewrites one user's position in one strategy together with that strategy's total
(`Settlement`). Deposits, withdrawals and compounding move both by the same
amount.
-/

namespace SorobanPlayground.YieldFarming

open State

variable {Address : Type} [DecidableEq Address] {contract : Address}

/-- A stored position holds its principal, and its balance is representable. -/
structure Position.Sound (position : Position) : Prop where
  deposited_nonneg : 0 ≤ position.deposited
  deposited_le : position.deposited ≤ position.compoundedBalance
  bounded : position.compoundedBalance ≤ i128Max

section Compounding

variable (position : Position) (strategy : Strategy) (now : Nat)

theorem compoundPosition_deposited :
    (compoundPosition position strategy now).deposited = position.deposited := by
  simp only [compoundPosition]
  split <;> rfl

theorem accruedReward_nonneg {balance : Int} (apyBps elapsed : Nat) (nonneg : 0 ≤ balance) :
    0 ≤ accruedReward balance apyBps elapsed := by
  have yearly : 0 ≤ saturateI128 (balance * apyBps) :=
    saturateI128_nonneg (mul_nonneg nonneg (Int.natCast_nonneg _))
  exact Int.tdiv_nonneg (saturateI128_nonneg (mul_nonneg yearly (Int.natCast_nonneg _))) (by decide)

variable {position} (sound : position.Sound)
include sound

theorem compoundPosition_balance :
    position.compoundedBalance ≤ (compoundPosition position strategy now).compoundedBalance ∧
      (compoundPosition position strategy now).compoundedBalance ≤ i128Max := by
  have balanceNonneg := sound.deposited_nonneg.trans sound.deposited_le
  simp only [compoundPosition]
  split
  · exact ⟨le_rfl, sound.bounded⟩
  · have reward := accruedReward_nonneg strategy.apyBps (now - position.lastUpdateTs) balanceNonneg
    refine ⟨le_max_of_le_right (le_min sound.bounded (by omega)), ?_⟩
    exact (saturateI128_mem _).2

theorem compoundPosition_sound : (compoundPosition position strategy now).Sound := by
  obtain ⟨grows, bound⟩ := compoundPosition_balance strategy now sound
  refine ⟨?_, ?_, bound⟩ <;> rw [compoundPosition_deposited]
  · exact sound.deposited_nonneg
  · exact sound.deposited_le.trans grows

theorem earned_compoundPosition :
    earned position (compoundPosition position strategy now) =
      (compoundPosition position strategy now).compoundedBalance - position.compoundedBalance := by
  obtain ⟨_, _⟩ := compoundPosition_balance strategy now sound
  have balanceNonneg := sound.deposited_nonneg.trans sound.deposited_le
  refine saturateI128_of_mem ⟨?_, by omega⟩
  have lowest : i128Min ≤ 0 := by decide
  omega

end Compounding

variable (state : State Address)

/-- The stored balances of all positions in a strategy. -/
def State.balanceSum (id : Nat) : Int :=
  state.positions.total fun key position => if key.1 = id then position.compoundedBalance else 0

/-- The running total of a strategy; zero where there is none. -/
def State.lockedTotal (id : Nat) : Int :=
  (state.strategies.get id).elim 0 Strategy.totalDeposited

def State.storedBalance (id : Nat) (user : Address) : Int :=
  (state.positions.get (id, user)).elim 0 Position.compoundedBalance

/-- Each strategy's running total is the sum of its stored balances. -/
def TvlExact : Prop :=
  ∀ id strategy, state.strategies.get id = some strategy →
    strategy.totalDeposited = state.balanceSum id

/-- How far the running total of a strategy exceeds its stored balances. -/
def State.drift (id : Nat) : Int :=
  state.lockedTotal id - state.balanceSum id

/-- What every reachable state satisfies, exact totals or not. -/
structure Books (state : State Address) : Prop where
  sound : ∀ key position, state.positions.get key = some position → position.Sound
  listed : ∀ key position, state.positions.get key = some position →
    ∃ strategy, state.strategies.get key.1 = some strategy
  counted : ∀ id strategy, state.strategies.get id = some strategy →
    id ∈ state.strategyIds ∧ 0 ≤ strategy.totalDeposited ∧ strategy.totalDeposited ≤ i128Max
  unopened : state.admin = none → state.strategyCount = 0

theorem Books.tvlExact_iff {state : State Address} (books : Books state) :
    TvlExact state ↔ ∀ id, state.drift id = 0 := by
  constructor
  · intro exact id
    unfold State.drift lockedTotal
    cases got : state.strategies.get id with
    | some strategy => exact sub_eq_zero.mpr (exact id strategy got)
    | none =>
      have empty : state.balanceSum id = 0 := by
        apply total_eq_zero _
        intro key position found
        obtain ⟨strategy, listed⟩ := books.listed key position found
        apply if_neg
        intro same
        rw [same, got] at listed
        cases listed
      rw [empty]
      rfl
  · intro drifts id strategy got
    have none := drifts id
    unfold State.drift lockedTotal at none
    rw [got] at none
    exact sub_eq_zero.mp none

variable {id : Nat} {user : Address} {position : Position}

theorem Books.storedBalance_le {state : State Address} (books : Books state)
    (got : state.positions.get (id, user) = some position) :
    position.compoundedBalance ≤ state.balanceSum id := by
  have nonneg : ∀ key held, state.positions.get key = some held →
      0 ≤ held.compoundedBalance := by
    intro key held found
    have sound := books.sound key held found
    exact sound.deposited_nonneg.trans sound.deposited_le
  exact FiniteMap.weight_le_groupTotal
    (fun key value found _ => nonneg key value found) got rfl

/-- A change of one user's position in one strategy and of that strategy's total.
The total moves by the change of the balance and a slip. -/
structure Settlement (slip : Int) (id : Nat) (user : Address) (state next : State Address) :
    Prop where
  admin : next.admin = state.admin
  strategyCount : next.strategyCount = state.strategyCount
  positions : ∀ key, key ≠ (id, user) → next.positions.get key = state.positions.get key
  strategies : ∀ other, other ≠ id → next.strategies.get other = state.strategies.get other
  existing : ∃ strategy, state.strategies.get id = some strategy
  updated : ∃ strategy, next.strategies.get id = some strategy ∧
    0 ≤ strategy.totalDeposited ∧ strategy.totalDeposited ≤ i128Max
  sound : ∀ position, next.positions.get (id, user) = some position → position.Sound
  moved : next.lockedTotal id - state.lockedTotal id =
    next.storedBalance id user - state.storedBalance id user + slip

namespace Settlement

variable {slip : Int} {state next : State Address}

theorem drift (settled : Settlement slip id user state next) (other : Nat) :
    next.drift other = state.drift other + if other = id then slip else 0 := by
  have sums : next.balanceSum other = state.balanceSum other +
      if other = id then next.storedBalance id user - state.storedBalance id user else 0 :=
    FiniteMap.groupTotal_of_agree settled.positions (fun _ _ => rfl) (fun _ _ => rfl) other
  unfold State.drift
  rw [sums]
  by_cases same : other = id
  · subst same
    have moved := settled.moved
    omega
  · have total : next.lockedTotal other = state.lockedTotal other := by
      unfold lockedTotal
      rw [settled.strategies other same]
    rw [if_neg same, if_neg same, total]
    ring

theorem books (settled : Settlement slip id user state next) (books : Books state) :
    Books next where
  sound := by
    intro key position found
    by_cases same : key = (id, user)
    · subst same
      exact settled.sound position found
    · rw [settled.positions key same] at found
      exact books.sound key position found
  listed := by
    intro key position found
    by_cases here : key.1 = id
    · obtain ⟨strategy, got, -⟩ := settled.updated
      exact ⟨strategy, here ▸ got⟩
    · have others : key ≠ (id, user) := fun same => here (congrArg Prod.fst same)
      rw [settled.positions key others] at found
      obtain ⟨strategy, got⟩ := books.listed key position found
      exact ⟨strategy, (settled.strategies key.1 here).trans got⟩
  counted := by
    intro other strategy found
    have sameIds : next.strategyIds = state.strategyIds :=
      congrArg (List.range' 1 ·) settled.strategyCount
    rw [sameIds]
    by_cases here : other = id
    · obtain ⟨updated, got, bound⟩ := settled.updated
      obtain ⟨existing, listed⟩ := settled.existing
      subst here
      cases got.symm.trans found
      exact ⟨(books.counted other existing listed).1, bound⟩
    · rw [settled.strategies other here] at found
      exact books.counted other strategy found
  unopened := by
    rw [settled.admin, settled.strategyCount]
    exact books.unopened

variable {strategy updated : Strategy}

theorem of_write {position : Position} (got : state.strategies.get id = some strategy)
    (sound : position.Sound)
    (bound : 0 ≤ updated.totalDeposited ∧ updated.totalDeposited ≤ i128Max)
    (moved : updated.totalDeposited - strategy.totalDeposited =
      position.compoundedBalance - state.storedBalance id user + slip)
    (positions : next.positions = (state.setPosition id user position).positions)
    (strategies : next.strategies = (state.setStrategy id updated).strategies)
    (admin : next.admin = state.admin) (count : next.strategyCount = state.strategyCount) :
    Settlement slip id user state next where
  admin := admin
  strategyCount := count
  positions := fun key ne => by
    rw [positions]
    exact get_set_of_ne _ _ ne
  strategies := fun other ne => by
    rw [strategies]
    exact get_set_of_ne _ _ ne
  existing := ⟨strategy, got⟩
  updated := ⟨updated, by rw [strategies]; exact get_set_self _ _ _, bound⟩
  sound := fun held found => by
    rw [positions] at found
    obtain rfl := Option.some.inj ((get_set_self _ _ _).symm.trans found)
    exact sound
  moved := by
    have wrote : next.storedBalance id user = position.compoundedBalance := by
      unfold storedBalance
      rw [positions]
      exact congrArg (Option.elim · 0 Position.compoundedBalance) (get_set_self _ _ _)
    have after : next.lockedTotal id = updated.totalDeposited := by
      unfold lockedTotal
      rw [strategies]
      exact congrArg (Option.elim · 0 Strategy.totalDeposited) (get_set_self _ _ _)
    have before : state.lockedTotal id = strategy.totalDeposited := by
      unfold lockedTotal
      rw [got]
      rfl
    rw [wrote, after, before, moved]

theorem of_remove (got : state.strategies.get id = some strategy)
    (bound : 0 ≤ updated.totalDeposited ∧ updated.totalDeposited ≤ i128Max)
    (moved : updated.totalDeposited - strategy.totalDeposited = slip - state.storedBalance id user)
    :
    Settlement slip id user state ((state.removePosition id user).setStrategy id updated) where
  admin := rfl
  strategyCount := rfl
  positions := fun key ne => get_remove_of_ne _ ne
  strategies := fun other ne => get_set_of_ne _ _ ne
  existing := ⟨strategy, got⟩
  updated := ⟨updated, get_set_self _ _ _, bound⟩
  sound := fun held found => by
    cases (get_remove_self _ _).symm.trans found
  moved := by
    have gone : ((state.removePosition id user).setStrategy id updated).storedBalance id user = 0 :=
      congrArg (Option.elim · 0 Position.compoundedBalance) (get_remove_self _ _)
    have after : ((state.removePosition id user).setStrategy id updated).lockedTotal id =
        updated.totalDeposited :=
      congrArg (Option.elim · 0 Strategy.totalDeposited) (get_set_self _ _ _)
    have before : state.lockedTotal id = strategy.totalDeposited := by
      unfold lockedTotal
      rw [got]
      rfl
    rw [gone, after, before, moved]
    ring

end Settlement

theorem State.storedBalance_of_get {state : State Address}
    (got : state.positions.get (id, user) = some position) :
    state.storedBalance id user = position.compoundedBalance := by
  unfold storedBalance
  rw [got]
  rfl

variable {env : Env Address contract} {amount : Int} {state next : State Address}

theorem positionForDeposit_spec (books : Books state) (id : Nat) (user : Address)
    (strategy : Strategy) (now : Nat) :
    (positionForDeposit state strategy id user now).1.Sound ∧
      0 ≤ (positionForDeposit state strategy id user now).2 ∧
      (positionForDeposit state strategy id user now).2 =
        (positionForDeposit state strategy id user now).1.compoundedBalance -
          state.storedBalance id user := by
  unfold positionForDeposit
  cases got : state.positions.get (id, user) with
  | some position =>
    have sound := books.sound _ position got
    have accrued := earned_compoundPosition strategy now sound
    have grows := (compoundPosition_balance strategy now sound).1
    rw [storedBalance_of_get got]
    refine ⟨compoundPosition_sound strategy now sound, ?_, accrued⟩
    show 0 ≤ earned position (compoundPosition position strategy now)
    omega
  | none =>
    unfold storedBalance
    rw [got]
    exact ⟨⟨le_rfl, le_rfl, (by decide : (0 : Int) ≤ i128Max)⟩, le_rfl, rfl⟩

theorem deposit_settles (books : Books state)
    (ran : deposit env user id amount state = .ok next) : Settlement 0 id user state next := by
  simp only [deposit, assertInitialized, State.getStrategy, call_ok, arith_ok] at ran
  obtain ⟨-, -, _, strategy, got, -, -, balanceFits, -, totalFits, rfl⟩ := ran
  obtain ⟨sound, _⟩ := positionForDeposit_spec books id user strategy env.timestamp
  set held := positionForDeposit state strategy id user env.timestamp
  have lower := sound.deposited_nonneg
  have upper := sound.deposited_le
  have total := (books.counted id strategy got).2.1
  refine Settlement.of_write got ⟨?_, ?_, balanceFits.2⟩ ⟨?_, totalFits.2⟩ ?_ rfl rfl rfl rfl
  · show 0 ≤ held.1.deposited + amount
    omega
  · show held.1.deposited + amount ≤ held.1.compoundedBalance + amount
    omega
  · show 0 ≤ strategy.totalDeposited + held.2 + amount
    omega
  · show strategy.totalDeposited + held.2 + amount - strategy.totalDeposited =
      held.1.compoundedBalance + amount - state.storedBalance id user + 0
    omega

theorem withdraw_settles (books : Books state) {paid : Int}
    (ran : withdraw env user id amount state = .ok (paid, next)) :
    ∃ slip, Settlement slip id user state next ∧ (TvlExact state → slip = 0) := by
  simp only [withdraw, assertInitialized, State.getStrategy, State.getPosition, call_ok,
    checkedAdd_eq_ok, checkedSub_eq_ok] at ran
  obtain ⟨-, -, _, strategy, got, previous, held, _, left, ⟨-, _⟩, principal,
    ⟨-, _⟩, withAccrued, ⟨accruedFits, _⟩, total, ⟨-, _⟩, -, nextIs⟩ :=
    ran
  have heldSound := books.sound _ previous held
  have sound := compoundPosition_sound strategy env.timestamp heldSound
  have accrued := earned_compoundPosition strategy env.timestamp heldSound
  have balance := storedBalance_of_get held
  have upper := sound.deposited_le
  have bound := sound.bounded
  have totalBounded := accruedFits.2
  refine ⟨total - (withAccrued - amount), ?_, fun exact => ?_⟩
  · by_cases emptied : left = 0
    · rw [if_pos emptied] at nextIs
      rw [← nextIs]
      refine Settlement.of_remove got ⟨?_, ?_⟩ ?_
      · show 0 ≤ total
        omega
      · show total ≤ i128Max
        omega
      · show total - strategy.totalDeposited = _ - state.storedBalance id user
        omega
    · rw [if_neg emptied] at nextIs
      rw [← nextIs]
      refine Settlement.of_write got ⟨?_, ?_, ?_⟩ ⟨?_, ?_⟩ ?_ rfl rfl rfl rfl
      · show 0 ≤ principal
        omega
      · show principal ≤ left
        omega
      · show left ≤ i128Max
        omega
      · show 0 ≤ total
        omega
      · show total ≤ i128Max
        omega
      · show total - strategy.totalDeposited = left - state.storedBalance id user + _
        omega
  · -- An exact total is at least this balance, so the withdrawal leaves it in full.
    have part : previous.compoundedBalance ≤ strategy.totalDeposited := by
      rw [exact id strategy got]
      exact books.storedBalance_le held
    omega

theorem compound_settles (books : Books state) {balance : Int}
    (ran : compound env user id state = .ok (balance, next)) :
    ∃ slip, Settlement slip id user state next ∧
      ((∀ strategy position, state.strategies.get id = some strategy →
        state.positions.get (id, user) = some position →
        strategy.totalDeposited +
          earned position (compoundPosition position strategy env.timestamp) ≤ i128Max) →
        slip = 0) := by
  simp only [compound, assertInitialized, State.getStrategy, State.getPosition, call_ok] at ran
  obtain ⟨-, strategy, got, previous, held, rfl, rfl⟩ := ran
  have heldSound := books.sound _ previous held
  have sound := compoundPosition_sound strategy env.timestamp heldSound
  have accrued := earned_compoundPosition strategy env.timestamp heldSound
  have grows := (compoundPosition_balance strategy env.timestamp heldSound).1
  have balance := storedBalance_of_get held
  have totalNonneg := (books.counted id strategy got).2.1
  set compounded := compoundPosition previous strategy env.timestamp
  have earnedNonneg : 0 ≤ strategy.totalDeposited + earned previous compounded := by omega
  refine ⟨saturateI128 (strategy.totalDeposited + earned previous compounded) -
    (strategy.totalDeposited + earned previous compounded),
    Settlement.of_write got sound ⟨saturateI128_nonneg earnedNonneg, (saturateI128_mem _).2⟩ ?_
      rfl rfl rfl rfl, ?_⟩
  · show saturateI128 _ - strategy.totalDeposited =
      compounded.compoundedBalance - state.storedBalance id user + _
    omega
  · intro fits
    have lowest : i128Min ≤ 0 := by decide
    have representable : InI128 (strategy.totalDeposited + earned previous compounded) :=
      ⟨by omega, fits strategy previous got held⟩
    rw [saturateI128_of_mem representable]
    exact sub_self _

theorem compoundAll_keeps (books : Books state) {reward : Int}
    (ran : compoundAll env user state = .ok (reward, next)) :
    Books next ∧ ∀ id, next.drift id = state.drift id := by
  simp only [compoundAll, assertInitialized, call_ok] at ran
  obtain ⟨-, _, looped, -, -, rfl⟩ := ran
  refine foldlM_invariant (fun progress => Books progress.state ∧
    ∀ id, progress.state.drift id = state.drift id) ?_ ⟨books, fun _ => rfl⟩ looped
  intro progress strategyId after _ kept round
  unfold compoundNext at round
  split at round
  · simp only [State.getStrategy, State.getPosition, call_ok, checkedAdd_eq_ok] at round
    obtain ⟨strategy, got, previous, held, _, -, total, ⟨fits, totalIs⟩, rfl⟩ := round
    have heldSound := kept.1.sound _ previous held
    have accrued := earned_compoundPosition strategy env.timestamp heldSound
    have balance := storedBalance_of_get held
    have grows := (compoundPosition_balance strategy env.timestamp heldSound).1
    have totalNonneg := (kept.1.counted strategyId strategy got).2.1
    have settled : Settlement 0 strategyId user progress.state
        ((progress.state.setPosition strategyId user
          (compoundPosition previous strategy env.timestamp)).setStrategy strategyId
            { strategy with totalDeposited := total, lastCompoundTs := env.timestamp }) := by
      refine Settlement.of_write got (compoundPosition_sound strategy env.timestamp heldSound)
        ⟨?_, totalIs ▸ fits.2⟩ ?_ rfl rfl rfl rfl
      · show 0 ≤ total
        omega
      · show total - strategy.totalDeposited = _ - progress.state.storedBalance strategyId user + 0
        omega
    refine ⟨settled.books kept.1, fun id => ?_⟩
    rw [settled.drift, kept.2, ite_self, add_zero]
  · cases round
    exact kept

end SorobanPlayground.YieldFarming
