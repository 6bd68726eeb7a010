import SorobanPlayground.Library.Rounding
import SorobanPlayground.LendingPool.Contract

/-! # Running totals of the lending pool

The pool's running totals are compared with the sums over all positions. Every
call keeps both differences except a liquidation, which moves collateral from
one position to another and still takes it out of the running total.
-/

namespace SorobanPlayground.LendingPool

open State

variable {Address : Type} [DecidableEq Address] {contract : Address}

section Sums

omit [DecidableEq Address]

variable (state : State Address)

/-- The collateral of all positions. -/
def State.depositedSum : Int :=
  state.positions.total fun _ position => position.deposited

/-- The debt of all positions. -/
def State.borrowedSum : Int :=
  state.positions.total fun _ position => position.borrowed

/-- The running totals are the sums over all positions. -/
structure State.Aggregated (state : State Address) : Prop where
  deposited : state.totalDeposited = state.depositedSum
  borrowed : state.totalBorrowed = state.borrowedSum

/-- How far the running total of deposits exceeds the sum over all positions. -/
def State.depositDrift : Int := state.totalDeposited - state.depositedSum

/-- How far the running total of debts exceeds the sum over all positions. -/
def State.borrowDrift : Int := state.totalBorrowed - state.borrowedSum

theorem State.aggregated_iff_drift :
    state.Aggregated ↔ state.depositDrift = 0 ∧ state.borrowDrift = 0 := by
  unfold depositDrift borrowDrift
  rw [sub_eq_zero, sub_eq_zero]
  exact ⟨fun aggregated => ⟨aggregated.deposited, aggregated.borrowed⟩,
    fun ⟨deposited, borrowed⟩ => ⟨deposited, borrowed⟩⟩

end Sums

theorem State.sums_of_position (state : State Address) {next : State Address} (user : Address)
    (position : UserPosition)
    (wrote : next.positions = (state.setPosition user position).positions) :
    next.depositedSum =
        state.depositedSum - (state.getPosition user).deposited + position.deposited ∧
      next.borrowedSum =
        state.borrowedSum - (state.getPosition user).borrowed + position.borrowed := by
  unfold depositedSum borrowedSum
  rw [wrote]
  exact ⟨total_set_getD state.positions _ user position {} rfl,
    total_set_getD state.positions _ user position {} rfl⟩

/-- The drifts stay, but the drift of deposits loses an amount. -/
structure DriftsBy (lost : Int) (state next : State Address) : Prop where
  deposited : next.depositDrift = state.depositDrift - lost
  borrowed : next.borrowDrift = state.borrowDrift

/-- A call that writes one position drifts by what the running totals miss of
the change. -/
theorem DriftsBy.of_position {lost : Int} {state next : State Address} {user : Address}
    {position : UserPosition}
    (wrote : next.positions = (state.setPosition user position).positions)
    (deposited : next.totalDeposited - position.deposited + lost =
      state.totalDeposited - (state.getPosition user).deposited)
    (borrowed : next.totalBorrowed - position.borrowed =
      state.totalBorrowed - (state.getPosition user).borrowed) : DriftsBy lost state next := by
  obtain ⟨_, _⟩ := state.sums_of_position user position wrote
  constructor
  · unfold depositDrift
    omega
  · unfold borrowDrift
    omega

variable {env : Env Address contract} {user : Address} {amount : Int} {state next : State Address}

theorem deposit_drift (ran : deposit env user amount state = .ok next) : DriftsBy 0 state next := by
  simp [deposit] at ran
  obtain ⟨-, -, -, -, -, -, rfl⟩ := ran
  refine DriftsBy.of_position rfl ?_ ?_
  · simp only [setTotalDeposited, setPosition]
    omega
  · simp only [setTotalDeposited, setPosition]

theorem withdraw_drift (ran : withdraw env user amount state = .ok next) :
    DriftsBy 0 state next := by
  simp [withdraw] at ran
  obtain ⟨-, -, -, -, -, -, -, -, rfl⟩ := ran
  refine DriftsBy.of_position rfl ?_ ?_
  · simp only [setTotalDeposited, setPosition]
    omega
  · simp only [setTotalDeposited, setPosition]

theorem borrow_drift (ran : borrow env user amount state = .ok next) : DriftsBy 0 state next := by
  simp [borrow] at ran
  obtain ⟨-, -, -, -, -, -, -, rfl⟩ := ran
  refine DriftsBy.of_position rfl ?_ ?_
  · simp only [setTotalBorrowed, setPosition, add_zero]
  · simp only [setTotalBorrowed, setPosition]
    omega

theorem repay_drift {repaid : Int} (ran : repay env user amount state = .ok (repaid, next)) :
    DriftsBy 0 state next := by
  simp [repay] at ran
  obtain ⟨-, -, -, -, -, -, -, rfl, rfl⟩ := ran
  refine DriftsBy.of_position rfl ?_ ?_
  · simp only [setTotalBorrowed, setPosition, add_zero]
  · simp only [setTotalBorrowed, setPosition]
    omega

/-- A liquidation moves the seized collateral between two positions, and takes it
out of the running total all the same. -/
theorem liquidate_drift {liquidator : Address} {result : LiquidationResult}
    (ran : liquidate env liquidator user amount state = .ok (result, next)) :
    DriftsBy result.collateralSeized state next := by
  simp [liquidate] at ran
  obtain ⟨-, -, -, -, -, terms, -, -, -, -, -, -, _, -, rfl, nextIs⟩ := ran
  set settled := state.setPosition user _
  obtain ⟨settledDeposits, settledLoans⟩ :
      settled.depositedSum = _ ∧ settled.borrowedSum = _ := state.sums_of_position user _ rfl
  have wrote : next.positions = (settled.setPosition liquidator
      { settled.getPosition liquidator with
        deposited := (settled.getPosition liquidator).deposited +
          terms.actualSeizure }).positions := by
    rw [← nextIs]
    rfl
  obtain ⟨nextDeposits, nextLoans⟩ := settled.sums_of_position liquidator _ wrote
  have totals : next.totalDeposited = state.totalDeposited - terms.actualSeizure ∧
      next.totalBorrowed = state.totalBorrowed - terms.debtToRepay := by
    rw [← nextIs]
    exact ⟨rfl, rfl⟩
  constructor
  · unfold depositDrift
    rw [totals.1, nextDeposits, settledDeposits]
    ring
  · unfold borrowDrift
    rw [totals.2, nextLoans, settledLoans]
    ring

theorem liquidationTerms_seizes_nothing_iff {borrower : UserPosition} {repayAmount : Int}
    {terms : LiquidationTerms} (pos : 0 < repayAmount)
    (eq : liquidationTerms borrower repayAmount = .ok terms) :
    terms.actualSeizure = 0 ↔ borrower.deposited = 0 := by
  simp only [liquidationTerms, call_ok, checkedAdd_eq_ok, checkedMul_eq_ok, checkedDiv_eq_ok] at eq
  obtain ⟨-, -, scaledDebt, ⟨-, scaledDebtIs⟩, maxRepay, ⟨-, -, _⟩, -, _, _,
    ⟨-, scaledBonusIs⟩, bonus, ⟨-, -, bonusIs⟩, ideal, ⟨-, _⟩, -, -, rfl⟩ := eq
  have indebted : 0 < borrower.borrowed := by
    by_contra unindebted
    have shrunk : scaledDebt.tdiv bpsDen ≤ 0 :=
      Rounding.tdiv_nonpos (by rw [← scaledDebtIs, maxCloseFactorBps]; omega) (by decide)
    omega
  have repaid : 0 < min (min repayAmount maxRepay) borrower.borrowed := by omega
  have bonusNonnegative : 0 ≤ bonus := by
    rw [← bonusIs, ← scaledBonusIs]
    exact Int.tdiv_nonneg (mul_nonneg repaid.le (by decide)) (by decide)
  change min ideal borrower.deposited = 0 ↔ borrower.deposited = 0
  omega

/-- The calls that seize no collateral: all but the liquidations of a borrower
who has some. -/
def SeizesNothing (state : State Address) : Operation Address → Prop
  | .liquidate _ user _ => (state.getPosition user).deposited = 0
  | _ => True

/-- Every call but a liquidation keeps both drifts. A liquidation takes what it
seizes out of the drift of deposits. -/
theorem dispatch_drift {state next : State Address}
    {call : Env Address contract × Operation Address} (ran : dispatch state call = .ok next) :
    ∃ lost, DriftsBy lost state next ∧ (lost = 0 ↔ SeizesNothing state call.2) := by
  obtain ⟨_, op⟩ := call
  cases op with
  | deposit => exact ⟨0, deposit_drift ran, by simp [SeizesNothing]⟩
  | withdraw => exact ⟨0, withdraw_drift ran, by simp [SeizesNothing]⟩
  | borrow => exact ⟨0, borrow_drift ran, by simp [SeizesNothing]⟩
  | repay =>
    obtain ⟨⟨_, left⟩, succeeded, rfl⟩ := map_eq_ok.mp ran
    exact ⟨0, repay_drift succeeded, by simp [SeizesNothing]⟩
  | liquidate =>
    obtain ⟨⟨result, _⟩, succeeded, rfl⟩ := map_eq_ok.mp ran
    refine ⟨result.collateralSeized, liquidate_drift succeeded, ?_⟩
    simp [liquidate] at succeeded
    obtain ⟨-, -, -, pos, -, _, eq, -, -, -, -, -, -, -, rfl, -⟩ := succeeded
    exact liquidationTerms_seizes_nothing_iff pos eq
  | _ =>
    have same : next.positions = state.positions ∧ next.totalDeposited = state.totalDeposited ∧
        next.totalBorrowed = state.totalBorrowed := by
      apply Outcome.Yields.of_ok ran
      simp only [dispatch, initializePool, pause, unpause, socializeBadDebt, setBadDebt,
        yields_bind, yields_map, yields_pure, yields_true, and_self]
    refine ⟨0, ?_, by simp [SeizesNothing]⟩
    constructor <;>
      simp [depositDrift, borrowDrift, depositedSum, borrowedSum, same]

/-- From a state whose running totals are the sums over all positions, a
successful call leads to such a state again exactly when it seizes nothing. -/
theorem aggregated_iff_seizes_nothing {state next : State Address}
    {call : Env Address contract × Operation Address} (aggregated : state.Aggregated)
    (executed : dispatch state call = .ok next) :
    next.Aggregated ↔ SeizesNothing state call.2 := by
  obtain ⟨_, drift, seizesNothing⟩ := dispatch_drift executed
  obtain ⟨deposits, loans⟩ := state.aggregated_iff_drift.mp aggregated
  rw [← seizesNothing, next.aggregated_iff_drift, drift.deposited, drift.borrowed, deposits, loans]
  omega

/-- A borrower with a loan of a hundred against a collateral of a hundred. -/
def undercollateralized : State Nat where
  initialized := true
  positions := (∅ : FiniteMap Nat UserPosition).set 1 { deposited := 100, borrowed := 100 }
  totalDeposited := 100
  totalBorrowed := 100

/-- A call that user `2` authorizes. -/
def byLiquidator : Env Nat 0 := { timestamp := 7, auths := [2], contract_silent := by decide }

theorem aggregated_iff_seizes_nothing_at_liquidation :
    ∃ next, dispatch undercollateralized (byLiquidator, .liquidate 2 1 50) = .ok next ∧
      (next.Aggregated ↔ SeizesNothing undercollateralized (.liquidate 2 1 50)) :=
  have ran : dispatch undercollateralized (byLiquidator, .liquidate 2 1 50) = .ok _ := rfl
  ⟨_, ran, aggregated_iff_seizes_nothing ⟨by decide, by decide⟩ ran⟩

/-- Repaying half the debt seizes `52` of collateral. It stays in the pool, while
the running total falls to `48`. -/
theorem liquidation_breaks_aggregates :
    undercollateralized.Aggregated ∧
      ∃ result next, liquidate byLiquidator 2 1 50 undercollateralized = .ok (result, next) ∧
        next.totalDeposited = 48 ∧ next.depositedSum = 100 ∧ ¬ next.Aggregated := by
  refine ⟨⟨by decide, by decide⟩, _, _, rfl, by decide, by decide, fun aggregated => ?_⟩
  exact absurd aggregated.deposited (by decide)

end SorobanPlayground.LendingPool
