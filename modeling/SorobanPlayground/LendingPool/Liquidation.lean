import SorobanPlayground.LendingPool.Aggregates

/-! # Liquidations never run

A position is checked when it borrows and when it gives up collateral, and nothing
else lowers its health: there is no interest and no price. So every position that
can be reached is healthy, every liquidation is refused, and bad debt never grows.
-/

namespace SorobanPlayground.LendingPool

variable {deposited borrowed : Int}

theorem isPositionHealthy_of_unindebted (unindebted : borrowed = 0) :
    isPositionHealthy deposited borrowed := by
  unfold isPositionHealthy healthFactorScaled
  rw [if_pos unindebted]
  decide

theorem healthFactorScaled_eq (nonneg : 0 ≤ deposited) (indebted : 0 < borrowed) :
    healthFactorScaled deposited borrowed =
      (saturateI128 (deposited * collateralFactorBps)).tdiv borrowed := by
  have scaled : 0 ≤ saturateI128 (deposited * collateralFactorBps) :=
    saturateI128_nonneg (mul_nonneg nonneg (by decide))
  have fits : InI128 ((saturateI128 (deposited * collateralFactorBps)).tdiv borrowed) :=
    ⟨(by decide : i128Min ≤ 0).trans (Int.tdiv_nonneg scaled indebted.le),
      (Int.tdiv_le_self _ scaled).trans (saturateI128_mem _).2⟩
  unfold healthFactorScaled optionDiv
  rw [if_neg indebted.ne', if_pos ⟨indebted.ne', fits⟩]
  rfl

theorem isPositionHealthy_mono {deposited more borrowed less : Int} (nonneg : 0 ≤ deposited)
    (raised : deposited ≤ more) (owed : 0 ≤ less) (lowered : less ≤ borrowed)
    (healthy : isPositionHealthy deposited borrowed) : isPositionHealthy more less := by
  rcases owed.eq_or_lt with unindebted | indebted
  · exact isPositionHealthy_of_unindebted unindebted.symm
  · unfold isPositionHealthy at *
    rw [healthFactorScaled_eq nonneg (indebted.trans_le lowered)] at healthy
    rw [healthFactorScaled_eq (nonneg.trans raised) indebted]
    have scaled := saturateI128_nonneg (mul_nonneg nonneg (by decide : 0 ≤ collateralFactorBps))
    refine healthy.trans (Rounding.tdiv_le_tdiv_of_mul_le scaled (indebted.trans_le lowered)
      indebted ?_)
    exact mul_le_mul (saturateI128_mono (mul_le_mul_of_nonneg_right raised (by decide))) lowered
      owed (saturateI128_nonneg (mul_nonneg (nonneg.trans raised) (by decide)))

/-- A position without negative entries that needs no liquidation. -/
structure UserPosition.Healthy (position : UserPosition) : Prop where
  deposited : 0 ≤ position.deposited
  borrowed : 0 ≤ position.borrowed
  healthy : isPositionHealthy position.deposited position.borrowed

variable {Address : Type} [DecidableEq Address] {contract : Address}

structure AllHealthy (state : State Address) : Prop where
  positions : ∀ user position, state.positions.get user = some position → position.Healthy
  badDebt : i128Min ≤ state.badDebt

variable {env : Env Address contract} {state next : State Address}

theorem AllHealthy.getPosition (all : AllHealthy state) (user : Address) :
    (state.getPosition user).Healthy := by
  unfold State.getPosition
  cases got : state.positions.get user with
  | none => exact ⟨le_rfl, le_rfl, by decide⟩
  | some position => exact all.positions user position got

theorem AllHealthy.liquidate_fails (all : AllHealthy state) (env : Env Address contract)
    (liquidator user : Address) (repayAmount : Int) :
    ∃ failure, liquidate env liquidator user repayAmount state = .error failure := by
  cases ran : liquidate env liquidator user repayAmount state with
  | error failure => exact ⟨failure, rfl⟩
  | ok =>
    simp only [liquidate, liquidationTerms, bind_eq_ok, ensure_eq_ok] at ran
    obtain ⟨-, -, -, -, -, -, -, -, -, -, _, ⟨-, -, -, sick, -⟩, -⟩ := ran
    exact absurd (all.getPosition user).healthy sick

theorem AllHealthy.set (all : AllHealthy state) {user : Address} {position : UserPosition}
    (wrote : next.positions = state.positions.set user position)
    (same : next.badDebt = state.badDebt) (healthy : position.Healthy) :
    AllHealthy next ∧ next.badDebt ≤ state.badDebt where
  left :=
    { positions := wrote ▸ forall_set all.positions healthy
      badDebt := same ▸ all.badDebt }
  right := same.le

theorem dispatch_healthy {call : Env Address contract × Operation Address} (all : AllHealthy state)
    (ran : dispatch state call = .ok next) : AllHealthy next ∧ next.badDebt ≤ state.badDebt := by
  obtain ⟨env, op⟩ := call
  cases op with
  | deposit user =>
    have before := all.getPosition user
    simp [dispatch, deposit] at ran
    obtain ⟨-, -, -, pos, -, -, rfl⟩ := ran
    refine all.set rfl rfl ⟨add_nonneg before.deposited pos.le, before.borrowed, ?_⟩
    exact isPositionHealthy_mono before.deposited (le_add_of_nonneg_right pos.le)
      before.borrowed le_rfl before.healthy
  | withdraw user =>
    have before := all.getPosition user
    simp [dispatch, withdraw] at ran
    obtain ⟨-, -, -, -, covered, -, checked, -, rfl⟩ := ran
    refine all.set rfl rfl ⟨sub_nonneg.mpr covered, before.borrowed, ?_⟩
    rcases before.borrowed.eq_or_lt with unindebted | indebted
    · exact isPositionHealthy_of_unindebted unindebted.symm
    · exact checked indebted
  | borrow user =>
    have before := all.getPosition user
    simp [dispatch, borrow] at ran
    obtain ⟨-, -, -, pos, -, checked, -, rfl⟩ := ran
    exact all.set rfl rfl ⟨before.deposited, add_nonneg before.borrowed pos.le, checked⟩
  | repay user =>
    have before := all.getPosition user
    simp [dispatch, repay] at ran
    obtain ⟨-, -, -, pos, -, -, -, rfl⟩ := ran
    have owed := before.borrowed
    refine all.set rfl rfl ⟨before.deposited, ?_, ?_⟩
    · exact sub_nonneg.mpr (min_le_right _ _)
    · exact isPositionHealthy_mono before.deposited le_rfl (sub_nonneg.mpr (min_le_right _ _))
        (sub_le_self _ (le_min pos.le owed)) before.healthy
  | liquidate liquidator user repayAmount =>
    obtain ⟨_, failed⟩ := all.liquidate_fails env liquidator user repayAmount
    obtain ⟨_, succeeded, -⟩ := map_eq_ok.mp ran
    cases failed.symm.trans succeeded
  | socializeBadDebt =>
    simp [dispatch, socializeBadDebt] at ran
    obtain ⟨-, -, -, pos, rfl⟩ := ran
    refine ⟨⟨all.positions, le_max_left _ _⟩, max_le all.badDebt ?_⟩
    exact (min_le_right _ _).trans (sub_le_self _ pos.le)
  | _ =>
    have same : next.positions = state.positions ∧ next.badDebt = state.badDebt := by
      apply Outcome.Yields.of_ok ran
      simp only [dispatch, initializePool, pause, unpause, yields_bind, yields_pure, yields_true,
        and_self]
    exact ⟨⟨same.1 ▸ all.positions, same.2 ▸ all.badDebt⟩, same.2.le⟩

/-- In every run every user is without debt or has a health factor of one at least, every
liquidation is refused, and no call raises the bad debt. -/
theorem liquidation_dead (calls : List (Env Address contract × Operation Address)) :
    (machine contract).Always (fun state =>
        (∀ user, (state.getPosition user).borrowed = 0 ∨ bpsDen ≤ getHealthFactor state user) ∧
        ∀ (env : Env Address contract) liquidator user repayAmount,
          ∃ failure, liquidate env liquidator user repayAmount state = .error failure)
        ({} : State Address) calls ∧
      (machine contract).Meets (fun state call => ∀ next, dispatch state call = .ok next →
        next.badDebt ≤ state.badDebt) ({} : State Address) calls := by
  have keeps : ∀ (state : State Address) call next, AllHealthy state →
      (machine contract).exec state call = .ok next → AllHealthy next :=
    fun _ _ _ all ran => (dispatch_healthy all ran).1
  have initial : AllHealthy ({} : State Address) :=
    ⟨nofun, (by decide : i128Min ≤ 0)⟩
  constructor
  · apply (always_invariant keeps initial calls).mono
    refine fun state all => ⟨fun user => ?_, all.liquidate_fails⟩
    by_cases unindebted : (state.getPosition user).borrowed = 0
    · exact .inl unindebted
    · unfold getHealthFactor
      exact .inr ((if_neg unindebted).symm ▸ (all.getPosition user).healthy)
  · exact meets_of_step keeps
      (fun state call _ all _ next ran => (dispatch_healthy all ran).2) initial calls

end SorobanPlayground.LendingPool
