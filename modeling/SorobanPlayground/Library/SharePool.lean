import Mathlib.Algebra.BigOperators.Group.List.Basic
import Mathlib.Algebra.Order.BigOperators.GroupWithZero.List
import Mathlib.Algebra.Order.Ring.Pow
import Mathlib.Tactic.Ring

/-! # Pools and the value of their shares

A pool holds several reserves and has issued shares. The value of a share is
measured by the product of the reserves, each taken per share. Cross-multiplied,
so that it needs no division, a change of the pool does not dilute its shares
when `SharePool.Undiluted` holds. Deposits and withdrawals that round each
reserve in the pool's favour are undiluting (`SharePool.undiluted_of_forall₂`),
trades are when they do not lower the product (`SharePool.undiluted_of_prod_le`),
and a sequence of such changes is (`SharePool.Undiluted.trans`).
-/

structure SharePool (R : Type*) where
  reserves : List R
  shares : R

namespace SharePool

open List

variable {R : Type*} [CommRing R] [LinearOrder R] [IsStrictOrderedRing R]

section

omit [IsStrictOrderedRing R]

/-- Reserve by reserve, the product per share does not fall. -/
def Undiluted (before after : SharePool R) : Prop :=
  before.reserves.prod * after.shares ^ before.reserves.length ≤
    after.reserves.prod * before.shares ^ before.reserves.length

theorem Undiluted.refl (pool : SharePool R) : pool.Undiluted pool := le_rfl

end

/-- Reserves that each keep up with the shares keep their product up. -/
theorem prod_mul_pow_le {before after : List R} {shares newShares : R} (newNonneg : 0 ≤ newShares)
    (pointwise : List.Forall₂ (fun reserve newReserve =>
      0 ≤ reserve ∧ reserve * newShares ≤ newReserve * shares) before after) :
    0 ≤ before.prod ∧
      before.prod * newShares ^ before.length ≤ after.prod * shares ^ before.length := by
  induction pointwise with
  | nil =>
    rw [prod_nil, length_nil, pow_zero, pow_zero]
    exact ⟨zero_le_one, le_rfl⟩
  | @cons reserve newReserve before after head tail ih =>
    rw [prod_cons, prod_cons, length_cons, pow_succ, pow_succ]
    refine ⟨mul_nonneg head.1 ih.1, ?_⟩
    have scaled : 0 ≤ before.prod * newShares ^ before.length :=
      mul_nonneg ih.1 (pow_nonneg newNonneg _)
    have raised : 0 ≤ newReserve * shares := (mul_nonneg head.1 newNonneg).trans head.2
    calc reserve * before.prod * (newShares ^ before.length * newShares)
        = reserve * newShares * (before.prod * newShares ^ before.length) := by ring
      _ ≤ newReserve * shares * (after.prod * shares ^ before.length) :=
          mul_le_mul head.2 ih.2 scaled raised
      _ = newReserve * after.prod * (shares ^ before.length * shares) := by ring

variable {before after : SharePool R}

/-- Rounding each reserve in the pool's favour does not dilute its shares. -/
theorem undiluted_of_forall₂ (newNonneg : 0 ≤ after.shares)
    (pointwise : List.Forall₂ (fun reserve newReserve => 0 ≤ reserve ∧ reserve * after.shares ≤
      newReserve * before.shares) before.reserves after.reserves) : before.Undiluted after :=
  (prod_mul_pow_le newNonneg pointwise).2

/-- A trade that does not lower the product does not dilute the shares. -/
theorem undiluted_of_prod_le (nonneg : 0 ≤ before.shares) (same : after.shares = before.shares)
    (raised : before.reserves.prod ≤ after.reserves.prod) : before.Undiluted after := by
  unfold Undiluted
  rw [same]
  exact mul_le_mul_of_nonneg_right raised (pow_nonneg nonneg _)

/-- Shares that have all been withdrawn are not diluted. -/
theorem undiluted_of_shares_eq_zero (none : after.shares = 0) (nonempty : before.reserves ≠ [])
    (beforeNonneg : 0 ≤ before.shares) (afterNonneg : ∀ reserve ∈ after.reserves, 0 ≤ reserve) :
    before.Undiluted after := by
  unfold Undiluted
  rw [none, zero_pow (length_eq_zero_iff.not.mpr nonempty), mul_zero]
  exact mul_nonneg (prod_nonneg afterNonneg) (pow_nonneg beforeNonneg _)

theorem Undiluted.trans {first second third : SharePool R} (early : first.Undiluted second)
    (late : second.Undiluted third) (sized : second.reserves.length = first.reserves.length)
    (firstShares : 0 ≤ first.shares) (secondShares : 0 < second.shares)
    (thirdShares : 0 ≤ third.shares) : first.Undiluted third := by
  unfold Undiluted at *
  rw [sized] at late
  have pos : 0 < second.shares ^ first.reserves.length := pow_pos secondShares _
  have earlier := mul_le_mul_of_nonneg_right early (pow_nonneg thirdShares first.reserves.length)
  have later := mul_le_mul_of_nonneg_right late (pow_nonneg firstShares first.reserves.length)
  refine le_of_mul_le_mul_right ?_ pos
  calc first.reserves.prod * third.shares ^ first.reserves.length *
        second.shares ^ first.reserves.length
      = first.reserves.prod * second.shares ^ first.reserves.length *
          third.shares ^ first.reserves.length := by ring
    _ ≤ second.reserves.prod * first.shares ^ first.reserves.length *
          third.shares ^ first.reserves.length := earlier
    _ = second.reserves.prod * third.shares ^ first.reserves.length *
          first.shares ^ first.reserves.length := by ring
    _ ≤ third.reserves.prod * second.shares ^ first.reserves.length *
          first.shares ^ first.reserves.length := later
    _ = third.reserves.prod * first.shares ^ first.reserves.length *
          second.shares ^ first.reserves.length := by ring

/-- Reserves that fall by one amount and stay nonnegative had a positive product,
and the product falls. -/
theorem prod_shift_le {reserves : List R} {shift : R} (falling : shift < 0)
    (nonneg : ∀ reserve ∈ reserves, 0 ≤ reserve + shift) :
    0 ≤ (reserves.map (· + shift)).prod ∧ (reserves.map (· + shift)).prod ≤ reserves.prod ∧
      0 < reserves.prod := by
  induction reserves with
  | nil =>
    exact ⟨zero_le_one, le_rfl, zero_lt_one⟩
  | cons reserve _ ih =>
    obtain ⟨tailNonneg, tailLower, tailPositive⟩ :=
      ih fun other mem => nonneg other (mem_cons_of_mem _ mem)
    have head := nonneg reserve mem_cons_self
    have lower : reserve + shift < reserve := add_lt_of_neg_right reserve falling
    have pos : 0 < reserve := head.trans_lt lower
    exact ⟨mul_nonneg head tailNonneg, mul_le_mul lower.le tailLower tailNonneg pos.le,
      mul_pos pos tailPositive⟩

variable {reserves : List R}

/-- Shifting all reserves of a pool by one amount without lowering their product
does not take from them. -/
theorem shift_nonneg {shift : R} (nonempty : reserves ≠ [])
    (nonneg : ∀ reserve ∈ reserves, 0 ≤ reserve + shift)
    (raised : reserves.prod ≤ (reserves.map (· + shift)).prod) : 0 ≤ shift := by
  by_contra negative
  have falling := not_le.mp negative
  cases reserves with
  | nil => exact nonempty rfl
  | cons reserve reserves =>
    obtain ⟨-, tailLower, tailPositive⟩ := prod_shift_le falling
      fun other mem => nonneg other (mem_cons_of_mem _ mem)
    have lower : reserve + shift < reserve := add_lt_of_neg_right reserve falling
    have head := nonneg reserve mem_cons_self
    have fallen : (reserve + shift) * (reserves.map (· + shift)).prod < reserve * reserves.prod :=
      calc (reserve + shift) * (reserves.map (· + shift)).prod
          ≤ (reserve + shift) * reserves.prod := mul_le_mul_of_nonneg_left tailLower head
        _ < reserve * reserves.prod := mul_lt_mul_of_pos_right lower tailPositive
    exact absurd raised (not_le.mpr fallen)

omit [LinearOrder R] [IsStrictOrderedRing R] in
/-- The product of reserves of which one is written. -/
theorem prod_set_eq {index : Nat} (inside : index < reserves.length) (reserve : R) :
    (reserves.set index reserve).prod = reserve * (reserves.set index 1).prod := by
  rw [prod_set, prod_set, if_pos inside, if_pos inside, mul_one]
  ring

end SharePool
