import Mathlib.Algebra.Order.Ring.Int
import Mathlib.Tactic.Ring

/-! # Quotients in lowest terms

Euclid's loop on nonnegative integers, and the reduction of a product and its divisor
by their common divisors before the factors are multiplied. The reduced product and
divisor are the original ones up to a positive factor (`Euclid.exists_common_factor`).
-/

namespace Euclid

open Int

variable {left right denominator : Int}

/-- Rounds of Euclid's loop. Each lowers the second number, so that no more than this number of
rounds are executed. -/
def rounds : Nat → Int → Int → Int
  | 0, left, _ => left
  | count + 1, left, right => if right = 0 then left else rounds count right (left.tmod right)

/-- Enough rounds reach the greatest common divisor. -/
theorem rounds_eq_gcd {count : Nat} (leftNonneg : 0 ≤ left) (rightNonneg : 0 ≤ right)
    (enough : right.natAbs ≤ count) : rounds count left right = Int.gcd left right := by
  induction count generalizing left right with
  | zero =>
    obtain rfl : right = 0 := by omega
    rw [rounds, Int.gcd_zero_right, natAbs_of_nonneg leftNonneg]
  | succ _ ih =>
    rw [rounds]
    split
    · next done => rw [done, Int.gcd_zero_right, natAbs_of_nonneg leftNonneg]
    · have lower : 0 ≤ left.tmod right := tmod_nonneg right leftNonneg
      have smaller : left.tmod right < right := tmod_lt_of_pos left (by omega)
      rw [ih rightNonneg lower (by omega), tmod_eq_emod_of_nonneg leftNonneg, Int.gcd_comm,
        gcd_emod]

/-- The first factor's common divisor with the divisor leaves a positive rest of it. -/
theorem rest_pos (left : Int) (pos : 0 < denominator) :
    0 < denominator.tdiv (Int.gcd left denominator) := by
  have divisor : (0 : Int) < Int.gcd left denominator :=
    natCast_pos.mpr (gcd_pos_of_ne_zero_right left pos.ne')
  have product := Int.mul_tdiv_cancel' (Int.gcd_dvd_right left denominator)
  exact pos_of_mul_pos_right (product.symm ▸ pos) divisor.le

/-- Cancelling the two common divisors changes the product and the divisor by the same positive
factor. -/
theorem exists_common_factor (left right : Int) (pos : 0 < denominator) :
    let rest := denominator.tdiv (Int.gcd left denominator)
    ∃ factor : Int, 0 < factor ∧
      left * right =
        factor * (left.tdiv (Int.gcd left denominator) * right.tdiv (Int.gcd right rest)) ∧
      denominator = factor * rest.tdiv (Int.gcd right rest) := by
  have firstLeft := Int.mul_tdiv_cancel' (Int.gcd_dvd_left left denominator)
  have firstRight := Int.mul_tdiv_cancel' (Int.gcd_dvd_right left denominator)
  have firstPositive : (0 : Int) < Int.gcd left denominator :=
    natCast_pos.mpr (gcd_pos_of_ne_zero_right left pos.ne')
  have remaining := rest_pos left pos
  generalize denominator.tdiv (Int.gcd left denominator) = rest at *
  have secondLeft := Int.mul_tdiv_cancel' (Int.gcd_dvd_left right rest)
  have secondRight := Int.mul_tdiv_cancel' (Int.gcd_dvd_right right rest)
  have secondPositive : (0 : Int) < Int.gcd right rest :=
    natCast_pos.mpr (gcd_pos_of_ne_zero_right right remaining.ne')
  refine ⟨Int.gcd left denominator * Int.gcd right rest, mul_pos firstPositive secondPositive,
    ?_, ?_⟩
  · calc left * right
        = Int.gcd left denominator * left.tdiv (Int.gcd left denominator) *
            (Int.gcd right rest * right.tdiv (Int.gcd right rest)) := by
          rw [firstLeft, secondLeft]
      _ = _ := by ring
  · rw [mul_assoc, secondRight, firstRight]

/-- The reduced quotient is the quotient, rounded down. -/
theorem reduced_quotient (leftNonneg : 0 ≤ left) (rightNonneg : 0 ≤ right) (pos : 0 < denominator) :
    let rest := denominator.tdiv (Int.gcd left denominator)
    (left.tdiv (Int.gcd left denominator) * right.tdiv (Int.gcd right rest)).tdiv
      (rest.tdiv (Int.gcd right rest)) = left * right / denominator := by
  obtain ⟨_, factorPositive, product, quotient⟩ := exists_common_factor left right pos
  dsimp only at product quotient ⊢
  generalize denominator.tdiv (Int.gcd left denominator) = rest at *
  generalize left.tdiv (Int.gcd left denominator) * right.tdiv (Int.gcd right rest) = numerator at *
  have reduced : 0 ≤ numerator :=
    nonneg_of_mul_nonneg_right (product ▸ mul_nonneg leftNonneg rightNonneg) factorPositive
  rw [tdiv_eq_ediv_of_nonneg reduced, product, quotient, mul_ediv_mul_of_pos _ _
    factorPositive]

end Euclid
