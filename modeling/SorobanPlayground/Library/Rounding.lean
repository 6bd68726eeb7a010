import Mathlib.Tactic.Linarith
import Mathlib.Tactic.LinearCombination
import Mathlib.Tactic.Ring

/-! # Rounded quotients

Quotients of integers rounded toward zero, by the inequalities that
place them next to the exact value, and what they imply about the products that
a rounded exchange is meant to keep.
-/

namespace Rounding

variable {numerator divisor : Int}

/-- A truncated quotient does not exceed the exact one. -/
theorem tdiv_mul_le (nonneg : 0 ≤ numerator) (divisor : Int) :
    numerator.tdiv divisor * divisor ≤ numerator := by
  rw [Int.tdiv_eq_ediv_of_nonneg nonneg]
  by_cases zero : divisor = 0
  · rw [zero, mul_zero]
    exact nonneg
  · exact Int.ediv_mul_le numerator zero

/-- A truncated quotient stays below a bound that the exact one stays below. -/
theorem tdiv_lt {bound : Int} (nonneg : 0 ≤ numerator) (pos : 0 < divisor)
    (below : numerator < bound * divisor) : numerator.tdiv divisor < bound := by
  have rounded := tdiv_mul_le nonneg divisor
  exact lt_of_mul_lt_mul_right (rounded.trans_lt below) pos.le

/-- A truncated quotient vanishes below its divisor. -/
theorem tdiv_eq_zero_iff (pos : 0 < divisor) :
    numerator.tdiv divisor = 0 ↔ |numerator| < divisor := by
  rw [← Int.natAbs_eq_zero, Int.natAbs_tdiv]
  change numerator.natAbs / divisor.natAbs = 0 ↔ _
  rw [Nat.div_eq_zero_iff, Int.abs_eq_natAbs]
  omega

/-- A truncated quotient is positive from its divisor on. -/
theorem tdiv_pos_iff (nonneg : 0 ≤ numerator) (pos : 0 < divisor) :
    0 < numerator.tdiv divisor ↔ divisor ≤ numerator := by
  rw [Int.tdiv_eq_ediv_of_nonneg nonneg, ← Int.add_one_le_iff, zero_add, Int.le_ediv_iff_mul_le
    pos, one_mul]

/-- A quotient of a nonpositive value by a positive one is nonpositive. -/
theorem tdiv_nonpos (nonpositive : numerator ≤ 0) (pos : 0 < divisor) :
    numerator.tdiv divisor ≤ 0 := by
  have bound := Int.tdiv_le_tdiv pos nonpositive
  rwa [Int.zero_tdiv] at bound

/-- Rounded quotients are ordered as the quotients are. -/
theorem tdiv_le_tdiv_of_mul_le {other otherDivisor : Int} (nonneg : 0 ≤ numerator)
    (pos : 0 < divisor) (positiveOther : 0 < otherDivisor)
    (crossed : numerator * otherDivisor ≤ other * divisor) :
    numerator.tdiv divisor ≤ other.tdiv otherDivisor := by
  have otherNonneg : 0 ≤ other :=
    nonneg_of_mul_nonneg_left ((mul_nonneg nonneg positiveOther.le).trans crossed) pos
  rw [Int.tdiv_eq_ediv_of_nonneg otherNonneg, Int.le_ediv_iff_mul_le positiveOther]
  refine le_of_mul_le_mul_right ?_ pos
  calc numerator.tdiv divisor * otherDivisor * divisor
      = numerator.tdiv divisor * divisor * otherDivisor := mul_right_comm _ _ _
    _ ≤ numerator * otherDivisor :=
        mul_le_mul_of_nonneg_right (tdiv_mul_le nonneg divisor) positiveOther.le
    _ ≤ other * divisor := crossed

/-- A truncated quotient reaches a positive bound exactly when the exact one does. -/
theorem le_tdiv_iff {bound : Int} (bounded : 0 < bound) (pos : 0 < divisor) :
    bound ≤ numerator.tdiv divisor ↔ bound * divisor ≤ numerator := by
  have product := mul_pos bounded pos
  by_cases nonneg : 0 ≤ numerator
  · rw [Int.tdiv_eq_ediv_of_nonneg nonneg, Int.le_ediv_iff_mul_le pos]
  · have negative := tdiv_nonpos (not_le.mp nonneg).le pos
    omega

/-- A rounded part of an amount is between zero and the whole of it. -/
theorem part_bounds {total : Int} {part whole : Nat} (nonneg : 0 ≤ total) (within : part ≤ whole)
    (pos : 0 < whole) : 0 ≤ (total * part).tdiv whole ∧ (total * part).tdiv whole ≤ total := by
  have scaled : 0 ≤ total * part := mul_nonneg nonneg (Int.natCast_nonneg _)
  refine ⟨Int.tdiv_nonneg scaled (Int.natCast_nonneg _), ?_⟩
  have most : total * part ≤ total * whole :=
    mul_le_mul_of_nonneg_left (by exact_mod_cast within) nonneg
  have divided := Int.tdiv_le_tdiv (by exact_mod_cast pos : (0 : Int) < whole) most
  rwa [Int.mul_tdiv_cancel _ (by exact_mod_cast pos.ne' : (whole : Int) ≠ 0)] at divided

/-- Paying out a truncated share leaves the rest its share. -/
theorem remaining_share {reserve part whole : Int} (reserveNonneg : 0 ≤ reserve)
    (partNonneg : 0 ≤ part) :
    reserve * (whole - part) ≤ (reserve - (part * reserve).tdiv whole) * whole := by
  have rounded := tdiv_mul_le (mul_nonneg partNonneg reserveNonneg) whole
  linarith [mul_sub reserve whole part, sub_mul reserve ((part * reserve).tdiv whole) whole,
    mul_comm part reserve]

/-- More of a sum over more terms has the same rounded average exactly if the rest, weighed against
the average so far, stays within its rounding. -/
theorem ediv_eq_ediv_add_iff {part rest count more : Int} (pos : 0 < count) (nonneg : 0 ≤ more) :
    part / count = (part + rest) / (count + more) ↔
      part * more - rest * count ≤ part % count * (count + more) ∧
        rest * count - part * more < (count - part % count) * (count + more) := by
  have whole : 0 < count + more := by linarith
  have division := Int.mul_ediv_add_emod part count
  have scaled : (part % count + rest - part / count * more) * count =
      part % count * (count + more) + (rest * count - part * more) := by
    linear_combination -more * division
  have average : part / count = (part + rest) / (count + more) ↔
      0 ≤ part % count + rest - part / count * more ∧
        part % count + rest - part / count * more < count + more := by
    rw [eq_comm, Int.ediv_eq_iff_of_pos whole]
    constructor
    · rintro ⟨below, above⟩
      constructor <;> linarith [mul_add (part / count) count more, mul_comm count (part / count)]
    · rintro ⟨below, above⟩
      constructor <;> linarith [mul_add (part / count) count more, mul_comm count (part / count)]
  rw [average, ← mul_nonneg_iff_of_pos_right pos, scaled, ← mul_lt_mul_iff_left₀ pos,
    scaled, sub_mul]
  constructor
  · rintro ⟨below, above⟩
    constructor <;> linarith [mul_comm count (count + more)]
  · rintro ⟨_, _⟩
    constructor <;> linarith [mul_comm count (count + more)]

end Rounding
