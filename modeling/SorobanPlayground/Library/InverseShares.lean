import Mathlib.Algebra.BigOperators.Ring.Finset
import Mathlib.Tactic.FieldSimp
import Mathlib.Tactic.Linarith
import Mathlib.Tactic.Positivity
import Mathlib.Tactic.Ring

/-! # Shares inverse to amounts

A whole is split inversely to a list of amounts: the part of an amount is the whole over the sum of
its ratios to all amounts. The ratios are taken at a scale and rounded down, which raises the parts,
and the parts are rounded down. For a scale above the number of amounts times the whole, the
parts still do not exceed the whole (`InverseShares.sum_parts_le`).
-/

namespace InverseShares

open List Int

variable (scale whole : Int) (amounts : List Int)

/-- The sum of the scaled ratios of an amount to all amounts. -/
def ratioSum (amount : Int) : Int := (amounts.map fun other => amount * scale / other).sum

def part (amount : Int) : Int := scale * whole / ratioSum scale amounts amount

def inverseSum : ℚ := (amounts.map fun other : Int => (other : ℚ)⁻¹).sum

variable {scale whole : Int} {amounts : List Int}

theorem inverseSum_pos (nonempty : amounts ≠ []) (pos : ∀ amount ∈ amounts, 0 < amount) :
    0 < inverseSum amounts := by
  apply sum_pos
  · intro value mem
    obtain ⟨amount, listed, rfl⟩ := mem_map.mp mem
    exact inv_pos.mpr (cast_pos.mpr (pos amount listed))
  · rwa [ne_eq, map_eq_nil_iff]

/-- The exact sum of the ratios. -/
theorem sum_ratios (amount : Int) :
    (amounts.map fun other : Int => (amount * scale : ℚ) / other).sum =
      amount * scale * inverseSum amounts := by
  unfold inverseSum
  rw [← sum_map_mul_left]
  simp only [div_eq_mul_inv]

theorem cast_ratioSum (amount : Int) : (ratioSum scale amounts amount : ℚ) =
    (amounts.map fun other => ((amount * scale / other : Int) : ℚ)).sum := by
  unfold ratioSum
  rw [cast_list_sum, map_map]
  rfl

/-- Rounding lowers the sum. -/
theorem ratioSum_le (pos : ∀ amount ∈ amounts, 0 < amount) (amount : Int) :
    (ratioSum scale amounts amount : ℚ) ≤ amount * scale * inverseSum amounts := by
  rw [cast_ratioSum, ← sum_ratios]
  apply sum_le_sum
  intro other mem
  have divisor : (0 : ℚ) < other := cast_pos.mpr (pos other mem)
  rw [le_div_iff₀ divisor]
  exact_mod_cast Int.ediv_mul_le (amount * scale) (pos other mem).ne'

/-- Rounding lowers the sum by less than one for each amount. -/
theorem le_ratioSum (pos : ∀ amount ∈ amounts, 0 < amount) (amount : Int) :
    amount * scale * inverseSum amounts ≤ ratioSum scale amounts amount + amounts.length := by
  have count : (amounts.length : ℚ) = (amounts.map fun _ => (1 : ℚ)).sum := by simp
  rw [cast_ratioSum, ← sum_ratios, count, ← sum_map_add]
  apply sum_le_sum
  intro other mem
  have divisor : (0 : ℚ) < other := cast_pos.mpr (pos other mem)
  rw [div_le_iff₀ divisor]
  exact_mod_cast (lt_ediv_add_one_mul_self (amount * scale) (pos other mem)).le

variable {amount : Int}

/-- The ratio of an amount to itself is the scale. -/
theorem scale_le_ratioSum (scaled : 0 ≤ scale) (pos : ∀ amount ∈ amounts, 0 < amount)
    (listed : amount ∈ amounts) : scale ≤ ratioSum scale amounts amount := by
  have own : amount * scale / amount = scale :=
    mul_ediv_cancel_left scale (pos amount listed).ne'
  have term : scale ∈ amounts.map fun other => amount * scale / other :=
    mem_map.mpr ⟨amount, listed, own⟩
  refine single_le_sum (fun value mem => ?_) scale term
  obtain ⟨other, here, rfl⟩ := mem_map.mp mem
  exact ediv_nonneg (mul_nonneg (pos amount listed).le scaled) (pos other here).le

/-- The exact weights of the amounts add up to one. -/
theorem sum_weights (nonempty : amounts ≠ []) (pos : ∀ amount ∈ amounts, 0 < amount) :
    (amounts.map fun amount : Int => (amount : ℚ)⁻¹ * (inverseSum amounts)⁻¹).sum = 1 := by
  rw [sum_map_mul_right]
  exact mul_inv_cancel₀ (inverseSum_pos nonempty pos).ne'

/-- A part is at most the weighted whole, raised by the rounding of the ratios. -/
theorem part_le_weight (scaled : 0 < scale) (nonneg : 0 ≤ whole) (nonempty : amounts ≠ [])
    (pos : ∀ amount ∈ amounts, 0 < amount) (listed : amount ∈ amounts) :
    (part scale whole amounts amount : ℚ) ≤
      (amount : ℚ)⁻¹ * (inverseSum amounts)⁻¹ * (whole * (1 + amounts.length / scale)) := by
  have least := scale_le_ratioSum scaled.le pos listed
  have divisor : (0 : ℚ) < ratioSum scale amounts amount := by
    exact_mod_cast scaled.trans_le least
  have amountPos : (0 : ℚ) < amount := cast_pos.mpr (pos amount listed)
  have inverse := inverseSum_pos nonempty pos
  have unit : (0 : ℚ) < scale := cast_pos.mpr scaled
  have quotient : (part scale whole amounts amount : ℚ) ≤
      scale * whole / ratioSum scale amounts amount := by
    rw [le_div_iff₀ divisor]
    exact_mod_cast Int.ediv_mul_le (scale * whole) (scaled.trans_le least).ne'
  have raised : amount * scale * inverseSum amounts ≤
      (1 + amounts.length / scale) * ratioSum scale amounts amount := by
    calc amount * scale * inverseSum amounts
        ≤ ratioSum scale amounts amount + amounts.length := le_ratioSum pos amount
      _ = ratioSum scale amounts amount + amounts.length / scale * scale := by
          rw [div_mul_cancel₀ _ unit.ne']
      _ ≤ ratioSum scale amounts amount +
            amounts.length / scale * ratioSum scale amounts amount := by gcongr
      _ = (1 + amounts.length / scale) * ratioSum scale amounts amount := by ring
  apply quotient.trans
  rw [div_le_iff₀ divisor]
  calc (scale : ℚ) * whole
      = (amount : ℚ)⁻¹ * (inverseSum amounts)⁻¹ * whole *
          (amount * scale * inverseSum amounts) := by field_simp
    _ ≤ (amount : ℚ)⁻¹ * (inverseSum amounts)⁻¹ * whole *
          ((1 + amounts.length / scale) * ratioSum scale amounts amount) := by gcongr
    _ = _ := by ring

/-- A part is less than one below the weighted whole. -/
theorem weight_lt_part (scaled : 0 < scale) (nonneg : 0 ≤ whole) (nonempty : amounts ≠ [])
    (pos : ∀ amount ∈ amounts, 0 < amount) (listed : amount ∈ amounts) :
    (amount : ℚ)⁻¹ * (inverseSum amounts)⁻¹ * whole < part scale whole amounts amount + 1 := by
  have least := scale_le_ratioSum scaled.le pos listed
  have divisorPos := scaled.trans_le least
  have divisor : (0 : ℚ) < ratioSum scale amounts amount := cast_pos.mpr divisorPos
  have amountPos : (0 : ℚ) < amount := cast_pos.mpr (pos amount listed)
  have inverse := inverseSum_pos nonempty pos
  have quotient : (scale * whole : ℚ) <
      (part scale whole amounts amount + 1) * ratioSum scale amounts amount := by
    exact_mod_cast lt_ediv_add_one_mul_self (scale * whole) divisorPos
  have lowered : (amount : ℚ)⁻¹ * (inverseSum amounts)⁻¹ * whole *
      ratioSum scale amounts amount ≤ scale * whole := by
    calc (amount : ℚ)⁻¹ * (inverseSum amounts)⁻¹ * whole * ratioSum scale amounts amount
        ≤ (amount : ℚ)⁻¹ * (inverseSum amounts)⁻¹ * whole * (amount * scale * inverseSum amounts) :=
          mul_le_mul_of_nonneg_left (ratioSum_le pos amount) (by positivity)
      _ = scale * whole := by field_simp
  exact lt_of_mul_lt_mul_right (lowered.trans_lt quotient) divisor.le

variable (pos : ∀ amount ∈ amounts, 0 < amount)
include pos

/-- The parts do not exceed a whole that is small against the scale. -/
theorem sum_parts_le (scaled : 0 < scale) (nonneg : 0 ≤ whole)
    (small : whole * amounts.length < scale) :
    (amounts.map (part scale whole amounts)).sum ≤ whole := by
  by_cases nonempty : amounts = []
  · simpa [nonempty] using nonneg
  have unit : (0 : ℚ) < scale := cast_pos.mpr scaled
  have total : (((amounts.map (part scale whole amounts)).sum : Int) : ℚ) ≤
      whole * (1 + amounts.length / scale) := by
    calc (((amounts.map (part scale whole amounts)).sum : Int) : ℚ)
        = (amounts.map fun amount => (part scale whole amounts amount : ℚ)).sum := by
          rw [cast_list_sum, map_map]
          rfl
      _ ≤ (amounts.map fun amount : Int => (amount : ℚ)⁻¹ * (inverseSum amounts)⁻¹ *
            (whole * (1 + amounts.length / scale))).sum :=
          sum_le_sum fun amount listed =>
            part_le_weight scaled nonneg nonempty pos listed
      _ = whole * (1 + amounts.length / scale) := by
          rw [sum_map_mul_right, sum_weights nonempty pos, one_mul]
  have excess : (whole : ℚ) * (1 + amounts.length / scale) < whole + 1 := by
    have below : (whole : ℚ) * amounts.length / scale < 1 := by
      rw [div_lt_one unit]
      exact_mod_cast small
    calc (whole : ℚ) * (1 + amounts.length / scale)
        = whole + whole * amounts.length / scale := by ring
      _ < whole + 1 := by linarith
  have strict : (((amounts.map (part scale whole amounts)).sum : Int) : ℚ) <
      ((whole + 1 : Int) : ℚ) := by
    rw [cast_add, cast_one]
    exact total.trans_lt excess
  exact lt_add_one_iff.mp (cast_lt.mp strict)

/-- The parts leave less than one of the whole for each amount. -/
theorem lt_sum_parts (scaled : 0 < scale) (nonneg : 0 ≤ whole) (nonempty : amounts ≠ []) :
    whole < (amounts.map (part scale whole amounts)).sum + amounts.length := by
  have total : (whole : ℚ) <
      (amounts.map fun amount => (part scale whole amounts amount : ℚ) + 1).sum := by
    calc (whole : ℚ)
        = (amounts.map fun amount : Int => (amount : ℚ)⁻¹ * (inverseSum amounts)⁻¹ *
            whole).sum := by
          rw [sum_map_mul_right, sum_weights nonempty pos, one_mul]
      _ < _ := sum_lt_sum_of_ne_nil nonempty _ _ fun amount listed =>
          weight_lt_part scaled nonneg nonempty pos listed
  have cast : (amounts.map fun amount => (part scale whole amounts amount : ℚ) + 1).sum =
      (((amounts.map (part scale whole amounts)).sum + amounts.length : Int) : ℚ) := by
    simp [Function.comp_def]
  rw [cast] at total
  exact cast_lt.mp total

theorem ratioSum_mono (scaled : 0 ≤ scale) {smaller larger : Int} (less : smaller ≤ larger) :
    ratioSum scale amounts smaller ≤ ratioSum scale amounts larger :=
  sum_le_sum fun other mem => Int.ediv_le_ediv (pos other mem)
    (mul_le_mul_of_nonneg_right less scaled)

theorem part_antitone (scaled : 0 < scale) (nonneg : 0 ≤ whole) {smaller larger : Int}
    (listed : smaller ∈ amounts) (less : smaller ≤ larger) :
    part scale whole amounts larger ≤ part scale whole amounts smaller := by
  have divisor := scaled.trans_le (scale_le_ratioSum scaled.le pos listed)
  have more := ratioSum_mono pos scaled.le less
  have product : 0 ≤ scale * whole := mul_nonneg scaled.le nonneg
  unfold part
  rw [Int.le_ediv_iff_mul_le divisor]
  calc scale * whole / ratioSum scale amounts larger * ratioSum scale amounts smaller
      ≤ scale * whole / ratioSum scale amounts larger * ratioSum scale amounts larger :=
        mul_le_mul_of_nonneg_left more (ediv_nonneg product (divisor.trans_le more).le)
    _ ≤ scale * whole := Int.ediv_mul_le _ (divisor.trans_le more).ne'

end InverseShares
