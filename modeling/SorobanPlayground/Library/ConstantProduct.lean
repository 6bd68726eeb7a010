import SorobanPlayground.Library.Rounding

/-! # Constant-product exchanges

An exchange gives, for an amount of one token, the part of its reserve of the
other that keeps the product of the reserves. A fee leaves a part of the amount
out of the formula, in units of a scale, and the result is rounded down. Fee and
rounding both favour the reserves: their product does not decrease
(`ConstantProduct.product_le`), and no reserve is ever exhausted
(`ConstantProduct.quote_lt`).
-/

namespace ConstantProduct

/-- What an exchange gives for an amount of which `counted` units of `1 / scale` count. -/
def quote (scale reserveIn reserveOut counted : Int) : Int :=
  (counted * reserveOut).tdiv (reserveIn * scale + counted)

variable {scale reserveIn reserveOut counted amount : Int}

theorem quote_nonneg (positiveScale : 0 < scale) (positiveIn : 0 < reserveIn)
    (reserveOutNonneg : 0 ≤ reserveOut) (countedNonneg : 0 ≤ counted) :
    0 ≤ quote scale reserveIn reserveOut counted := by
  apply Int.tdiv_nonneg
  · exact mul_nonneg countedNonneg reserveOutNonneg
  · exact add_nonneg (mul_nonneg positiveIn.le positiveScale.le) countedNonneg

/-- An exchange gives less than the reserve. -/
theorem quote_lt (positiveScale : 0 < scale) (positiveIn : 0 < reserveIn)
    (positiveOut : 0 < reserveOut) (countedNonneg : 0 ≤ counted) :
    quote scale reserveIn reserveOut counted < reserveOut := by
  have depth := mul_pos positiveIn positiveScale
  apply Rounding.tdiv_lt (mul_nonneg countedNonneg positiveOut.le) (by linarith)
  have spare := mul_pos positiveOut depth
  linarith [mul_add reserveOut (reserveIn * scale) counted, mul_comm reserveOut counted]

/-- What an exchange leaves is worth its part of the reserve. -/
theorem mul_le_remaining (scale reserveIn : Int) (positiveOut : 0 < reserveOut)
    (countedNonneg : 0 ≤ counted) :
    reserveOut * (reserveIn * scale) ≤
      (reserveOut - quote scale reserveIn reserveOut counted) * (reserveIn * scale + counted) := by
  have rounded := Rounding.tdiv_mul_le (mul_nonneg countedNonneg positiveOut.le)
    (reserveIn * scale + counted)
  change quote scale reserveIn reserveOut counted * _ ≤ _ at rounded
  rw [sub_mul, mul_add reserveOut, mul_comm reserveOut counted]
  omega

/-- An exchange that counts at most the amount does not lower the product of the reserves. -/
theorem product_le (positiveScale : 0 < scale) (positiveIn : 0 < reserveIn)
    (positiveOut : 0 < reserveOut) (countedNonneg : 0 ≤ counted)
    (discounted : counted ≤ amount * scale) :
    reserveIn * reserveOut ≤
      (reserveIn + amount) * (reserveOut - quote scale reserveIn reserveOut counted) := by
  have below := quote_lt positiveScale positiveIn positiveOut countedNonneg
  have left := mul_le_remaining scale reserveIn positiveOut countedNonneg
  set out := quote scale reserveIn reserveOut counted
  have scaled : reserveIn * reserveOut * scale ≤
      (reserveIn + amount) * (reserveOut - out) * scale := by
    calc reserveIn * reserveOut * scale
        = reserveOut * (reserveIn * scale) := by ring
      _ ≤ (reserveOut - out) * (reserveIn * scale + counted) := left
      _ ≤ (reserveOut - out) * (reserveIn * scale + amount * scale) :=
          mul_le_mul_of_nonneg_left (by omega) (by omega)
      _ = (reserveIn + amount) * (reserveOut - out) * scale := by ring
  exact le_of_mul_le_mul_right scaled positiveScale

/-- Two exchanges in a row give no more than one of what both count: the first leaves the rest of
its amount in the reserve, and both are rounded down. -/
theorem quote_split_le {first second : Int} (positiveScale : 0 < scale) (positiveIn : 0 < reserveIn)
    (positiveOut : 0 < reserveOut) (firstNonneg : 0 ≤ first) (secondNonneg : 0 ≤ second)
    (discounted : first ≤ amount * scale) :
    quote scale reserveIn reserveOut first + quote scale (reserveIn + amount)
        (reserveOut - quote scale reserveIn reserveOut first) second ≤
      quote scale reserveIn reserveOut (first + second) := by
  have depth := mul_pos positiveIn positiveScale
  have below := quote_lt positiveScale positiveIn positiveOut firstNonneg
  have left := mul_le_remaining scale reserveIn positiveOut firstNonneg
  set out := quote scale reserveIn reserveOut first
  have deeper : reserveIn * scale + first ≤ (reserveIn + amount) * scale := by
    rw [add_mul]
    omega
  have positiveDeeper : 0 < (reserveIn + amount) * scale := by omega
  have leftAgain := mul_le_remaining scale (reserveIn + amount) (sub_pos.mpr below) secondNonneg
  have belowAgain := quote_lt positiveScale (pos_of_mul_pos_left positiveDeeper positiveScale.le)
    (sub_pos.mpr below) secondNonneg
  set more := quote scale (reserveIn + amount) (reserveOut - out) second
  have whole : reserveOut * (reserveIn * scale) ≤
      (reserveOut - out - more) * (reserveIn * scale + (first + second)) := by
    refine le_of_mul_le_mul_right ?_ positiveDeeper
    calc reserveOut * (reserveIn * scale) * ((reserveIn + amount) * scale)
        ≤ (reserveOut - out) * (reserveIn * scale + first) * ((reserveIn + amount) * scale) :=
          mul_le_mul_of_nonneg_right left positiveDeeper.le
      _ = (reserveOut - out) * ((reserveIn + amount) * scale) * (reserveIn * scale + first) := by
          ring
      _ ≤ (reserveOut - out - more) * ((reserveIn + amount) * scale + second) *
            (reserveIn * scale + first) := mul_le_mul_of_nonneg_right leftAgain (by omega)
      _ = (reserveOut - out - more) *
            ((reserveIn * scale + first) * ((reserveIn + amount) * scale) +
              second * (reserveIn * scale + first)) := by ring
      _ ≤ (reserveOut - out - more) *
            ((reserveIn * scale + first) * ((reserveIn + amount) * scale) +
              second * ((reserveIn + amount) * scale)) :=
          mul_le_mul_of_nonneg_left
            (Int.add_le_add_left (mul_le_mul_of_nonneg_left deeper secondNonneg) _) (by omega)
      _ = (reserveOut - out - more) * (reserveIn * scale + (first + second)) *
            ((reserveIn + amount) * scale) := by ring
  unfold quote
  rw [Int.tdiv_eq_ediv_of_nonneg (mul_nonneg (by omega) positiveOut.le),
    Int.le_ediv_iff_mul_le (by omega)]
  linarith [sub_mul (reserveOut - out) more (reserveIn * scale + (first + second)),
    mul_add reserveOut (reserveIn * scale) (first + second),
    sub_mul reserveOut out (reserveIn * scale + (first + second)),
    add_mul out more (reserveIn * scale + (first + second)), mul_comm reserveOut (first + second)]

end ConstantProduct
