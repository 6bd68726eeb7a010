import SorobanPlayground.OptionsProtocol.Contract

/-! # Fixed-point Black-Scholes

Prices and Greeks have seven decimals. Every product and quotient is rounded toward zero, and the
exponential, the logarithm and the normal distribution are polynomials after a range reduction.
The bounds of the distribution survive the rounding, so that calls and puts stay consistent.
-/

namespace SorobanPlayground.OptionsProtocol

open Int

def secondsPerYear : Int := 31557600

def ln2 : Int := 6931472

def invSqrt2Pi : Int := 3989423

def maxExpInput : Int := 200000000

structure GreeksInput where
  spotPrice : Int
  strikePrice : Int
  volatility : Int
  riskFreeRate : Int
  timeToExpiry : Nat
  kind : OptionKind
  deriving DecidableEq, Repr

structure Greeks where
  price : Int
  delta : Int
  gamma : Int
  vega : Int
  theta : Int
  rho : Int
  deriving DecidableEq, Repr

def div (a b : Int) : Outcome Error Int := do
  ensure (b ≠ 0) .mathOverflow
  let value ← checkedMul (.error .mathOverflow) a scale
  checkedDiv (.error .mathOverflow) value b

/-- Newton's iteration while it descends; a value is more than the number of its rounds. -/
def descend : Nat → Nat → Nat → Nat → Nat
  | 0, _, x, _ => x
  | fuel + 1, value, x, y =>
      if y < x then descend fuel value y ((y + value / y) / 2) else x

def integerSqrt (value : Int) : Outcome Error Int := do
  ensure (¬ value < 0) .mathOverflow
  if value < 2 then return value else do
    let raised ← checkedAdd .trap value 1
    return descend value.toNat value.toNat value.toNat (raised.toNat / 2)

def sqrt (value : Int) : Outcome Error Int := do
  let scaled ← checkedMul (.error .mathOverflow) value scale
  integerSqrt scaled

/-- Halve a value while it is two or more, counting the halvings. -/
def halve : Nat → Int → Int → Int × Int
  | 0, value, exponent => (value, exponent)
  | fuel + 1, value, exponent =>
      if 2 * scale ≤ value then halve fuel (value / 2) (exponent + 1) else (value, exponent)

/-- Double a positive value while it is less than one, counting the doublings off. -/
def double : Nat → Int → Int → Int × Int
  | 0, value, exponent => (value, exponent)
  | fuel + 1, value, exponent =>
      if value < scale then double fuel (value * 2) (exponent - 1) else (value, exponent)

/-- The natural logarithm: a range reduction, as many rounds of it as an `i128` can take, and a
series. -/
def ln (value : Int) : Outcome Error Int := do
  ensure (¬ value ≤ 0) .mathOverflow
  let halved := halve 128 value 0
  let (reduced, exponent) := double 128 halved.1 halved.2
  let z ← div (reduced - scale) (reduced + scale)
  let z2 ← mul z z
  let (_, sum) ← [3, 5, 7, 9, 11, 13].foldlM (fun (term, sum) denominator => do
    let term ← mul term z2
    let sum ← checkedAdd (.error .mathOverflow) sum (term.tdiv denominator)
    return (term, sum)) (z, z)
  let twice ← checkedMul (.error .mathOverflow) sum 2
  checkedAdd (.error .mathOverflow) twice (exponent * ln2)

/-- One more term of the exponential series. -/
def expTerm (reduced : Int) (series : Int × Int) (n : Nat) : Outcome Error (Int × Int) := do
  let product ← mul series.1 reduced
  let term := product.tdiv n
  let sum ← checkedAdd (.error .mathOverflow) series.2 term
  return (term, sum)

/-- The exponential: a range reduction and a Taylor series. -/
def exp (value : Int) : Outcome Error Int := do
  ensure (-maxExpInput ≤ value ∧ value ≤ maxExpInput) .mathOverflow
  let exponent := value.tdiv ln2
  let series ← (List.range' 1 20).foldlM (expTerm (value - exponent * ln2)) (scale, scale)
  if 0 ≤ exponent then checkedMul (.error .mathOverflow) series.2 (2 ^ exponent.toNat)
  else return series.2.tdiv (2 ^ (-exponent).toNat)

def normalPdf (value : Int) : Outcome Error Int := do
  let squared ← mul value value
  let density ← exp ((-squared).tdiv 2)
  mul invSqrt2Pi density

def polynomialStep (t sum coefficient : Int) : Outcome Error Int := do
  let product ← mul t sum
  checkedAdd (.error .mathOverflow) coefficient product

/-- The upper tail of the normal distribution at a distance from its mean. -/
def normalTail (x : Int) : Outcome Error Int := do
  let slope ← mul 2316419 x
  let divisor ← checkedAdd (.error .mathOverflow) scale slope
  let t ← div scale divisor
  let nested ← [-18212560, 17814779, -3565638, 3193815].foldlM (polynomialStep t) 13302744
  let polynomial ← mul t nested
  let pdf ← normalPdf x
  mul pdf polynomial

def normalCdf (value : Int) : Outcome Error Int := do
  let x ← inI128 .trap |value|
  let tail ← normalTail x
  let positive ← checkedSub (.error .mathOverflow) scale tail
  if 0 ≤ value then return positive else checkedSub (.error .mathOverflow) scale positive

/-- What the price and the Greeks of both kinds are computed from. -/
structure Terms where
  time : Int
  sqrtTime : Int
  d1 : Int
  d2 : Int
  discountedStrike : Int
  pdf : Int
  deriving DecidableEq, Repr

def termsOf (spotPrice strikePrice volatility riskFreeRate : Int) (timeToExpiry : Nat) :
    Outcome Error Terms := do
  ensure (¬ (spotPrice ≤ 0 ∨ strikePrice ≤ 0)) .invalidPrice
  ensure (¬ (volatility ≤ 0 ∨ 5 * scale < volatility)) .invalidVolatility
  ensure (InI128 |riskFreeRate| ∧ |riskFreeRate| ≤ 2 * scale) .invalidRate
  ensure (¬ (timeToExpiry = 0 ∨ 10 * 31557600 < timeToExpiry)) .invalidTimeToExpiry
  let scaled ← checkedMul (.error .mathOverflow) timeToExpiry scale
  let time ← checkedDiv (.error .mathOverflow) scaled secondsPerYear
  let sqrtTime ← sqrt time
  let sigmaSqrtTime ← mul volatility sqrtTime
  let sigmaSquared ← mul volatility volatility
  let drift ← checkedAdd (.error .mathOverflow) riskFreeRate (sigmaSquared.tdiv 2)
  let ratio ← div spotPrice strikePrice
  let logarithm ← ln ratio
  let drifted ← mul drift time
  let numerator ← checkedAdd (.error .mathOverflow) logarithm drifted
  let d1 ← div numerator sigmaSqrtTime
  let d2 ← checkedSub (.error .mathOverflow) d1 sigmaSqrtTime
  let interest ← mul riskFreeRate time
  let discount ← exp (-interest)
  let discountedStrike ← mul strikePrice discount
  let pdf ← normalPdf d1
  return { time, sqrtTime, d1, d2, discountedStrike, pdf }

/-- The price before it is clipped, and what else depends on the kind. -/
structure Legs where
  price : Int
  delta : Int
  thetaRateLeg : Int
  rho : Int
  deriving DecidableEq, Repr

def legsOf (spotPrice riskFreeRate : Int) (terms : Terms) : OptionKind → Outcome Error Legs
  | .call => do
      let nd1 ← normalCdf terms.d1
      let nd2 ← normalCdf terms.d2
      let received ← mul spotPrice nd1
      let paid ← mul terms.discountedStrike nd2
      let price ← checkedSub (.error .mathOverflow) received paid
      let interest ← mul riskFreeRate terms.discountedStrike
      let decay ← mul interest nd2
      let exposure ← mul terms.discountedStrike terms.time
      let rho ← mul exposure nd2
      return { price, delta := nd1, thetaRateLeg := -decay, rho }
  | .put => do
      let minusD1 ← checkedSub .trap 0 terms.d1
      let nmd1 ← normalCdf minusD1
      let minusD2 ← checkedSub .trap 0 terms.d2
      let nmd2 ← normalCdf minusD2
      let received ← mul terms.discountedStrike nmd2
      let paid ← mul spotPrice nmd1
      let price ← checkedSub (.error .mathOverflow) received paid
      let nd1 ← normalCdf terms.d1
      let delta ← checkedSub (.error .mathOverflow) nd1 scale
      let interest ← mul riskFreeRate terms.discountedStrike
      let thetaRateLeg ← mul interest nmd2
      let exposure ← mul terms.discountedStrike terms.time
      let decay ← mul exposure nmd2
      return { price, delta, thetaRateLeg, rho := -decay }

def gammaOf (spotPrice volatility : Int) (terms : Terms) : Outcome Error Int := do
  let exposed ← mul spotPrice volatility
  let gammaDenominator ← mul exposed terms.sqrtTime
  div terms.pdf gammaDenominator

def vegaOf (spotPrice : Int) (terms : Terms) : Outcome Error Int := do
  let weighted ← mul spotPrice terms.pdf
  mul weighted terms.sqrtTime

def blackScholes (input : GreeksInput) : Outcome Error Greeks := do
  let terms ← termsOf input.spotPrice input.strikePrice input.volatility input.riskFreeRate
    input.timeToExpiry
  let legs ← legsOf input.spotPrice input.riskFreeRate terms input.kind
  let weighted ← mul input.spotPrice terms.pdf
  let diffused ← mul weighted input.volatility
  let diffusion ← div diffused (2 * terms.sqrtTime)
  let gamma ← gammaOf input.spotPrice input.volatility terms
  let vega ← vegaOf input.spotPrice terms
  let theta ← checkedAdd (.error .mathOverflow) (-diffusion) legs.thetaRateLeg
  return { price := max legs.price 0, delta := legs.delta, gamma, vega, theta, rho := legs.rho }

variable {a b result value : Int}

theorem mul_eq (eq : mul a b = .ok result) : (a * b).tdiv scale = result := by
  simp only [mul, bind_eq_ok, arith_ok] at eq
  obtain ⟨-, -, -, same⟩ := eq
  exact same

theorem mul_swap (a b : Int) : mul a b = mul b a := by
  unfold mul checkedMul
  rw [Int.mul_comm]

theorem mul_near (eq : mul a b = .ok result) :
    a * b - scale < result * scale ∧ result * scale < a * b + scale := by
  have split := tdiv_mul_add_tmod (a * b) scale
  have above := tmod_lt_of_pos (a * b) (by decide : 0 < scale)
  have below := lt_tmod_of_pos (a * b) (by decide : 0 < scale)
  rw [mul_eq eq] at split
  omega

/-- A product with a part of one is a part. -/
theorem mul_part (eq : mul a b = .ok result) (part : 0 ≤ a ∧ a ≤ scale) (nonneg : 0 ≤ b) :
    0 ≤ result ∧ result ≤ b := by
  rw [← mul_eq eq, tdiv_eq_ediv_of_nonneg (mul_nonneg part.1 nonneg)]
  refine ⟨ediv_nonneg (mul_nonneg part.1 nonneg) (by decide), ?_⟩
  apply Int.ediv_le_of_le_mul (by decide)
  rw [mul_comm]
  exact mul_le_mul_of_nonneg_left part.2 nonneg

/-- The products with complementary parts of one add up to the whole, up to one unit. -/
theorem mul_complements {first second p q : Int} (left : mul a p = .ok first)
    (right : mul a q = .ok second) (nonneg : 0 ≤ a) (parts : 0 ≤ p ∧ 0 ≤ q)
    (whole : p + q = scale) : a - 1 ≤ first + second ∧ first + second ≤ a := by
  rw [← mul_eq left, ← mul_eq right, tdiv_eq_ediv_of_nonneg (mul_nonneg nonneg parts.1),
    tdiv_eq_ediv_of_nonneg (mul_nonneg nonneg parts.2)]
  have total : a * p + a * q = a * scale := by rw [← mul_add, whole]
  unfold scale at total ⊢
  omega

theorem div_eq (eq : div a b = .ok result) : (a * scale).tdiv b = result := by
  simp only [div, call_ok, arith_ok] at eq
  obtain ⟨-, -, -, -, same⟩ := eq
  exact same

theorem sqrt_nonneg (eq : sqrt value = .ok result) : 0 ≤ result := by
  simp only [sqrt, integerSqrt, call_ok] at eq
  obtain ⟨_, -, nonneg, eq⟩ := eq
  split at eq
  · cases eq
    exact not_lt.mp nonneg
  · obtain ⟨_, -, same⟩ := bind_eq_ok.mp eq
    cases same
    exact natCast_nonneg _

/-- The partial sums of the series of a negative exponent alternate between zero and one. -/
def Alternates (series : Int × Int) : Prop :=
  (0 ≤ series.2 ∧ series.2 ≤ scale) ∧ 0 ≤ series.2 - series.1 ∧ series.2 - series.1 ≤ scale

theorem tdiv_part {x : Int} (n : Nat) (nonneg : 0 ≤ x) (le : x ≤ b * scale) :
    0 ≤ (x.tdiv scale).tdiv n ∧ (x.tdiv scale).tdiv n ≤ b := by
  have quotient : 0 ≤ x.tdiv scale := Int.tdiv_nonneg nonneg (by decide)
  refine ⟨Int.tdiv_nonneg quotient (natCast_nonneg n), (tdiv_le_self _ quotient).trans ?_⟩
  rw [tdiv_eq_ediv_of_nonneg nonneg]
  exact Int.ediv_le_of_le_mul (by decide) le

theorem expTerm_alternates {reduced : Int} {series next : Int × Int} {n : Nat}
    (part : -scale ≤ reduced ∧ reduced ≤ 0) (alternates : Alternates series)
    (eq : expTerm reduced series n = .ok next) : Alternates next := by
  simp only [expTerm, call_ok, arith_ok] at eq
  obtain ⟨product, multiplied, -, rfl⟩ := eq
  -- the next term has the other sign and is not larger
  have between : 0 ≤ product.tdiv n ∧ product.tdiv n ≤ -series.1 ∨
      0 ≤ -product.tdiv n ∧ -product.tdiv n ≤ series.1 := by
    rw [← mul_eq multiplied]
    rcases le_total 0 series.1 with pos | negative
    · right
      rw [← Int.neg_tdiv, ← Int.neg_tdiv, ← mul_neg]
      exact tdiv_part n (mul_nonneg pos (by omega))
        (mul_le_mul_of_nonneg_left (by omega) pos)
    · left
      rw [← neg_mul_neg]
      exact tdiv_part n (mul_nonneg (by omega) (by omega))
        (mul_le_mul_of_nonneg_left (by omega) (by omega))
  unfold Alternates at *
  dsimp only
  omega

theorem exp_part (nonpos : value ≤ 0) (eq : exp value = .ok result) :
    0 ≤ result ∧ result ≤ scale := by
  simp only [exp, call_ok] at eq
  obtain ⟨-, series, summed, eq⟩ := eq
  have exponent : value.tdiv ln2 = -(-value / ln2) := by
    rw [← tdiv_eq_ediv_of_nonneg (by omega), Int.neg_tdiv, neg_neg]
  have reduced : -scale ≤ value - value.tdiv ln2 * ln2 ∧ value - value.tdiv ln2 * ln2 ≤ 0 := by
    rw [exponent]
    unfold ln2 scale
    omega
  have start : Alternates (scale, scale) := by
    unfold Alternates scale
    omega
  have alternates : Alternates series :=
    foldlM_invariant Alternates (fun _ _ _ _ => expTerm_alternates reduced) start summed
  obtain ⟨⟨nonneg, below⟩, -⟩ := alternates
  split at eq
  · next whole =>
    have zero : value.tdiv ln2 = 0 := by
      have quotient : 0 ≤ -value / ln2 := ediv_nonneg (by omega) (by decide)
      omega
    rw [zero, arith_ok.2.2.1] at eq
    obtain ⟨-, rfl⟩ := eq
    simpa using ⟨nonneg, below⟩
  · cases eq
    exact ⟨Int.tdiv_nonneg nonneg (by positivity), (tdiv_le_self _ nonneg).trans below⟩

theorem exp_nonneg (eq : exp value = .ok result) : 0 ≤ result := by
  rcases le_total value 0 with nonpos | nonneg
  · exact (exp_part nonpos eq).1
  simp only [exp, call_ok] at eq
  obtain ⟨-, series, summed, eq⟩ := eq
  have reduced : 0 ≤ value - value.tdiv ln2 * ln2 := by
    rw [tdiv_eq_ediv_of_nonneg nonneg]
    exact sub_nonneg.mpr (Int.ediv_mul_le value (by decide))
  have pos : 0 ≤ series.1 ∧ 0 ≤ series.2 := by
    refine foldlM_invariant (fun series : Int × Int => 0 ≤ series.1 ∧ 0 ≤ series.2)
      (fun series n next _ pos eq => ?_) (by decide) summed
    simp only [expTerm, call_ok, arith_ok] at eq
    obtain ⟨product, multiplied, -, rfl⟩ := eq
    have term : 0 ≤ product.tdiv n := by
      rw [← mul_eq multiplied]
      exact Int.tdiv_nonneg (Int.tdiv_nonneg (mul_nonneg pos.1 reduced) (by decide))
        (natCast_nonneg n)
    exact ⟨term, add_nonneg pos.2 term⟩
  split at eq
  · rw [arith_ok.2.2.1] at eq
    obtain ⟨-, rfl⟩ := eq
    exact mul_nonneg pos.2 (by positivity)
  · cases eq
    exact Int.tdiv_nonneg pos.2 (by positivity)

theorem normalPdf_part (eq : normalPdf value = .ok result) : 0 ≤ result ∧ result ≤ invSqrt2Pi := by
  simp only [normalPdf, bind_eq_ok] at eq
  obtain ⟨squared, multiplied, density, exponential, eq⟩ := eq
  have nonneg : 0 ≤ squared := by
    rw [← mul_eq multiplied]
    exact Int.tdiv_nonneg (mul_self_nonneg value) (by decide)
  have falling : (-squared).tdiv 2 ≤ 0 := by
    rw [Int.neg_tdiv]
    exact neg_nonpos.mpr (Int.tdiv_nonneg nonneg (by decide))
  have part := exp_part falling exponential
  rw [mul_swap] at eq
  exact mul_part eq part (by decide)

/-- The polynomial lies between zero and two. -/
theorem polynomial_part {t nested polynomial : Int} (part : 0 ≤ t ∧ t ≤ scale)
    (folded : [-18212560, 17814779, -3565638, 3193815].foldlM (polynomialStep t) 13302744 =
      .ok nested)
    (eq : mul t nested = .ok polynomial) : 0 ≤ polynomial ∧ polynomial ≤ 2 * scale := by
  simp only [List.foldlM, polynomialStep, call_ok, arith_ok] at folded
  obtain ⟨_, ⟨first, firstEq, -, rfl⟩, _, ⟨second, secondEq, -, rfl⟩, _, ⟨third, thirdEq, -, rfl⟩,
    _, ⟨fourth, fourthEq, -, rfl⟩, rfl⟩ := folded
  obtain ⟨-, firstLe⟩ := mul_part firstEq part (by decide)
  have near1 := mul_near firstEq
  have near2 := mul_near secondEq
  have near3 := mul_near thirdEq
  have near4 := mul_near fourthEq
  have thirdLe := mul_part thirdEq part
  have whole := mul_part eq part
  unfold scale at *
  have falls := mul_nonneg part.1 (by omega : 0 ≤ -(-18212560 + first))
  -- the discriminants of the two quadratics in `t` are negative
  have low : 11500000 ≤ 17814779 + second := by
    have inner := mul_nonneg part.1
      (by omega : 0 ≤ (-18212560 + first) * 10000000 + 18212561 * 10000000 - t * 13302744)
    nlinarith only [inner, sq_nonneg (2 * 13302744 * t - 18212561 * 10000000), near2]
  have high : second ≤ 0 := by
    nlinarith only [falls, near2]
  obtain ⟨-, thirdLe⟩ := thirdLe (by omega)
  have rises := mul_nonneg part.1 (by omega : 0 ≤ 17814779 + second - 11500000)
  have pos : 0 ≤ 3193815 + fourth := by
    have inner := mul_nonneg part.1
      (by nlinarith only [rises, near3] :
        0 ≤ (-3565638 + third) * 10000000 + 3565639 * 10000000 - t * 11500000)
    nlinarith only [inner, sq_nonneg (2 * 11500000 * t - 3565639 * 10000000), near4]
  have bound : fourth ≤ 14249141 := by
    have inner := mul_nonneg part.1 (by omega : 0 ≤ 14249141 - (-3565638 + third))
    nlinarith only [inner, part.2, near4]
  have whole := whole pos
  omega

theorem normalTail_part {x : Int} (nonneg : 0 ≤ x) (eq : normalTail x = .ok result) :
    0 ≤ result ∧ result ≤ scale := by
  simp only [normalTail, bind_eq_ok, arith_ok] at eq
  obtain ⟨slope, sloped, -, t, divided, nested, folded, polynomial, multiplied, pdf,
    density, eq⟩ := eq
  have steep := (mul_part sloped (by decide) nonneg).1
  have part : 0 ≤ t ∧ t ≤ scale := by
    rw [← div_eq divided, tdiv_eq_ediv_of_nonneg (by decide)]
    have pos : 0 < scale + slope := add_pos_of_pos_of_nonneg (by decide) steep
    refine ⟨ediv_nonneg (by decide) pos.le, Int.ediv_le_of_le_mul pos ?_⟩
    exact mul_le_mul_of_nonneg_left (le_add_of_nonneg_right steep) (by decide)
  have bound := polynomial_part part folded multiplied
  have density := normalPdf_part density
  have nonneg := mul_nonneg density.1 bound.1
  rw [← mul_eq eq, tdiv_eq_ediv_of_nonneg nonneg]
  refine ⟨ediv_nonneg nonneg (by decide), Int.ediv_le_of_le_mul (by decide) ?_⟩
  calc pdf * polynomial
      ≤ invSqrt2Pi * (2 * scale) := mul_le_mul density.2 bound.2 bound.1 (by decide)
    _ ≤ scale * scale := by decide

/-- The distribution at a point and at its opposite. -/
def Complementary (x : Int) : Prop :=
  ∃ below above, normalCdf x = .ok below ∧ normalCdf (-x) = .ok above ∧
    (0 ≤ below ∧ below ≤ scale) ∧ (0 ≤ above ∧ above ≤ scale) ∧ below + above = scale

theorem normalCdf_tail (eq : normalCdf value = .ok result) :
    ∃ tail, normalTail |value| = .ok tail ∧ result = if 0 ≤ value then scale - tail else tail := by
  simp only [normalCdf, inI128, bind_eq_ok, arith_ok] at eq
  obtain ⟨_, within, tail, found, -, eq⟩ := eq
  split at within
  · cases within
    refine ⟨tail, found, ?_⟩
    split at eq
    · next nonneg =>
      cases eq
      rw [if_pos nonneg]
    · next negative =>
      rw [arith_ok.2.1] at eq
      rw [if_neg negative, ← eq.2, sub_sub_cancel]
  · cases within

theorem complementary_of_ok {below above : Int} (nonzero : value ≠ 0)
    (left : normalCdf value = .ok below) (right : normalCdf (-value) = .ok above) :
    ((0 ≤ below ∧ below ≤ scale) ∧ (0 ≤ above ∧ above ≤ scale) ∧ below + above = scale) := by
  obtain ⟨tail, found, rfl⟩ := normalCdf_tail left
  obtain ⟨other, again, rfl⟩ := normalCdf_tail right
  rw [abs_neg, found] at again
  cases again
  have part := normalTail_part (abs_nonneg value) found
  split
  · rw [if_neg (by omega)]
    omega
  · rw [if_pos (by omega)]
    omega

variable {input : GreeksInput} {terms : Terms} {callLegs putLegs : Legs} {call put : Greeks}

/-- How the quotes of a call and of a put on the same terms fit together. -/
structure Consistent (spotPrice : Int) (terms : Terms) (callLegs putLegs : Legs)
    (call put : Greeks) : Prop where
  first : Complementary terms.d1
  second : Complementary terms.d2
  callDelta : 0 ≤ call.delta ∧ call.delta ≤ scale
  putDelta : -scale ≤ put.delta ∧ put.delta ≤ 0
  deltas : call.delta - put.delta = scale
  gamma : call.gamma = put.gamma ∧ 0 ≤ call.gamma
  vega : call.vega = put.vega ∧ 0 ≤ call.vega
  parity : |callLegs.price - putLegs.price - (spotPrice - terms.discountedStrike)| ≤ 1

theorem termsOf_bounds {spotPrice strikePrice volatility riskFreeRate : Int} {timeToExpiry : Nat}
    (eq : termsOf spotPrice strikePrice volatility riskFreeRate timeToExpiry = .ok terms) :
    0 < spotPrice ∧ 0 < volatility ∧ 0 ≤ terms.sqrtTime ∧ 0 ≤ terms.discountedStrike ∧
      0 ≤ terms.pdf := by
  simp only [termsOf, call_ok] at eq
  obtain ⟨priced, volatile, -, -, _, -, _, -, sqrtTime, rooted, _, -, _, -, _, -, _, -, _, -, _, -,
    _, -, _, -, _, -, _, -, discount, exponential, _, discounted, _, density, rfl⟩ := eq
  obtain ⟨spot, strike⟩ := not_or.mp priced
  refine ⟨not_le.mp spot, not_le.mp (not_or.mp volatile).1, sqrt_nonneg rooted, ?_,
    (normalPdf_part density).1⟩
  rw [← mul_eq discounted]
  exact Int.tdiv_nonneg (mul_nonneg (not_le.mp strike).le (exp_nonneg exponential)) (by decide)

theorem blackScholes_spec {greeks : Greeks} (eq : blackScholes input = .ok greeks) :
    ∃ terms legs, termsOf input.spotPrice input.strikePrice input.volatility input.riskFreeRate
        input.timeToExpiry = .ok terms ∧
      legsOf input.spotPrice input.riskFreeRate terms input.kind = .ok legs ∧
      (greeks.price = max legs.price 0 ∧ greeks.delta = legs.delta) ∧
      gammaOf input.spotPrice input.volatility terms = .ok greeks.gamma ∧
      vegaOf input.spotPrice terms = .ok greeks.vega := by
  simp only [blackScholes, call_ok] at eq
  obtain ⟨terms, termed, legs, legged, _, -, _, -, _, -, gamma, curved, vega, volatile, _, -,
    rfl⟩ := eq
  exact ⟨terms, legs, termed, legged, ⟨rfl, rfl⟩, curved, volatile⟩

theorem gammaOf_nonneg {spotPrice volatility : Int}
    (nonneg : 0 < spotPrice ∧ 0 < volatility ∧ 0 ≤ terms.sqrtTime ∧ 0 ≤ terms.pdf)
    (eq : gammaOf spotPrice volatility terms = .ok result) : 0 ≤ result := by
  simp only [gammaOf, bind_eq_ok] at eq
  obtain ⟨exposed, product, denominator, rooted, eq⟩ := eq
  obtain ⟨spot, volatile, root, density⟩ := nonneg
  rw [← div_eq eq, ← mul_eq rooted, ← mul_eq product]
  have factor : 0 ≤ (spotPrice * volatility).tdiv scale :=
    Int.tdiv_nonneg (mul_nonneg spot.le volatile.le) (by decide)
  exact Int.tdiv_nonneg (mul_nonneg density (by decide))
    (Int.tdiv_nonneg (mul_nonneg factor root) (by decide))

theorem vegaOf_nonneg {spotPrice : Int}
    (nonneg : 0 < spotPrice ∧ 0 ≤ terms.sqrtTime ∧ 0 ≤ terms.pdf)
    (eq : vegaOf spotPrice terms = .ok result) : 0 ≤ result := by
  simp only [vegaOf, bind_eq_ok] at eq
  obtain ⟨weighted, product, eq⟩ := eq
  obtain ⟨spot, root, density⟩ := nonneg
  rw [← mul_eq eq, ← mul_eq product]
  have factor : 0 ≤ (spotPrice * terms.pdf).tdiv scale :=
    Int.tdiv_nonneg (mul_nonneg spot.le density) (by decide)
  exact Int.tdiv_nonneg (mul_nonneg factor root) (by decide)

/-- Where both kinds are quoted and neither of the two points is zero, the distribution is
complementary at both, the deltas lie between zero and one and differ by one, gamma and vega are
the same and not negative, and the prices before clipping keep put-call parity up to one unit. -/
theorem quotes_consistent (called : blackScholes { input with kind := .call } = .ok call)
    (putted : blackScholes { input with kind := .put } = .ok put) :
    ∃ terms callLegs putLegs, termsOf input.spotPrice input.strikePrice input.volatility
        input.riskFreeRate input.timeToExpiry = .ok terms ∧
      legsOf input.spotPrice input.riskFreeRate terms .call = .ok callLegs ∧
      legsOf input.spotPrice input.riskFreeRate terms .put = .ok putLegs ∧
      call.price = max callLegs.price 0 ∧ put.price = max putLegs.price 0 ∧
      (terms.d1 ≠ 0 → terms.d2 ≠ 0 →
        Consistent input.spotPrice terms callLegs putLegs call put) := by
  obtain ⟨terms, callLegs, termed, callLegged, ⟨callPrice, callDelta⟩, callGamma, callVega⟩ :=
    blackScholes_spec called
  obtain ⟨same, putLegs, again, putLegged, ⟨putPrice, putDelta⟩, putGamma, putVega⟩ :=
    blackScholes_spec putted
  cases termed.symm.trans again
  refine ⟨terms, callLegs, putLegs, termed, callLegged, putLegged, callPrice, putPrice,
    fun first second => ?_⟩
  obtain ⟨spot, volatile, root, strike, density⟩ := termsOf_bounds termed
  have gamma := gammaOf_nonneg ⟨spot, volatile, root, density⟩ callGamma
  have vega := vegaOf_nonneg ⟨spot, root, density⟩ callVega
  have sameGamma := Except.ok.inj (callGamma.symm.trans putGamma)
  have sameVega := Except.ok.inj (callVega.symm.trans putVega)
  simp only [legsOf, call_ok, arith_ok, zero_sub] at callLegged putLegged
  obtain ⟨nd1, above1, nd2, above2, a, received, b, paid, -, _, -, _, -, _, -, _, -,
    rfl⟩ := callLegged
  obtain ⟨-, nmd1, below1, -, nmd2, below2, c, owed, d, given, -, _,
    again1, -, _, -, _, -, _, -, _, -, rfl⟩ := putLegged
  cases above1.symm.trans again1
  have part1 := complementary_of_ok first above1 below1
  have part2 := complementary_of_ok second above2 below2
  have spots := mul_complements received given spot.le ⟨part1.1.1, part1.2.1.1⟩ part1.2.2
  have strikes := mul_complements paid owed strike ⟨part2.1.1, part2.2.1.1⟩ part2.2.2
  dsimp only at callDelta putDelta ⊢
  exact
    { first := ⟨nd1, nmd1, above1, below1, part1⟩
      second := ⟨nd2, nmd2, above2, below2, part2⟩
      callDelta := callDelta ▸ part1.1
      putDelta := by omega
      deltas := by omega
      gamma := ⟨sameGamma, gamma⟩
      vega := ⟨sameVega, vega⟩
      parity := by
        rw [abs_le]
        dsimp only
        omega }

/-- An option of a year, struck five percent above the spot price of 100. -/
def yearly : GreeksInput where
  spotPrice := 1000000000
  strikePrice := 1050000000
  volatility := 2000000
  riskFreeRate := 500000
  timeToExpiry := 31557600
  kind := .call

def yearlyCall : Greeks where
  price := 80214110
  delta := 5422269
  gamma := 198352
  vega := 396705400
  theta := -62771179
  rho := 462012790

def yearlyPut : Greeks where
  price := 79004979
  delta := -4577731
  gamma := 198352
  vega := 396705400
  theta := -12831637
  rho := -536778079

theorem quotes_consistent_yearly :
    blackScholes { yearly with kind := .call } = .ok yearlyCall ∧
      blackScholes { yearly with kind := .put } = .ok yearlyPut ∧
      ∃ terms callLegs putLegs,
        Consistent yearly.spotPrice terms callLegs putLegs yearlyCall yearlyPut := by
  have called : blackScholes { yearly with kind := .call } = .ok yearlyCall := by decide +kernel
  have putted : blackScholes { yearly with kind := .put } = .ok yearlyPut := by decide +kernel
  refine ⟨called, putted, ?_⟩
  obtain ⟨terms, callLegs, putLegs, termed, -, -, -, -, consistent⟩ :=
    quotes_consistent called putted
  have known : termsOf yearly.spotPrice yearly.strikePrice yearly.volatility yearly.riskFreeRate
      yearly.timeToExpiry = .ok
        { time := 10000000, sqrtTime := 10000000, d1 := 1060450, d2 := -939550
          discountedStrike := 998790870, pdf := 3967054 } := by
    decide +kernel
  cases termed.symm.trans known
  exact ⟨_, _, _, consistent (by decide) (by decide)⟩

end SorobanPlayground.OptionsProtocol
