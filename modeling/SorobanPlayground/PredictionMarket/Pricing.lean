import Mathlib.Data.Rat.Floor
import SorobanPlayground.Host.Arithmetic
import SorobanPlayground.Library.Euclid
import SorobanPlayground.Library.SharePool

/-! # Prices of conditional shares

A conditional market keeps a reserve of the shares of each outcome. Trades are
quoted so that the product of the reserves is not lowered: a buy rounds the reserve
that it leaves of the chosen outcome up, one step for each other outcome, and a sale
pays the most that a chain of rounded-down ratios accepts, found by bisection.
-/

namespace SorobanPlayground.PredictionMarket

open List

inductive Error where
  | alreadyInitialized
  | notInitialized
  | marketNotFound
  | marketAlreadyResolved
  | marketNotResolved
  | marketExpired
  | marketNotExpired
  | invalidOutcome
  | insufficientStake
  | nothingToWithdraw
  | unauthorized
  | invalidMarketType
  | zeroStake
  | positionNotFound
  | invalidOutcomeCount
  | invalidAmount
  | arithmeticOverflow
  | conditionalMarketRequired
  | insufficientShares
  | insufficientLiquidity
  | slippageExceeded
  | resolutionTooEarly
  | resolutionNotProposed
  | disputeWindowActive
  | disputeWindowClosed
  | resolutionAlreadyDisputed
  | resolutionNotDisputed
  | invalidDisputeWindow
  | disputeBondTooSmall
  deriving DecidableEq, Repr

/-- Configuration and market maker state of a collateralized market. -/
structure ConditionalMarket (Address : Type) where
  marketId : Nat
  outcomes : List String
  collateralToken : Address
  disputeResolver : Address
  disputeWindow : Nat
  minimumDisputeBond : Int
  /-- Outcome-token reserves owned by the fixed-product market maker. -/
  poolBalances : List Int
  totalLiquidityShares : Int
  /-- Collateral held by the contract against complete outcome-token sets. -/
  collateralLocked : Int
  deriving DecidableEq, Repr

variable {Address : Type}

/-- The rounds of `gcd`; each lowers `right`. -/
def gcdLoop : Nat → Int → Int → Int
  | 0, left, _ => left
  | fuel + 1, left, right =>
      if right ≠ 0 then gcdLoop fuel right (left.tmod right) else left

def gcd (left right : Int) : Int := gcdLoop (right.natAbs + 1) left right

def mulDivFloor (left right denominator : Int) : Outcome Error Int := do
  ensure (¬ (left < 0 ∨ right < 0 ∨ denominator ≤ 0)) .invalidAmount
  let firstGcd := gcd left denominator
  let reducedLeft ← checkedDiv .trap left firstGcd
  let remainingDenominator ← checkedDiv .trap denominator firstGcd
  let secondGcd := gcd right remainingDenominator
  let reducedRight ← checkedDiv .trap right secondGcd
  let divisor ← checkedDiv .trap remainingDenominator secondGcd
  let value ← checkedMul (.error .arithmeticOverflow) reducedLeft reducedRight
  checkedDiv .trap value divisor

def roundUp (floor remainder : Int) : Outcome Error Int :=
  if remainder = 0 then .ok floor else checkedAdd (.error .arithmeticOverflow) floor 1

def mulDivCeil (left right denominator : Int) : Outcome Error Int := do
  ensure (¬ (left < 0 ∨ right < 0 ∨ denominator ≤ 0)) .invalidAmount
  let firstGcd := gcd left denominator
  let reducedLeft ← checkedDiv .trap left firstGcd
  let remainingDenominator ← checkedDiv .trap denominator firstGcd
  let secondGcd := gcd right remainingDenominator
  let reducedRight ← checkedDiv .trap right secondGcd
  let numerator ← checkedMul (.error .arithmeticOverflow) reducedLeft reducedRight
  let divisor ← checkedDiv .trap remainingDenominator secondGcd
  let floor ← checkedDiv .trap numerator divisor
  roundUp floor (numerator.tmod divisor)

variable {left right denominator result : Int}

theorem gcdLoop_eq_rounds (fuel : Nat) (left right : Int) :
    gcdLoop fuel left right = Euclid.rounds fuel left right := by
  induction fuel generalizing left right with
  | zero => rfl
  | succ _ ih =>
    rw [gcdLoop, Euclid.rounds, ite_not, ih]

theorem gcd_eq (leftNonneg : 0 ≤ left) (rightNonneg : 0 ≤ right) :
    gcd left right = Int.gcd left right := by
  rw [gcd, gcdLoop_eq_rounds, Euclid.rounds_eq_gcd leftNonneg rightNonneg (Nat.le_succ _)]

theorem mulDivFloor_eq (eq : mulDivFloor left right denominator = .ok result) :
    0 ≤ left ∧ 0 ≤ right ∧ 0 < denominator ∧ result = left * right / denominator := by
  simp only [mulDivFloor, call_ok, arith_ok] at eq
  obtain ⟨_, -, -, -, -, -, -, -, -, -, -, -,
    rfl⟩ := eq
  have leftNonneg : 0 ≤ left := by omega
  have rightNonneg : 0 ≤ right := by omega
  have pos : 0 < denominator := by omega
  refine ⟨leftNonneg, rightNonneg, pos, ?_⟩
  rw [gcd_eq leftNonneg pos.le, gcd_eq rightNonneg (Euclid.rest_pos left pos).le]
  exact Euclid.reduced_quotient leftNonneg rightNonneg pos

variable {numerator divisor : Int}

theorem roundUp_spec (nonneg : 0 ≤ numerator) (pos : 0 < divisor)
    (rounded : roundUp (numerator.tdiv divisor) (numerator.tmod divisor) = .ok result) :
    numerator ≤ result * divisor ∧ result * divisor < numerator + divisor := by
  have split := Int.mul_tdiv_add_tmod numerator divisor
  have lower := Int.tmod_nonneg divisor nonneg
  have upper := Int.tmod_lt_of_pos numerator pos
  unfold roundUp at rounded
  split_ifs at rounded with whole
  · cases rounded
    rw [mul_comm]
    omega
  · obtain ⟨-, rfl⟩ := checkedAdd_eq_ok.mp rounded
    rw [add_mul, one_mul, mul_comm]
    omega

theorem mulDivCeil_spec (eq : mulDivCeil left right denominator = .ok result) :
    0 ≤ left ∧ 0 ≤ right ∧ 0 < denominator ∧ left * right ≤ result * denominator ∧
      result * denominator < left * right + denominator := by
  simp only [mulDivCeil, call_ok, arith_ok] at eq
  obtain ⟨_, -, -, -, -, -, -, -, -, -, -, -, rounded⟩ := eq
  have leftNonneg : 0 ≤ left := by omega
  have rightNonneg : 0 ≤ right := by omega
  have pos : 0 < denominator := by omega
  rw [gcd_eq leftNonneg pos.le, gcd_eq rightNonneg (Euclid.rest_pos left
    pos).le] at rounded
  obtain ⟨factor, factorPositive, product, quotient⟩ :=
    Euclid.exists_common_factor left right pos
  generalize denominator.tdiv (Int.gcd left denominator) = rest at *
  generalize left.tdiv (Int.gcd left denominator) * right.tdiv (Int.gcd right rest) = numerator at *
  generalize rest.tdiv (Int.gcd right rest) = divisor at *
  have reduced : 0 ≤ numerator :=
    nonneg_of_mul_nonneg_right (product ▸ mul_nonneg leftNonneg rightNonneg) factorPositive
  have divisorPositive : 0 < divisor :=
    pos_of_mul_pos_right (quotient ▸ pos) factorPositive.le
  obtain ⟨above, below⟩ := roundUp_spec reduced divisorPositive rounded
  refine ⟨leftNonneg, rightNonneg, pos, ?_⟩
  rw [product, quotient]
  constructor
  · calc factor * numerator ≤ factor * (result * divisor) :=
          mul_le_mul_of_nonneg_left above factorPositive.le
      _ = result * (factor * divisor) := by ring
  · calc result * (factor * divisor) = factor * (result * divisor) := by ring
      _ < factor * (numerator + divisor) := mul_lt_mul_of_pos_left below factorPositive
      _ = factor * numerator + factor * divisor := by ring

theorem gcd_pos (nonneg : 0 ≤ left) (pos : 0 < denominator) : 0 < gcd left denominator := by
  rw [gcd_eq nonneg pos.le]
  exact Int.natCast_pos.mpr (Int.gcd_pos_of_ne_zero_right left pos.ne')

theorem rest_pos (nonneg : 0 ≤ left) (pos : 0 < denominator) :
    0 < denominator.tdiv (gcd left denominator) := by
  rw [gcd_eq nonneg pos.le]
  exact Euclid.rest_pos left pos

theorem roundUp_succeeds (nonneg : 0 ≤ numerator) (fits : numerator ≤ i128Max) (pos : 0 < divisor) :
    ∃ result, roundUp (numerator.tdiv divisor) (numerator.tmod divisor) = .ok result := by
  unfold roundUp
  split_ifs with whole
  · exact ⟨_, rfl⟩
  · -- A remainder is left only by a divisor above one, so the quotient is below the dividend.
    have split := Int.mul_tdiv_add_tmod numerator divisor
    have quotient := Int.tdiv_nonneg nonneg pos.le
    have remainder := Int.tmod_nonneg divisor nonneg
    have scaled := le_mul_of_one_le_left quotient pos
    exact ⟨_, checkedAdd_eq_ok.mpr ⟨⟨(by decide : i128Min ≤ 0).trans (by omega), by omega⟩, rfl⟩⟩

/-- A product in range is never an overflow: the reduced product is not larger. -/
theorem mulDiv_succeeds (leftNonneg : 0 ≤ left) (rightNonneg : 0 ≤ right) (pos : 0 < denominator)
    (leftFits : left ≤ i128Max) (rightFits : right ≤ i128Max) (fits : denominator ≤ i128Max)
    (product : left * right ≤ i128Max) :
    (∃ result, mulDivFloor left right denominator = .ok result) ∧
      ∃ result, mulDivCeil left right denominator = .ok result := by
  have valid : ¬ (left < 0 ∨ right < 0 ∨ denominator ≤ 0) := by omega
  have first := gcd_pos leftNonneg pos
  have remaining := rest_pos leftNonneg pos
  have second := gcd_pos rightNonneg remaining
  have last := rest_pos rightNonneg remaining
  have within {value : Int} (nonneg : 0 ≤ value) (bound : value ≤ i128Max) : InI128 value :=
    ⟨nonneg.trans' (by decide), bound⟩
  have leftRange := inI128_tdiv (within leftNonneg leftFits) first
  have restRange := inI128_tdiv (within pos.le fits) first
  have rightRange := inI128_tdiv (within rightNonneg rightFits) second
  have divisorRange := inI128_tdiv restRange second
  have nonneg := mul_nonneg (Int.tdiv_nonneg leftNonneg first.le)
    (Int.tdiv_nonneg rightNonneg second.le)
  have bound := (mul_le_mul (Int.tdiv_le_self (gcd left denominator) leftNonneg)
    (Int.tdiv_le_self _ rightNonneg) (Int.tdiv_nonneg rightNonneg second.le)
    leftNonneg).trans product
  have range := within nonneg bound
  simp only [mulDivFloor, mulDivCeil, call_ok, arith_ok]
  refine ⟨⟨_, valid, first.ne', leftRange, first.ne', restRange, second.ne', rightRange,
    second.ne', divisorRange, range, last.ne', inI128_tdiv range last, rfl⟩, ?_⟩
  obtain ⟨result, rounded⟩ := roundUp_succeeds nonneg bound last
  exact ⟨result, valid, first.ne', leftRange, first.ne', restRange, second.ne', rightRange, range,
    second.ne',
    divisorRange, last.ne', inI128_tdiv range last, rounded⟩

/-- A scaled product is the quotient rounded down, or up, and only a product beyond the
range is an overflow. Any number of rounds from a bound on reaches the common divisor. -/
theorem mulDiv_exact (leftNonneg : 0 ≤ left) (rightNonneg : 0 ≤ right) (pos : 0 < denominator)
    (leftFits : left ≤ i128Max) (rightFits : right ≤ i128Max) (fits : denominator ≤ i128Max) :
    (∀ result, mulDivFloor left right denominator = .ok result →
      result = ⌊(left * right / denominator : ℚ)⌋) ∧
    (∀ result, mulDivCeil left right denominator = .ok result →
      result = ⌈(left * right / denominator : ℚ)⌉) ∧
    (mulDivFloor left right denominator = .error (.error .arithmeticOverflow) ∨
      mulDivCeil left right denominator = .error (.error .arithmeticOverflow) →
      i128Max < left * right) ∧
    (∀ fuel, right.natAbs ≤ fuel → gcdLoop fuel left right = Int.gcd left right) ∧
    0 < gcd left denominator ∧
    0 < gcd right (denominator.tdiv (gcd left denominator)) ∧
    0 < (denominator.tdiv (gcd left denominator)).tdiv
      (gcd right (denominator.tdiv (gcd left denominator))) := by
  have remaining := rest_pos leftNonneg pos
  refine ⟨fun result divided => ?_, fun result divided => ?_, fun overflowed => ?_,
    fun fuel enough => ?_, gcd_pos leftNonneg pos, gcd_pos rightNonneg remaining,
    rest_pos rightNonneg remaining⟩
  · obtain ⟨-, -, -, rfl⟩ := mulDivFloor_eq divided
    obtain ⟨_, rfl⟩ := Int.eq_ofNat_of_zero_le pos.le
    rw [← Int.cast_mul, Int.cast_natCast, Rat.floor_intCast_div_natCast]
  · obtain ⟨-, -, -, above, below⟩ := mulDivCeil_spec divided
    symm
    rw [Int.ceil_eq_iff, lt_div_iff₀ (Int.cast_pos.mpr pos), div_le_iff₀ (Int.cast_pos.mpr pos)]
    constructor <;> norm_cast
    linarith
  · by_contra within
    obtain ⟨⟨_, floored⟩, _, ceiled⟩ := mulDiv_succeeds leftNonneg rightNonneg pos leftFits
      rightFits fits (not_lt.mp within)
    rw [floored, ceiled] at overflowed
    simp at overflowed
  · rw [gcdLoop_eq_rounds, Euclid.rounds_eq_gcd leftNonneg rightNonneg enough]

theorem mulDiv_exact_sixth :
    mulDivCeil 10 7 6 = .ok 12 ∧ (12 : Int) = ⌈((10 : Int) * (7 : Int) / (6 : Int) : ℚ)⌉ :=
  ⟨by decide, (mulDiv_exact (by decide) (by decide) (by decide) (by decide) (by decide)
    (by decide)).2.1 12 (by decide)⟩

def validateOutcome (conditional : ConditionalMarket Address) (outcome : Nat) :
    Outcome Error Unit :=
  ensure (¬ conditional.outcomes.length ≤ outcome) .invalidOutcome

/-- One round of a buy quote, for a reserve and its index. -/
def shrinkSelected (outcome : Nat) (collateralAmount endingSelected : Int) (entry : Int × Nat) :
    Outcome Error Int :=
  if entry.2 = outcome then .ok endingSelected
  else do
    let deepened ← checkedAdd (.error .arithmeticOverflow) entry.1 collateralAmount
    mulDivCeil endingSelected entry.1 deepened

def quoteBuyShares (conditional : ConditionalMarket Address) (outcome : Nat)
    (collateralAmount : Int) : Outcome Error Int := do
  validateOutcome conditional outcome
  ensure (0 < collateralAmount) .invalidAmount
  let selectedReserve ← orError conditional.poolBalances[outcome]? .insufficientLiquidity
  ensure (0 < selectedReserve) .insufficientLiquidity
  let endingSelected ←
    conditional.poolBalances.zipIdx.foldlM (shrinkSelected outcome collateralAmount) selectedReserve
  let deepened ← checkedAdd (.error .arithmeticOverflow) selectedReserve collateralAmount
  let shares ← checkedSub (.error .arithmeticOverflow) deepened endingSelected
  ensure (0 < shares) .insufficientLiquidity
  return shares

/-- A reserve once the sold shares are in the pool. -/
def reserveAfterSale (outcome : Nat) (shares : Int) (entry : Int × Nat) : Outcome Error Int :=
  if entry.2 = outcome then checkedAdd (.error .arithmeticOverflow) entry.1 shares
  else .ok entry.1

def ratioScale : Int := 1000000000

/-- Whether the ratios of the remaining to the original reserves, multiplied up
from `ratio` and rounded down one by one, keep the product. -/
def sellRatioHolds (outcome : Nat) (shares collateral : Int) :
    Int → List (Int × Nat) → Outcome Error Bool
  | ratio, [] => .ok (decide (ratioScale ≤ ratio))
  | ratio, entry :: entries => do
      ensure (0 < entry.1) .insufficientLiquidity
      let afterSale ← reserveAfterSale outcome shares entry
      let remaining ← checkedSub (.error .arithmeticOverflow) afterSale collateral
      if remaining ≤ 0 then return false
      else do
        let scaled ← mulDivFloor ratio remaining entry.1
        sellRatioHolds outcome shares collateral scaled entries

def sellInvariantHolds (conditional : ConditionalMarket Address) (outcome : Nat)
    (shares collateral : Int) : Outcome Error Bool :=
  sellRatioHolds outcome shares collateral ratioScale conditional.poolBalances.zipIdx

/-- One round of the bound on a payout, for a reserve and its index. -/
def lowerExtractable (outcome : Nat) (shares maxExtractable : Int) (entry : Int × Nat) :
    Outcome Error Int := do
  let afterSale ← reserveAfterSale outcome shares entry
  ensure (1 < afterSale) .insufficientLiquidity
  let candidate ← checkedSub (.error .arithmeticOverflow) afterSale 1
  return min candidate maxExtractable

/-- The bisection for the best accepted payout, in as many rounds as there are
payouts between the bounds. -/
def searchPayout (accepts : Int → Outcome Error Bool) : Nat → Int → Int → Int → Outcome Error Int
  | 0, _, _, best => .ok best
  | fuel + 1, low, high, best =>
      if low ≤ high then do
        let width ← checkedSub .trap high low
        let middle ← checkedAdd .trap low (width.tdiv 2)
        let accepted ← accepts middle
        if accepted then do
          let above ← checkedAdd .trap middle 1
          searchPayout accepts fuel above high middle
        else do
          let below ← checkedSub .trap middle 1
          searchPayout accepts fuel low below best
      else .ok best

/-- Largest collateral payout that preserves the fixed-product invariant after
`shares` of `outcome` are sold into the pool. -/
def quoteSellShares (conditional : ConditionalMarket Address) (outcome : Nat) (shares : Int) :
    Outcome Error Int := do
  validateOutcome conditional outcome
  ensure (0 < shares) .invalidAmount
  let maxExtractable ←
    conditional.poolBalances.zipIdx.foldlM (lowerExtractable outcome shares) i128Max
  ensure (0 < maxExtractable) .insufficientLiquidity
  let best ← searchPayout (sellInvariantHolds conditional outcome shares) maxExtractable.toNat 1
    maxExtractable 0
  ensure (0 < best) .insufficientLiquidity
  return best

variable {conditional : ConditionalMarket Address} {outcome : Nat}
  {shares collateralAmount collateral : Int} {accepts : Int → Outcome Error Bool} {fuel : Nat}
  {low high best : Int}

theorem searchPayout_fuel (enough : high + 1 - low ≤ fuel) :
    searchPayout accepts (fuel + 1) low high best = searchPayout accepts fuel low high best := by
  induction fuel generalizing low high best with
  | zero =>
    exact if_neg (by omega)
  | succ _ ih =>
    rw [searchPayout, searchPayout]
    by_cases inside : low ≤ high
    · rw [if_pos inside, if_pos inside]
      apply bind_congr_ok
      intro width narrowed
      apply bind_congr_ok
      intro middle halved
      apply bind_congr_ok
      intro accepted tested
      obtain ⟨-, rfl⟩ := checkedSub_eq_ok.mp narrowed
      obtain ⟨-, rfl⟩ := checkedAdd_eq_ok.mp halved
      have half := Int.tdiv_eq_ediv_of_nonneg (b := 2) (by omega : 0 ≤ high - low)
      cases accepted with
      | true =>
        apply bind_congr_ok
        intro above raised
        obtain ⟨-, rfl⟩ := checkedAdd_eq_ok.mp raised
        exact ih (by omega)
      | false =>
        apply bind_congr_ok
        intro below lowered
        obtain ⟨-, rfl⟩ := checkedSub_eq_ok.mp lowered
        exact ih (by omega)
    · rw [if_neg inside, if_neg inside]

theorem searchPayout_accepted {found : Int}
    (searched : searchPayout accepts fuel low high best = .ok found) :
    found = best ∨ accepts found = .ok true := by
  induction fuel generalizing low high best with
  | zero => exact .inl (Except.ok.inj searched).symm
  | succ _ ih =>
    unfold searchPayout at searched
    split_ifs at searched with inside
    · simp only [bind_eq_ok, arith_ok] at searched
      obtain ⟨-, -, accepted, tested, searched⟩ := searched
      cases accepted with
      | true =>
        simp only [↓reduceIte, bind_eq_ok] at searched
        obtain ⟨_, -, searched⟩ := searched
        rcases ih searched with rfl | accepted
        · exact .inr tested
        · exact .inr accepted
      | false =>
        simp only [Bool.false_eq_true, ↓reduceIte, bind_eq_ok] at searched
        obtain ⟨_, -, searched⟩ := searched
        exact ih searched
    · exact .inl (Except.ok.inj searched).symm

/-- What a sale leaves of a reserve. -/
def remainingReserve (outcome : Nat) (shares collateral : Int) (entry : Int × Nat) : Int :=
  (if entry.2 = outcome then entry.1 + shares else entry.1) - collateral

theorem reserveAfterSale_eq {entry : Int × Nat} {afterSale : Int}
    (eq : reserveAfterSale outcome shares entry = .ok afterSale) :
    afterSale - collateral = remainingReserve outcome shares collateral entry := by
  unfold reserveAfterSale at eq
  unfold remainingReserve
  split_ifs at eq with selected
  · rw [if_pos selected, (checkedAdd_eq_ok.mp eq).2]
  · rw [if_neg selected, Except.ok.inj eq]

variable {entries : List (Int × Nat)}

theorem sellRatioHolds_keeps {ratio : Int} (nonneg : 0 ≤ ratio)
    (holds : sellRatioHolds outcome shares collateral ratio entries = .ok true) :
    (∀ entry ∈ entries, 0 < entry.1 ∧ 0 < remainingReserve outcome shares collateral entry) ∧
      ratioScale * (entries.map Prod.fst).prod ≤
        ratio * (entries.map (remainingReserve outcome shares collateral)).prod := by
  induction entries generalizing ratio with
  | nil =>
    refine ⟨fun entry mem => absurd mem not_mem_nil, ?_⟩
    have kept := of_decide_eq_true (Except.ok.inj holds)
    rwa [map_nil, map_nil, prod_nil, mul_one, mul_one]
  | cons entry entries ih =>
    simp only [sellRatioHolds, call_ok, arith_ok] at holds
    obtain ⟨pos, _, sold, -, holds⟩ := holds
    rw [reserveAfterSale_eq sold] at holds
    split_ifs at holds with exhausted
    · cases holds
    · obtain ⟨_, divided, holds⟩ := bind_eq_ok.mp holds
      obtain ⟨-, -, -, rfl⟩ := mulDivFloor_eq divided
      have left := not_le.mp exhausted
      have scaledNonneg : 0 ≤ ratio * remainingReserve outcome shares collateral entry / entry.1 :=
        Int.ediv_nonneg (mul_nonneg nonneg left.le) pos.le
      obtain ⟨later, bound⟩ := ih scaledNonneg holds
      refine ⟨forall_mem_cons.mpr ⟨⟨pos, left⟩, later⟩, ?_⟩
      have rounded := Int.ediv_mul_le
        (ratio * remainingReserve outcome shares collateral entry) pos.ne'
      have rest : 0 ≤ (entries.map (remainingReserve outcome shares collateral)).prod := by
        apply prod_nonneg
        intro value mem
        obtain ⟨other, here, rfl⟩ := mem_map.mp mem
        exact (later other here).2.le
      rw [map_cons, map_cons, prod_cons, prod_cons]
      generalize (entries.map Prod.fst).prod = originals at *
      generalize (entries.map (remainingReserve outcome shares collateral)).prod = remainders at *
      generalize remainingReserve outcome shares collateral entry = remaining at *
      calc ratioScale * (entry.1 * originals)
          = ratioScale * originals * entry.1 := by ring
        _ ≤ ratio * remaining / entry.1 * remainders * entry.1 :=
            mul_le_mul_of_nonneg_right bound pos.le
        _ = ratio * remaining / entry.1 * entry.1 * remainders := by ring
        _ ≤ ratio * remaining * remainders := mul_le_mul_of_nonneg_right rounded rest
        _ = ratio * (remaining * remainders) := by ring

theorem map_zipIdx_eq_set {α β : Type} (items : List α) (compute : α → β) (index : Nat)
    (value : β) :
    items.zipIdx.map (fun entry => if entry.2 = index then value else compute entry.1) =
      (items.map compute).set index value := by
  apply ext_getElem (by simp)
  simp [getElem_set, eq_comm]

/-- Reserves that each change by an amount of their index. -/
def shiftReserves (change : Nat → Int) (reserves : List Int) : List Int :=
  reserves.mapIdx fun index reserve => reserve + change index

/-- What a trade of collateral for shares of an outcome adds to the reserves; a sale
is a trade of negative amounts. -/
def tradeChange (outcome : Nat) (collateral shares : Int) (index : Nat) : Int :=
  collateral - if index = outcome then shares else 0

theorem getElem?_shiftReserves {change : Nat → Int} {reserves : List Int} {index : Nat}
    {reserve : Int} (got : (shiftReserves change reserves)[index]? = some reserve) :
    ∃ earlier, reserves[index]? = some earlier ∧ reserve = earlier + change index := by
  rw [shiftReserves, List.getElem?_mapIdx, Option.map_eq_some_iff] at got
  obtain ⟨earlier, found, rfl⟩ := got
  exact ⟨earlier, found, rfl⟩

theorem map_remainingReserve (reserves : List Int) :
    reserves.zipIdx.map (remainingReserve outcome shares collateral) =
      shiftReserves (tradeChange outcome (-collateral) (-shares)) reserves := by
  rw [shiftReserves, mapIdx_eq_zipIdx_map]
  refine map_congr_left fun ⟨reserve, index⟩ _ => ?_
  dsimp only [remainingReserve, tradeChange]
  split_ifs <;> omega

theorem quoteSellShares_keeps
    (quoted : quoteSellShares conditional outcome shares = .ok collateral) :
    0 < collateral ∧ 0 < shares ∧ outcome < conditional.outcomes.length ∧
      (∀ reserve ∈ shiftReserves (tradeChange outcome (-collateral) (-shares))
        conditional.poolBalances, 0 < reserve) ∧
      conditional.poolBalances.prod ≤ (shiftReserves (tradeChange outcome (-collateral) (-shares))
        conditional.poolBalances).prod := by
  simp only [quoteSellShares, validateOutcome, call_ok] at quoted
  obtain ⟨valid, pos, _, -, -, best, searched, paid, rfl⟩ := quoted
  have accepted : sellInvariantHolds conditional outcome shares best = .ok true := by
    rcases searchPayout_accepted searched with rfl | accepted
    · exact absurd paid (lt_irrefl 0)
    · exact accepted
  have scale : (0 : Int) < ratioScale := by decide
  obtain ⟨kept, raised⟩ := sellRatioHolds_keeps scale.le accepted
  rw [zipIdx_map_fst, map_remainingReserve] at raised
  refine ⟨paid, pos, not_le.mp valid, ?_, le_of_mul_le_mul_left raised scale⟩
  rw [← map_remainingReserve]
  exact forall_mem_map.mpr fun entry mem => (kept entry mem).2

theorem shrinkSelected_keeps {selected ending : Int}
    (nonneg : ∀ entry ∈ entries, 0 ≤ entry.1) (selectedNonneg : 0 ≤ selected)
    (shrunk : entries.foldlM (shrinkSelected outcome collateralAmount) selected = .ok ending) :
    0 ≤ ending ∧
      selected * (entries.map fun entry => if entry.2 = outcome then 1 else entry.1).prod ≤
      ending * (entries.map fun entry =>
        if entry.2 = outcome then 1 else entry.1 + collateralAmount).prod := by
  induction entries generalizing selected with
  | nil =>
    cases shrunk
    exact ⟨selectedNonneg, le_rfl⟩
  | cons entry entries ih =>
    obtain ⟨next, round, shrunk⟩ := bind_eq_ok.mp shrunk
    obtain ⟨head, tail⟩ := forall_mem_cons.mp nonneg
    rw [map_cons, map_cons, prod_cons, prod_cons]
    unfold shrinkSelected at round
    split_ifs at round with chosen
    · cases round
      rw [if_pos chosen, if_pos chosen, one_mul, one_mul]
      exact ih tail selectedNonneg shrunk
    · simp only [bind_eq_ok, arith_ok] at round
      obtain ⟨-, divided⟩ := round
      obtain ⟨-, -, pos, above, -⟩ := mulDivCeil_spec divided
      have nextNonneg : 0 ≤ next :=
        nonneg_of_mul_nonneg_left ((mul_nonneg selectedNonneg head).trans above) pos
      obtain ⟨endingNonneg, later⟩ := ih tail nextNonneg shrunk
      have rest : 0 ≤ (entries.map fun other => if other.2 = outcome then 1 else other.1).prod := by
        refine prod_nonneg (forall_mem_map.mpr fun other mem => ?_)
        split_ifs
        · exact zero_le_one
        · exact tail other mem
      refine ⟨endingNonneg, ?_⟩
      rw [if_neg chosen, if_neg chosen]
      generalize (entries.map fun other => if other.2 = outcome then 1 else other.1).prod =
        before at *
      generalize (entries.map fun other =>
        if other.2 = outcome then 1 else other.1 + collateralAmount).prod = after at *
      calc selected * (entry.1 * before) = selected * entry.1 * before := by ring
        _ ≤ next * (entry.1 + collateralAmount) * before := mul_le_mul_of_nonneg_right above rest
        _ = next * before * (entry.1 + collateralAmount) := by ring
        _ ≤ ending * after * (entry.1 + collateralAmount) :=
            mul_le_mul_of_nonneg_right later pos.le
        _ = ending * ((entry.1 + collateralAmount) * after) := by ring

theorem shiftReserves_trade {reserves : List Int} {selected : Int}
    (got : reserves[outcome]? = some selected) :
    shiftReserves (tradeChange outcome collateral shares) reserves =
      (reserves.map (· + collateral)).set outcome (selected + collateral - shares) := by
  apply ext_getElem (by simp [shiftReserves])
  intro index inside _
  obtain ⟨_, rfl⟩ := List.getElem?_eq_some_iff.mp got
  simp only [shiftReserves, tradeChange, getElem_mapIdx, getElem_set, getElem_map]
  by_cases chosen : index = outcome
  · subst chosen
    omega
  · omega

theorem quoteBuyShares_keeps (nonneg : ∀ reserve ∈ conditional.poolBalances, 0 ≤ reserve)
    (quoted : quoteBuyShares conditional outcome collateralAmount = .ok shares) :
    0 < collateralAmount ∧ 0 < shares ∧ outcome < conditional.outcomes.length ∧
      (∀ reserve ∈ shiftReserves (tradeChange outcome collateralAmount shares)
        conditional.poolBalances, 0 ≤ reserve) ∧
      conditional.poolBalances.prod ≤
        (shiftReserves (tradeChange outcome collateralAmount shares)
          conditional.poolBalances).prod := by
  simp only [quoteBuyShares, validateOutcome, call_ok, arith_ok] at quoted
  obtain ⟨valid, deposit, _, got, pos, _, shrunk, -, -,
    bought, rfl⟩ := quoted
  have entries : ∀ entry ∈ conditional.poolBalances.zipIdx, 0 ≤ entry.1 :=
    fun entry mem => nonneg entry.1 (fst_mem_of_mem_zipIdx mem)
  obtain ⟨endingNonneg, raised⟩ := shrinkSelected_keeps entries pos.le shrunk
  obtain ⟨inside, rfl⟩ := List.getElem?_eq_some_iff.mp got
  have same := map_zipIdx_eq_set conditional.poolBalances id outcome 1
  simp only [id_eq, map_id_fun] at same
  rw [same, map_zipIdx_eq_set conditional.poolBalances (· + collateralAmount)] at raised
  rw [shiftReserves_trade got]
  rw [sub_sub_self]
  refine ⟨deposit, bought, not_le.mp valid, fun reserve mem => ?_, ?_⟩
  · rcases mem_or_eq_of_mem_set mem with other | rfl
    · obtain ⟨earlier, here, rfl⟩ := mem_map.mp other
      exact add_nonneg (nonneg earlier here) deposit.le
    · exact endingNonneg
  · rw [SharePool.prod_set_eq (by rwa [length_map])]
    conv_lhs => rw [← set_getElem_self inside]
    rw [SharePool.prod_set_eq inside]
    exact raised

end SorobanPlayground.PredictionMarket
