import Mathlib.Tactic.Linarith
import Mathlib.Tactic.LinearCombination
import Mathlib.Tactic.Ring

/-! # Redeemable claims

A pool holds a stake against claims that are minted and redeemed at a published
rate, in units of a scale, rounded down each way. The pool is covered while the
claims are worth no more than the stake. What minting and redeeming round away
stays in the pool (`RedeemableClaims.Pool.shortfall_mint`,
`RedeemableClaims.Pool.shortfall_redeem`), so that only a higher rate can uncover
it. What is minted and redeemed at no lower a rate loses less than one claim and
one unit (`RedeemableClaims.round_trip`).
-/

namespace RedeemableClaims

/-- A pool with its published rate. -/
structure Pool where
  stake : Int
  claims : Int
  rate : Int

def minted (scale rate amount : Int) : Int := amount * scale / rate

def worth (scale rate count : Int) : Int := count * rate / scale

namespace Pool

variable (scale : Int) (pool : Pool)

/-- The claims are worth no more than the stake. -/
def Covered : Prop := worth scale pool.rate pool.claims ≤ pool.stake

/-- What the claims are worth beyond the stake, in parts of a unit. -/
def shortfall : Int := pool.claims * pool.rate - pool.stake * scale

def mint (amount : Int) : Pool :=
  { pool with
    stake := pool.stake + amount
    claims := pool.claims + minted scale pool.rate amount }

def redeem (count : Int) : Pool :=
  { pool with
    stake := pool.stake - worth scale pool.rate count
    claims := pool.claims - count }

variable {scale pool} (positive : 0 < scale)

include positive

/-- Being covered is to be short of less than one unit. -/
theorem covered_iff : pool.Covered scale ↔ pool.shortfall scale < scale := by
  unfold Covered worth shortfall
  rw [← Int.lt_add_one_iff, Int.ediv_lt_iff_lt_mul positive, add_mul, one_mul, sub_lt_iff_lt_add']

omit positive in
/-- What minting rounds away stays in the pool. -/
theorem shortfall_mint (amount : Int) :
    (pool.mint scale amount).shortfall scale =
      pool.shortfall scale - amount * scale % pool.rate := by
  have division := Int.mul_ediv_add_emod (amount * scale) pool.rate
  unfold shortfall mint minted
  linear_combination division

omit positive in
/-- What redeeming rounds away stays in the pool. -/
theorem shortfall_redeem (count : Int) :
    (pool.redeem scale count).shortfall scale =
      pool.shortfall scale - count * pool.rate % scale := by
  have division := Int.mul_ediv_add_emod (count * pool.rate) scale
  unfold shortfall redeem worth
  linear_combination division

omit positive in
/-- A covered pool has a stake that is not negative. -/
theorem stake_nonneg (scaleNonneg : 0 ≤ scale) (claimsNonneg : 0 ≤ pool.claims)
    (rateNonneg : 0 ≤ pool.rate) (covered : pool.Covered scale) : 0 ≤ pool.stake :=
  (Int.ediv_nonneg (mul_nonneg claimsNonneg rateNonneg) scaleNonneg).trans covered

theorem covered_of_rate_le (claimsPositive : 0 < pool.claims)
    (afforded : pool.rate ≤ pool.stake * scale / pool.claims) : pool.Covered scale := by
  rw [Int.le_ediv_iff_mul_le claimsPositive] at afforded
  rw [covered_iff positive]
  unfold shortfall
  linarith [mul_comm pool.rate pool.claims]

/-- At a rate of at least one, a covered pool has a unit for each claim. -/
theorem claims_le_stake (claimsNonneg : 0 ≤ pool.claims) (atLeastOne : scale ≤ pool.rate)
    (covered : pool.Covered scale) : pool.claims ≤ pool.stake := by
  rw [covered_iff positive] at covered
  unfold shortfall at covered
  have floor := mul_le_mul_of_nonneg_left atLeastOne claimsNonneg
  have scaled : pool.claims * scale < (pool.stake + 1) * scale := by
    linarith
  exact Int.lt_add_one_iff.mp (lt_of_mul_lt_mul_right scaled positive.le)

end Pool

/-- Redeeming what was minted at no lower a rate loses less than one unit and the price of one
claim. -/
theorem round_trip {scale rate later amount : Int} (positive : 0 < scale)
    (ratePositive : 0 < rate) (risen : rate ≤ later) (amountNonneg : 0 ≤ amount) :
    amount * scale < (worth scale later (minted scale rate amount) + 1) * scale + rate := by
  have count : 0 ≤ minted scale rate amount :=
    Int.ediv_nonneg (mul_nonneg amountNonneg positive.le) ratePositive.le
  have mintedAbove := Int.lt_ediv_add_one_mul_self (amount * scale) ratePositive
  have paidAbove := Int.lt_ediv_add_one_mul_self (minted scale rate amount * later) positive
  change amount * scale < (minted scale rate amount + 1) * rate at mintedAbove
  change _ < (worth scale later (minted scale rate amount) + 1) * scale at paidAbove
  have better := mul_le_mul_of_nonneg_left risen count
  linarith [add_mul (minted scale rate amount) 1 rate]

end RedeemableClaims
