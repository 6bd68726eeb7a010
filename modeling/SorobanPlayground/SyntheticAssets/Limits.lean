import Mathlib.Tactic.Ring
import SorobanPlayground.SyntheticAssets.Contract

/-! # Minting limits

The collateral that a mint needs is rounded up, the amount that collateral allows to mint is
rounded down, and the ratio of a position is taken over a debt that is rounded down. The three
agree on which mints the minimum ratio allows.
-/

namespace SorobanPlayground.SyntheticAssets

variable {Address : Type} {contract : Address}

/-- The largest amount that collateral allows to mint, rounded down. -/
def calculateMaxMintAmount (state : State Address) (collateralAmount price : Int) :
    Outcome Error Int := do
  ensure (price ≠ 0) .invalidPrice
  let minRatio ← state.getMinCollateralRatio
  let raised ← checkedMul (.error .overflow) collateralAmount priceScale
  let scaled ← checkedMul (.error .overflow) raised 10000
  let unit ← checkedMul (.error .overflow) price minRatio
  checkedDiv (.error .divisionByZero) scaled unit

def getMaxMintable (env : Env Address contract) (state : State Address) (assetSymbol : Symbol)
    (collateralAmount : Int) : Outcome Error Int := do
  ensure (state.hasSyntheticAsset assetSymbol = true) .assetNotRegistered
  let price ← getPriceInternal env state assetSymbol
  calculateMaxMintAmount state collateralAmount price

variable {env : Env Address contract}

theorem getPriceInternal_pos {state : State Address} {symbol : Symbol}
    {price : Int} (read : getPriceInternal env state symbol = .ok price) : 0 < price := by
  simp only [getPriceInternal, call_ok] at read
  obtain ⟨_, -, _, -, -, -, pos, -, rfl⟩ := read
  exact pos

variable {state : State Address} {collateral minted price required limit ratio : Int}
  {minRatio : Nat}

theorem priceScale_pos : 0 < priceScale := by decide

theorem calculateRequiredCollateral_le_iff
    (eq : calculateRequiredCollateral minted price minRatio = .ok required) :
    required ≤ collateral ↔ minted * price * minRatio ≤ collateral * (priceScale * 10000) := by
  simp only [calculateRequiredCollateral, call_ok, arith_ok] at eq
  obtain ⟨_, -, -, -, -, -, -, -, rfl⟩ :=
    eq
  have scale : (0 : Int) < priceScale * 10000 := by decide
  have debt : 0 ≤ minted * price := mul_nonneg (by omega) (by omega)
  have product : 0 ≤ minted * price * minRatio := mul_nonneg debt (Int.natCast_nonneg _)
  rw [Int.tdiv_eq_ediv_of_nonneg (by omega), ← Int.lt_add_one_iff, Int.ediv_lt_iff_lt_mul scale,
    add_mul, one_mul]
  omega

theorem le_calculateMaxMintAmount_iff (setUp : state.minCollateralRatio = some minRatio)
    (rated : 0 < minRatio) (priced : 0 < price) (nonneg : 0 ≤ collateral)
    (eq : calculateMaxMintAmount state collateral price = .ok limit) :
    minted ≤ limit ↔ minted * price * minRatio ≤ collateral * (priceScale * 10000) := by
  simp only [calculateMaxMintAmount, State.getMinCollateralRatio, setUp, call_ok,
    Option.some.injEq, exists_eq_left', arith_ok] at eq
  obtain ⟨-, -, -, -, -, -, rfl⟩ := eq
  have unit : 0 < price * (minRatio : Int) := mul_pos priced (by omega)
  have scaled : 0 ≤ collateral * priceScale * 10000 :=
    mul_nonneg (mul_nonneg nonneg priceScale_pos.le) (by decide)
  rw [Int.tdiv_eq_ediv_of_nonneg scaled, Int.le_ediv_iff_mul_le unit, mul_assoc minted, mul_assoc
    collateral]

/-- The value of a debt, in whole units of the collateral. -/
def debtValue (minted price : Int) : Int := minted * price / priceScale

theorem calculateCollateralRatio_eq (nonneg : 0 ≤ collateral) (pos : 0 < minted)
    (priced : 0 < price) (eq : calculateCollateralRatio collateral minted price = .ok ratio) :
    ratio = if debtValue minted price = 0 then maxCollateralRatio
      else min (collateral * 10000 / debtValue minted price) maxCollateralRatio := by
  have debt : (minted * price).tdiv priceScale = debtValue minted price :=
    Int.tdiv_eq_ediv_of_nonneg (mul_pos pos priced).le
  simp only [calculateCollateralRatio, call_ok, arith_ok] at eq
  obtain ⟨-, -, -, -, eq⟩ := eq
  rw [debt] at eq
  split at eq
  · next small =>
    rw [if_pos small]
    exact (pure_eq_ok.mp eq).symm
  · next large =>
    simp only [call_ok, arith_ok] at eq
    obtain ⟨-, -, -, rfl⟩ := eq
    rw [if_neg large, Int.tdiv_eq_ediv_of_nonneg (mul_nonneg nonneg (by decide))]

theorem debtValue_nonneg (pos : 0 < minted) (priced : 0 < price) : 0 ≤ debtValue minted price :=
  Int.ediv_nonneg (mul_pos pos priced).le priceScale_pos.le

theorem le_calculateCollateralRatio_iff {bound : Int} (nonneg : 0 ≤ collateral)
    (pos : 0 < minted) (priced : 0 < price) (capped : bound ≤ maxCollateralRatio)
    (eq : calculateCollateralRatio collateral minted price = .ok ratio) :
    bound ≤ ratio ↔ bound * debtValue minted price ≤ collateral * 10000 := by
  have debt := debtValue_nonneg pos priced
  rw [calculateCollateralRatio_eq nonneg pos priced eq]
  split
  · next small =>
    rw [small, mul_zero]
    exact iff_of_true capped (mul_nonneg nonneg (by decide))
  · next large =>
    rw [le_min_iff, and_iff_left capped, Int.le_ediv_iff_mul_le (lt_of_le_of_ne debt (Ne.symm
      large))]

theorem debtValue_covered (rated : 0 ≤ (minRatio : Int))
    (covered : minted * price * minRatio ≤ collateral * (priceScale * 10000)) :
    minRatio * debtValue minted price ≤ collateral * 10000 := by
  have rounded : debtValue minted price * priceScale ≤ minted * price :=
    Int.ediv_mul_le _ priceScale_pos.ne'
  have weighed := mul_le_mul_of_nonneg_left rounded rated
  apply le_of_mul_le_mul_right _ priceScale_pos
  linarith [mul_comm (minted * price) (minRatio : Int),
    mul_assoc (minRatio : Int) (debtValue minted price) priceScale,
    mul_right_comm collateral 10000 priceScale, mul_assoc collateral priceScale 10000]

/-- Where nothing overflows, collateral covers the requirement of a mint exactly when the mint is
within what the collateral allows, and a covered position has at least the minimum ratio: no
threshold below it makes the position liquidatable. -/
theorem minting_limits_adjoint {state : State Address} {price collateral minted required : Int}
    {minRatio : Nat} (configured : state.minCollateralRatio = some minRatio)
    (least : 10000 ≤ minRatio) (most : minRatio ≤ 50000) (priced : 0 < price)
    (nonneg : 0 ≤ collateral) (positive : 0 < minted)
    (computed : calculateRequiredCollateral minted price minRatio = .ok required) :
    (∀ limit, calculateMaxMintAmount state collateral price = .ok limit →
      (required ≤ collateral ↔ minted ≤ limit)) ∧
    (required ≤ collateral →
      (∀ ratio, calculateCollateralRatio collateral minted price = .ok ratio →
        (minRatio : Int) ≤ ratio) ∧
      ∀ (held : State Address) (position : CollateralPosition Address) (threshold : Nat),
        held.liquidationThreshold = some threshold → threshold < minRatio →
        position.collateralAmount = collateral → position.mintedAmount = minted →
        isAboveLiquidationThreshold held position price ≠ .ok true) := by
  have covers : required ≤ collateral ↔
      minted * price * minRatio ≤ collateral * (priceScale * 10000) :=
    calculateRequiredCollateral_le_iff computed
  refine ⟨fun limit limited => ?_, fun covered => ?_⟩
  · have allows : minted ≤ limit ↔
        minted * price * minRatio ≤ collateral * (priceScale * 10000) :=
      le_calculateMaxMintAmount_iff configured (by omega) priced nonneg limited
    exact covers.trans allows.symm
  · have safe : ∀ ratio, calculateCollateralRatio collateral minted price = .ok ratio →
        (minRatio : Int) ≤ ratio := by
      intro ratio rated
      have capped : (minRatio : Int) ≤ maxCollateralRatio := by
        unfold maxCollateralRatio
        omega
      rw [le_calculateCollateralRatio_iff nonneg positive priced capped rated]
      exact debtValue_covered (Int.natCast_nonneg _) (covers.mp covered)
    refine ⟨safe, ?_⟩
    intro held position threshold got below amount debt liquidated
    simp only [isAboveLiquidationThreshold, State.getLiquidationThreshold, got, call_ok,
      Option.some.injEq, exists_eq_left', amount, debt, decide_eq_true_eq] at liquidated
    obtain ⟨ratio, rated, _⟩ := liquidated
    have above := safe ratio rated
    omega

/-- A ratio of one and a half over storage that holds nothing else. -/
def ratedState : State Nat := { ledger := fun _ _ => 0, minCollateralRatio := some 15000 }

/-- A million units at a price of one need one and a half million of collateral. -/
theorem minting_limits_adjoint_at_one :
    (∀ limit, calculateMaxMintAmount ratedState 1500000 100000000 = .ok limit →
      ((1500000 : Int) ≤ 1500000 ↔ 1000000 ≤ limit)) ∧
    ((1500000 : Int) ≤ 1500000 →
      (∀ ratio, calculateCollateralRatio 1500000 1000000 100000000 = .ok ratio →
        ((15000 : Nat) : Int) ≤ ratio) ∧
      ∀ (held : State Nat) (position : CollateralPosition Nat) (threshold : Nat),
        held.liquidationThreshold = some threshold → threshold < 15000 →
        position.collateralAmount = 1500000 → position.mintedAmount = 1000000 →
        isAboveLiquidationThreshold held position 100000000 ≠ .ok true) := by
  have configured : ratedState.minCollateralRatio = some 15000 := rfl
  exact minting_limits_adjoint configured (by decide) (by decide) (by decide) (by decide)
    (by decide) (by decide)

variable [DecidableEq Address] {tokens : TokenHost Address}

theorem mintSynthetic_within_limit {user : Address} {assetSymbol : Symbol}
    {collateralAmount mintAmount limit : Int} {minRatio : Nat} {state next : State Address}
    (setUp : state.minCollateralRatio = some minRatio) (rated : 0 < minRatio)
    (ran : mintSynthetic tokens env user assetSymbol collateralAmount mintAmount state = .ok next)
    (viewed : getMaxMintable env state assetSymbol collateralAmount = .ok limit) :
    mintAmount ≤ limit := by
  simp only [mintSynthetic, State.getMinCollateralRatio, setUp, call_ok, Option.some.injEq,
    exists_eq_left'] at ran
  obtain ⟨-, -, _, _, read, _, eq, covered, -⟩ := ran
  simp only [getMaxMintable, bind_eq_ok, read, Except.ok.injEq, exists_eq_left'] at viewed
  obtain ⟨-, -, limited⟩ := viewed
  rw [le_calculateMaxMintAmount_iff setUp rated (getPriceInternal_pos read) (by omega) limited]
  exact (calculateRequiredCollateral_le_iff eq).mp covered

end SorobanPlayground.SyntheticAssets
