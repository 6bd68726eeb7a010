import SorobanPlayground.Library.Rounding
import SorobanPlayground.SyntheticAssets.Limits
import SorobanPlayground.SyntheticAssets.Supply

/-! # Views and enforcement

The health factor rescales the ratio that liquidation compares with the threshold, and the
liquidation price of a trade takes the margin as whole basis points of the notional. Both round
once more than the calls they describe.
-/

namespace SorobanPlayground.SyntheticAssets

open State

variable {Address : Type} {contract : Address}

/-- The ratio over the threshold, in basis points. -/
def calculateHealthFactor (collateralAmount mintedAmount price : Int)
    (liquidationThresholdBps : Nat) : Outcome Error Int := do
  let collateralRatio ← calculateCollateralRatio collateralAmount mintedAmount price
  let scaled ← checkedMul (.error .overflow) collateralRatio 10000
  checkedDiv (.error .divisionByZero) scaled liquidationThresholdBps

/-- The price at which the losses of a trade reach its margin, by whole basis points. -/
def calculateLiquidationPrice (position : TradingPosition Address) : Outcome Error Int := do
  ensure (position.notional ≠ 0) .invalidAmount
  let scaledMargin ← checkedMul (.error .overflow) position.margin 10000
  let marginRatio ← checkedDiv (.error .divisionByZero) scaledMargin position.notional
  let scaledImpact ← checkedMul (.error .overflow) position.entryPrice marginRatio
  let marginImpact ← checkedDiv (.error .divisionByZero) scaledImpact 10000
  match position.direction with
  | .long => checkedSub (.error .overflow) position.entryPrice marginImpact
  | .short => checkedAdd (.error .overflow) position.entryPrice marginImpact

def isTradeSafe (position : TradingPosition Address) (currentPrice : Int) :
    Outcome Error Bool := do
  let liquidationPrice ← calculateLiquidationPrice position
  return match position.direction with
    | .long => decide (liquidationPrice < currentPrice)
    | .short => decide (currentPrice < liquidationPrice)

variable (env : Env Address contract) (state : State Address) (positionId : Nat)

def getHealthFactor : Outcome Error Int := do
  let position ← state.getCollateralPosition positionId
  let price ← getPriceInternal env state position.assetSymbol
  let liquidationThreshold ← state.getLiquidationThreshold
  calculateHealthFactor position.collateralAmount position.mintedAmount price liquidationThreshold

def isLiquidatable : Outcome Error Bool := do
  let position ← state.getCollateralPosition positionId
  let price ← getPriceInternal env state position.assetSymbol
  isAboveLiquidationThreshold state position price

def getTradingLiquidationPrice : Outcome Error Int := do
  let position ← state.getTradingPosition positionId
  calculateLiquidationPrice position

def isTradePositionSafe : Outcome Error Bool := do
  let position ← state.getTradingPosition positionId
  let currentPrice ← getPriceInternal env state position.assetSymbol
  isTradeSafe position currentPrice

/-- The ratio is above the threshold by less than the health factor shows. -/
def CollateralPosition.Blurred (position : CollateralPosition Address) (threshold : Nat)
    (price : Int) : Prop :=
  (threshold + 1) * debtValue position.mintedAmount price ≤ position.collateralAmount * 10000 ∧
    position.collateralAmount * 10000 <
      (threshold + 1 + (threshold - 1) / 10000) * debtValue position.mintedAmount price

/-- How far the price has moved against a trade. -/
def TradingPosition.adverseMove (position : TradingPosition Address) (price : Int) : Int :=
  match position.direction with
  | .long => position.entryPrice - price
  | .short => price - position.entryPrice

/-- The loss leaves some of the margin, but the move and one unit more, as a share of the entry
price in basis points rounded up, would not. -/
def TradingPosition.Blurred (position : TradingPosition Address) (price : Int) : Prop :=
  position.adverseMove price * position.notional < position.margin * position.entryPrice ∧
    position.margin * 10000 <
      (((position.adverseMove price + 1) * 10000 - 1) / position.entryPrice + 1) * position.notional

variable {position : CollateralPosition Address} {price ratio : Int} {threshold : Nat}

theorem health_le_iff (pos : 0 < threshold) (nonneg : 0 ≤ ratio) :
    (ratio * 10000).tdiv threshold ≤ 10000 ↔
      ratio < threshold + 1 + ((threshold : Int) - 1) / 10000 := by
  have divisor : (0 : Int) < threshold := by omega
  rw [Int.tdiv_eq_ediv_of_nonneg (by omega), ← Int.lt_add_one_iff, Int.ediv_lt_iff_lt_mul divisor]
  omega

section

variable (eq : calculateCollateralRatio position.collateralAmount position.mintedAmount price =
    .ok ratio)
include eq

theorem ratio_agrees_iff (nonneg : 0 ≤ position.collateralAmount)
    (minted : 0 < position.mintedAmount) (priced : 0 < price) (pos : 0 < threshold)
    (bounded : threshold < 50000) :
    ((ratio ≤ threshold ↔ (ratio * 10000).tdiv threshold ≤ 10000) ↔
      ¬ position.Blurred threshold price) := by
  have reaches : ∀ bound : Int, bound ≤ maxCollateralRatio → (bound ≤ ratio ↔
      bound * debtValue position.mintedAmount price ≤ position.collateralAmount * 10000) :=
    fun bound capped => le_calculateCollateralRatio_iff nonneg minted priced capped eq
  have ratioNonneg : 0 ≤ ratio := by
    apply (reaches 0 (by decide)).mpr
    rw [zero_mul]
    exact mul_nonneg nonneg (by decide)
  have above := reaches (threshold + 1) (by unfold maxCollateralRatio; omega)
  have beyond := reaches (threshold + 1 + ((threshold : Int) - 1) / 10000)
    (by unfold maxCollateralRatio; omega)
  unfold CollateralPosition.Blurred
  rw [health_le_iff pos ratioNonneg, ← above, ← not_le, ← not_le, ← beyond]
  omega

theorem calculateHealthFactor_eq (nonneg : 0 ≤ position.collateralAmount)
    (minted : 0 < position.mintedAmount) (priced : 0 < price) (pos : 0 < threshold) :
    calculateHealthFactor position.collateralAmount position.mintedAmount price threshold =
      .ok ((ratio * 10000).tdiv threshold) := by
  have least : 0 ≤ ratio := by
    rw [le_calculateCollateralRatio_iff nonneg minted priced (by decide) eq, zero_mul]
    exact mul_nonneg nonneg (by decide)
  have most : ratio ≤ maxCollateralRatio := by
    rw [calculateCollateralRatio_eq nonneg minted priced eq]
    split
    · exact le_rfl
    · exact min_le_right _ _
  have scaled : InI128 (ratio * 10000) := by
    unfold maxCollateralRatio at most
    unfold InI128 i128Min i128Max
    omega
  have divisor : (threshold : Int) ≠ 0 := by omega
  have health : InI128 ((ratio * 10000).tdiv threshold) := by
    have quotient := Int.tdiv_le_self (threshold : Int) (show 0 ≤ ratio * 10000 by omega)
    have zero : 0 ≤ (ratio * 10000).tdiv threshold :=
      Int.tdiv_nonneg (by omega) (Int.natCast_nonneg _)
    have lowest : i128Min ≤ 0 := by decide
    exact ⟨by omega, quotient.trans scaled.2⟩
  simp only [calculateHealthFactor, bind_eq_ok, eq, Except.ok.injEq, exists_eq_left',
    arith_ok]
  exact ⟨scaled, divisor, health, trivial⟩

end

variable {position : TradingPosition Address} {price liquidationPrice : Int}

/-- The margin in whole basis points of the notional, taken of the entry price. -/
def TradingPosition.marginImpact (position : TradingPosition Address) : Int :=
  position.entryPrice * (position.margin * 10000 / position.notional) / 10000

/-- What opening a trade ensures. -/
structure Leveraged (position : TradingPosition Address) : Prop where
  entry_pos : 0 < position.entryPrice
  margin_pos : 0 < position.margin
  leverage_least : 10000 ≤ position.leverage
  leverage_most : position.leverage ≤ 100000
  notional_eq : position.notional = position.margin * position.leverage / 10000

namespace Leveraged

section

variable (leveraged : Leveraged position)
include leveraged

theorem notional_pos : 0 < position.notional := by
  have raised : position.margin * 10000 ≤ position.margin * position.leverage :=
    mul_le_mul_of_nonneg_left (by exact_mod_cast leveraged.leverage_least) leveraged.margin_pos.le
  have pos := leveraged.margin_pos
  rw [leveraged.notional_eq]
  omega

theorem marginRatio_nonneg : 0 ≤ position.margin * 10000 / position.notional :=
  Int.ediv_nonneg (mul_nonneg leveraged.margin_pos.le (by decide)) leveraged.notional_pos.le

theorem liquidationPrice_eq (eq : calculateLiquidationPrice position = .ok liquidationPrice) :
    liquidationPrice = match position.direction with
      | .long => position.entryPrice - position.marginImpact
      | .short => position.entryPrice + position.marginImpact := by
  simp only [calculateLiquidationPrice, call_ok, arith_ok] at eq
  obtain ⟨-, -, -, -, -, -, -, moved⟩ := eq
  have margin : 0 ≤ position.margin * 10000 := mul_nonneg leveraged.margin_pos.le (by decide)
  rw [Int.tdiv_eq_ediv_of_nonneg margin, Int.tdiv_eq_ediv_of_nonneg (mul_nonneg
    leveraged.entry_pos.le leveraged.marginRatio_nonneg)] at moved
  cases direction : position.direction with
  | long =>
    rw [direction] at moved
    exact (checkedSub_eq_ok.mp moved).2.symm
  | short =>
    rw [direction] at moved
    exact (checkedAdd_eq_ok.mp moved).2.symm

theorem isTradeSafe_iff {safe : Bool} (eq : isTradeSafe position price = .ok safe) :
    safe = true ↔ position.adverseMove price < position.marginImpact := by
  simp only [isTradeSafe, call_ok] at eq
  obtain ⟨_, quoted, rfl⟩ := eq
  have moved := leveraged.liquidationPrice_eq quoted
  unfold TradingPosition.adverseMove
  cases direction : position.direction with
  | long =>
    simp only [direction] at moved
    simp only [decide_eq_true_eq]
    omega
  | short =>
    simp only [direction] at moved
    simp only [decide_eq_true_eq]
    omega

end

theorem gain_eq (position : TradingPosition Address) (price : Int) :
    position.gain price =
      -(position.adverseMove price * position.notional).tdiv position.entryPrice := by
  unfold TradingPosition.gain TradingPosition.adverseMove
  cases position.direction with
  | long => rw [← Int.neg_tdiv, ← neg_mul, neg_sub]
  | short => rw [← Int.neg_tdiv, ← neg_mul, neg_sub]

variable (leveraged : Leveraged position)
include leveraged

theorem shouldLiquidate_iff {liquidated : Bool}
    (eq : shouldLiquidateTradingPosition position price = .ok liquidated) :
    liquidated = true ↔ position.margin * position.entryPrice ≤
      position.adverseMove price * position.notional := by
  simp only [shouldLiquidateTradingPosition, call_ok, arith_ok] at eq
  obtain ⟨_, valued, -, rfl⟩ := eq
  rw [← Rounding.le_tdiv_iff leveraged.margin_pos leveraged.entry_pos, calculatePnl_eq valued,
    gain_eq, decide_eq_true_eq]
  omega

theorem marginImpact_le_iff {move : Int} :
    position.marginImpact ≤ move ↔ position.margin * 10000 <
      (((move + 1) * 10000 - 1) / position.entryPrice + 1) * position.notional := by
  have scale : (0 : Int) < 10000 := by decide
  unfold TradingPosition.marginImpact
  rw [← Int.lt_add_one_iff, Int.ediv_lt_iff_lt_mul scale, ← Int.le_sub_one_iff, mul_comm, ←
    Int.le_ediv_iff_mul_le leveraged.entry_pos, ← Int.lt_add_one_iff, Int.ediv_lt_iff_lt_mul
    leveraged.notional_pos]

theorem marginImpact_mul_le :
    position.marginImpact * position.notional ≤ position.margin * position.entryPrice := by
  have share : position.margin * 10000 / position.notional * position.notional ≤
      position.margin * 10000 := Int.ediv_mul_le _ leveraged.notional_pos.ne'
  have impact : position.marginImpact * 10000 ≤
      position.entryPrice * (position.margin * 10000 / position.notional) :=
    Int.ediv_mul_le _ (by decide)
  have scaled := mul_le_mul_of_nonneg_right impact leveraged.notional_pos.le
  have weighed := mul_le_mul_of_nonneg_left share leveraged.entry_pos.le
  have scale : (0 : Int) < 10000 := by decide
  apply le_of_mul_le_mul_right _ scale
  calc position.marginImpact * position.notional * 10000
      = position.marginImpact * 10000 * position.notional := by ring
    _ ≤ position.entryPrice * (position.margin * 10000 / position.notional) *
          position.notional := scaled
    _ = position.entryPrice * (position.margin * 10000 / position.notional *
          position.notional) := by ring
    _ ≤ position.entryPrice * (position.margin * 10000) := weighed
    _ = position.margin * position.entryPrice * 10000 := by ring

theorem trade_agrees_iff {safe liquidated : Bool} (viewed : isTradeSafe position price = .ok safe)
    (enforced : shouldLiquidateTradingPosition position price = .ok liquidated) :
    ((safe = true ↔ liquidated = false) ↔ ¬ position.Blurred price) := by
  have below : position.adverseMove price < position.marginImpact →
      position.adverseMove price * position.notional < position.margin * position.entryPrice :=
    fun small => (mul_lt_mul_of_pos_right small leveraged.notional_pos).trans_le
      leveraged.marginImpact_mul_le
  unfold TradingPosition.Blurred
  rw [← Bool.not_eq_true, leveraged.isTradeSafe_iff viewed, leveraged.shouldLiquidate_iff enforced,
    ← leveraged.marginImpact_le_iff, not_le]
  omega

end Leveraged

variable [DecidableEq Address] {tokens : TokenHost Address} {env : Env Address contract}
  {state next : State Address}

/-- The threshold is within its bounds, and every trade was opened within its own. -/
structure Bounded (state : State Address) : Prop where
  threshold : ∀ threshold, state.liquidationThreshold = some threshold →
    10000 ≤ threshold ∧ threshold < 50000
  leveraged : ∀ id position, state.tradingPositions.get id = some position → Leveraged position

section

omit [DecidableEq Address]

theorem Bounded.of_same (bound : Bounded state)
    (threshold : next.liquidationThreshold = state.liquidationThreshold)
    (trading : next.tradingPositions = state.tradingPositions) : Bounded next where
  threshold := threshold ▸ bound.threshold
  leveraged := trading ▸ bound.leveraged

theorem Bounded.of_params (bound : Bounded state) {minCollateralRatio threshold bonus fee : Nat}
    (valid : validateParams minCollateralRatio threshold bonus fee = .ok ())
    (wrote : next.liquidationThreshold = some threshold)
    (trading : next.tradingPositions = state.tradingPositions) : Bounded next where
  threshold := by
    intro got found
    cases wrote.symm.trans found
    simp only [validateParams, call_ok] at valid
    omega
  leveraged := trading ▸ bound.leveraged

theorem Bounded.writeBack (bound : Bounded state) (id : Nat)
    (position : CollateralPosition Address) : Bounded (state.writeBack id position) := by
  unfold State.writeBack
  split
  · exact bound.of_same rfl rfl
  · exact bound.of_same rfl rfl

end

variable {user : Address}

theorem openTrade_bounded {assetSymbol : Symbol} {direction : TradeDirection} {margin : Int}
    {leverage id : Nat} (bound : Bounded state)
    (ran : openTrade tokens env user assetSymbol direction margin leverage state = .ok (id, next)) :
    Bounded next := by
  simp only [openTrade, getCollateralToken, incrementPositionCounter, call_ok,
    arith_ok] at ran
  obtain ⟨-, -, pos, bounds, _, read, -, -, -, _, -, -, _, -, _, -, _, ⟨-, rfl⟩, -, rfl⟩ := ran
  have notional : (margin * leverage).tdiv 10000 = margin * leverage / 10000 :=
    Int.tdiv_eq_ediv_of_nonneg (mul_nonneg pos.le (Int.natCast_nonneg _))
  rw [not_or, not_lt, not_lt] at bounds
  exact ⟨bound.threshold, forall_set bound.leveraged
    ⟨getPriceInternal_pos read, pos, bounds.1, bounds.2, notional⟩⟩

variable {amount : Int}

theorem closeTrade_bounded {positionId : Nat} (bound : Bounded state)
    (ran : closeTrade tokens env user positionId state = .ok (amount, next)) : Bounded next := by
  have removed : Bounded (state.removeTradingPosition positionId) :=
    ⟨bound.threshold, forall_remove bound.leveraged⟩
  simp only [closeTrade, getTradingPosition, call_ok] at ran
  obtain ⟨-, position, got, -, -, _, -, _, -, ran⟩ := ran
  split at ran
  · cases ran
    exact removed
  · simp only [settleTrade, bind_eq_ok] at ran
    obtain ⟨_, -, _, -, ran⟩ := ran
    split at ran
    · cases ran
      exact removed
    · simp only [call_ok] at ran
      obtain ⟨_, -, _, -, -, rfl⟩ := ran
      obtain ⟨entry, margin, least, most, notional⟩ := bound.leveraged positionId position got
      exact ⟨bound.threshold, forall_set bound.leveraged ⟨entry, margin, least, most, notional⟩⟩

variable {call : Env Address contract × Operation Address}

theorem dispatch_bounded (bound : Bounded state)
    (ran : dispatch tokens state call = .ok next) : Bounded next := by
  obtain ⟨_, op⟩ := call
  cases op with
  | initializeAssets =>
    simp only [dispatch, initializeAssets, call_ok] at ran
    obtain ⟨-, -, _, valid, rfl⟩ := ran
    exact bound.of_params valid rfl rfl
  | updateProtocolParams =>
    simp only [dispatch, updateProtocolParams, call_ok] at ran
    obtain ⟨-, -, -, _, valid, rfl⟩ := ran
    exact bound.of_params valid rfl rfl
  | burnSynthetic _ positionId =>
    simp only [dispatch, burnSynthetic, call_ok] at ran
    obtain ⟨-, -, -, position, -, -, -, _, -, _, -, minted, -, collateral, -, -, -,
      asset, -, supply, -, token, -, ledger, -, rfl⟩ := ran
    exact (bound.writeBack positionId _).of_same rfl rfl
  | liquidate _ positionId =>
    simp only [dispatch, liquidate, call_ok] at ran
    obtain ⟨-, -, -, _, -, _, -, _, -, -, -, _, -, _, -, _, -,
      _, -, _, -, _, -, _, -, _, -, rfl⟩ := ran
    exact (bound.writeBack positionId _).of_same rfl rfl
  | openTrade =>
    obtain ⟨⟨_, _⟩, opened, rfl⟩ := map_eq_ok.mp ran
    exact openTrade_bounded bound opened
  | closeTrade =>
    obtain ⟨⟨_, _⟩, closed, rfl⟩ := map_eq_ok.mp ran
    exact closeTrade_bounded bound closed
  | expirePrice =>
    cases ran
    exact bound.of_same rfl rfl
  | _ =>
    have same : next.liquidationThreshold = state.liquidationThreshold ∧
        next.tradingPositions = state.tradingPositions := by
      apply Outcome.Yields.of_ok ran
      simp only [dispatch, registerSyntheticAsset, updateOracle, updateCollateralToken, updatePrice,
        mintSynthetic, addCollateral, yields_bind, yields_pure, yields_true, updatePriceInternal,
        incrementPositionCounter, setSyntheticAsset, addRegisteredAssetSymbol,
        setPrice, setCollateralPosition, withLedger, and_self]
    exact bound.of_same same.1 same.2

/-- What the views rely on in a state. -/
structure Viewable (state : State Address) : Prop where
  sound : Sound state
  supplied : Supplied state
  bounded : Bounded state

omit [DecidableEq Address] in
theorem viewable_initial (ledger : TokenLedger Address) :
    Viewable ({ ledger } : State Address) where
  sound := Sound.initial ledger
  supplied := (issued_initial ledger).supplied
  bounded := ⟨nofun, nofun⟩

theorem dispatch_viewable (viewable : Viewable state)
    (ran : dispatch tokens state call = .ok next) : Viewable next where
  sound := dispatch_sound viewable.sound ran
  supplied := (dispatch_writes viewable.sound ran).1.supplied viewable.sound viewable.supplied
  bounded := dispatch_bounded viewable.bounded ran

theorem viewable_of_reachable {ledger : TokenLedger Address}
    (reached : (machine tokens contract).Reachable { ledger } state) : Viewable state := by
  obtain ⟨calls, rfl⟩ := reached
  have keeps : ∀ (state : State Address) call next, Viewable state →
      (machine tokens contract).exec state call = .ok next → Viewable next :=
    fun _ _ _ viewable ran => dispatch_viewable viewable ran
  exact run_invariant keeps (viewable_initial ledger) calls

theorem closeTrade_pays_iff {positionId : Nat} {position : TradingPosition Address} {price : Int}
    {liquidated : Bool} (got : state.tradingPositions.get positionId = some position)
    (read : getPriceInternal env state position.assetSymbol = .ok price)
    (enforced : shouldLiquidateTradingPosition position price = .ok liquidated)
    (ran : closeTrade tokens env user positionId state = .ok (amount, next)) :
    0 < amount ↔ liquidated = false := by
  simp only [closeTrade, getTradingPosition, got, call_ok, Option.some.injEq,
    exists_eq_left', read, enforced, Except.ok.injEq] at ran
  obtain ⟨-, -, -, ran⟩ := ran
  cases liquidated with
  | true =>
    cases ran
    decide
  | false =>
    simp only [shouldLiquidateTradingPosition, call_ok, arith_ok,
      decide_eq_false_iff_not] at enforced
    obtain ⟨_, valued, -, _⟩ := enforced
    simp only [Bool.false_eq_true, if_false, settleTrade, bind_eq_ok, valued, Except.ok.injEq,
      exists_eq_left', arith_ok] at ran
    obtain ⟨-, ran⟩ := ran
    rw [if_neg (by omega)] at ran
    simp only [call_ok] at ran
    simp only [iff_true]
    omega

/-- In every reachable state, what the health factor shows is what liquidation enforces exactly
when the position is outside the band of its threshold, and what a trade is shown as is what
closing it does exactly when the trade is outside the band of its margin. -/
theorem views_agree_iff {ledger : TokenLedger Address}
    (reached : (machine tokens contract).Reachable { ledger } state)
    (env : Env Address contract) (positionId : Nat) :
    (∀ position price threshold liquidatable,
      state.collateralPositions.get positionId = some position →
      getPriceInternal env state position.assetSymbol = .ok price →
      state.liquidationThreshold = some threshold →
      isLiquidatable env state positionId = .ok liquidatable →
      ∃ health, getHealthFactor env state positionId = .ok health ∧
        ((liquidatable = true ↔ health ≤ 10000) ↔ ¬ position.Blurred threshold price)) ∧
    (∀ position price safe liquidated,
      state.tradingPositions.get positionId = some position → position.isOpen = true →
      getPriceInternal env state position.assetSymbol = .ok price →
      isTradePositionSafe env state positionId = .ok safe →
      shouldLiquidateTradingPosition position price = .ok liquidated →
      ((safe = true ↔ liquidated = false) ↔ ¬ position.Blurred price) ∧
      ∀ user amount next, closeTrade tokens env user positionId state = .ok (amount, next) →
        ((safe = true ↔ 0 < amount) ↔ ¬ position.Blurred price)) := by
  have viewable := viewable_of_reachable reached
  constructor
  · intro position price threshold liquidatable got read configured enforced
    obtain ⟨_, most⟩ := viewable.bounded.threshold threshold configured
    have nonneg := viewable.sound.collateral_nonneg positionId position got
    have minted := viewable.supplied.positive positionId position got
    have priced := getPriceInternal_pos read
    simp only [isLiquidatable, getCollateralPosition, got, call_ok, Option.some.injEq,
      exists_eq_left', read, Except.ok.injEq, isAboveLiquidationThreshold,
      getLiquidationThreshold, configured] at enforced
    obtain ⟨ratio, eq, rfl⟩ := enforced
    refine ⟨(ratio * 10000).tdiv threshold, ?_, ?_⟩
    · simp only [getHealthFactor, getCollateralPosition, got, call_ok, Option.some.injEq,
        exists_eq_left', read, Except.ok.injEq, getLiquidationThreshold, configured]
      exact calculateHealthFactor_eq eq nonneg minted priced (by omega)
    · rw [decide_eq_true_eq]
      exact ratio_agrees_iff eq nonneg minted priced (by omega) most
  · intro position price safe liquidated got _ read viewed enforced
    have leveraged := viewable.bounded.leveraged positionId position got
    simp only [isTradePositionSafe, getTradingPosition, got, call_ok, Option.some.injEq,
      exists_eq_left', read, Except.ok.injEq] at viewed
    have agrees := leveraged.trade_agrees_iff viewed enforced
    refine ⟨agrees, fun user amount next ran => ?_⟩
    rw [closeTrade_pays_iff got read enforced ran]
    exact agrees

/-- Account `2` mints against collateral, account `3` opens a short trade at three times its
margin, and the price rises by a third. -/
def risingRun : List (Env Nat 0 × Operation Nat) :=
  [(signed, .initializeAssets 1 1 9 15000 12000 500 100),
    (signed, .registerSyntheticAsset "GOLD" "Gold" 7 100000000),
    (signed, .mintSynthetic 2 "GOLD" 1600106 1000000),
    (signed, .openTrade 3 "GOLD" .short 1000000 30000),
    (signed, .updatePrice "GOLD" 120000000 100), (signed, .updatePrice "GOLD" 133331000 100)]

def risenState : State Nat := (machine standardHost 0).run { ledger := fundedLedger } risingRun

theorem views_agree_iff_after_rise :
    (∀ position price threshold liquidatable,
      risenState.collateralPositions.get 1 = some position →
      getPriceInternal signed risenState position.assetSymbol = .ok price →
      risenState.liquidationThreshold = some threshold →
      isLiquidatable signed risenState 1 = .ok liquidatable →
      ∃ health, getHealthFactor signed risenState 1 = .ok health ∧
        ((liquidatable = true ↔ health ≤ 10000) ↔ ¬ position.Blurred threshold price)) ∧
    (∀ position price safe liquidated,
      risenState.tradingPositions.get 1 = some position → position.isOpen = true →
      getPriceInternal signed risenState position.assetSymbol = .ok price →
      isTradePositionSafe signed risenState 1 = .ok safe →
      shouldLiquidateTradingPosition position price = .ok liquidated →
      ((safe = true ↔ liquidated = false) ↔ ¬ position.Blurred price) ∧
      ∀ user amount next, closeTrade standardHost signed user 1 risenState = .ok (amount, next) →
        ((safe = true ↔ 0 < amount) ↔ ¬ position.Blurred price)) := by
  have reached : (machine standardHost 0).Reachable { ledger := fundedLedger } risenState :=
    ⟨risingRun, rfl⟩
  exact views_agree_iff reached signed 1

/-- The ratio is one basis point above the threshold, so that the position cannot be liquidated
while its health factor shows one, and the trade that is shown as unsafe still pays. -/
theorem views_disagree_after_rise :
    (machine standardHost 0).Reachable { ledger := fundedLedger } risenState ∧
      isLiquidatable signed risenState 1 = .ok false ∧
      getHealthFactor signed risenState 1 = .ok 10000 ∧
      isTradePositionSafe signed risenState 2 = .ok false ∧
      (closeTrade standardHost signed 3 2 risenState).map Prod.fst = .ok 70 :=
  ⟨⟨risingRun, rfl⟩, by decide, by decide, by decide, by decide⟩

end SorobanPlayground.SyntheticAssets
