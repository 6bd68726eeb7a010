import Mathlib.Tactic.Ring
import SorobanPlayground.SyntheticAssets.Contract

/-! # The backing of the collateral pot

Collateral positions and open trades are claims on one token balance. The
contract is solvent while the balance covers all of them. Every call keeps it
solvent except the closing of a profitable trade, whose profit is paid from the
balance whatever it is: the profit must be covered by the surplus, the part of
the balance that no position claims.
-/

namespace SorobanPlayground.SyntheticAssets

open State

variable {Address : Type} {contract : Address}

def TradingPosition.openMargin (position : TradingPosition Address) : Int :=
  if position.isOpen then position.margin else 0

/-- The collateral of all positions and the margins of all open trades. -/
def State.backing (state : State Address) : Int :=
  state.collateralPositions.total (fun _ position => position.collateralAmount) +
    state.tradingPositions.total (fun _ position => position.openMargin)

/-- The part of the contract's balance of a token that no position claims. -/
def State.surplus (contract : Address) (state : State Address) (token : Address) : Int :=
  state.ledger token contract - state.backing

/-- The balance of the collateral token covers every claim on it. -/
def Solvent (contract : Address) (state : State Address) : Prop :=
  ∀ token, state.collateralToken = some token → 0 ≤ state.surplus contract token

variable (state : State Address) (id : Nat)

theorem State.backing_setCollateralPosition (position : CollateralPosition Address) :
    (state.setCollateralPosition id position).backing = state.backing -
      FiniteMap.weightAt (fun _ got => got.collateralAmount) id
        (state.collateralPositions.get id) + position.collateralAmount := by
  have wrote := total_set state.collateralPositions
    (fun _ got => got.collateralAmount) id position
  unfold backing setCollateralPosition
  rw [wrote]
  ring

theorem State.backing_removeCollateralPosition :
    (state.removeCollateralPosition id).backing = state.backing -
      FiniteMap.weightAt (fun _ got => got.collateralAmount) id
        (state.collateralPositions.get id) := by
  have removed := total_remove state.collateralPositions
    (fun _ got => got.collateralAmount) id
  unfold backing removeCollateralPosition
  rw [removed]
  ring

theorem State.backing_setTradingPosition (position : TradingPosition Address) :
    (state.setTradingPosition id position).backing = state.backing -
      FiniteMap.weightAt (fun _ got => got.openMargin) id
        (state.tradingPositions.get id) + position.openMargin := by
  have wrote := total_set state.tradingPositions (fun _ got => got.openMargin) id position
  unfold backing setTradingPosition
  rw [wrote]
  ring

theorem State.backing_removeTradingPosition :
    (state.removeTradingPosition id).backing = state.backing -
      FiniteMap.weightAt (fun _ got => got.openMargin) id
        (state.tradingPositions.get id) := by
  have removed := total_remove state.tradingPositions (fun _ got => got.openMargin) id
  unfold backing removeTradingPosition
  rw [removed]
  ring

theorem State.writeBack_collateralToken (position : CollateralPosition Address) :
    (state.writeBack id position).collateralToken = state.collateralToken := by
  unfold State.writeBack
  split <;> rfl

theorem State.writeBack_initialized (position : CollateralPosition Address) :
    (state.writeBack id position).initialized = state.initialized := by
  unfold State.writeBack
  split <;> rfl

theorem State.backing_writeBack_le {position got : CollateralPosition Address} {reduction : Int}
    (found : state.collateralPositions.get id = some got)
    (reduced : position.collateralAmount = got.collateralAmount - reduction)
    (nonneg : 0 ≤ position.collateralAmount) :
    (state.writeBack id position).backing ≤ state.backing - reduction := by
  unfold State.writeBack
  split
  · have removed := state.backing_removeCollateralPosition id
    rw [found, weightAt_some] at removed
    linarith
  · have wrote := state.backing_setCollateralPosition id position
    rw [found, weightAt_some] at wrote
    linarith

/-- What every reachable state satisfies: ids below the counter, nonnegative
claims, and nothing recorded before initialization. -/
structure Sound (state : State Address) : Prop where
  collateral_counted : ∀ id position,
    state.collateralPositions.get id = some position → id < state.positionCounter
  trading_counted : ∀ id position,
    state.tradingPositions.get id = some position → id < state.positionCounter
  collateral_nonneg : ∀ id position,
    state.collateralPositions.get id = some position → 0 ≤ position.collateralAmount
  margin_nonneg : ∀ id position, state.tradingPositions.get id = some position → 0 ≤ position.margin
  unconfigured : state.initialized = false → state.admin = none ∧ state.collateralToken = none ∧
    state.collateralPositions = ∅ ∧ state.tradingPositions = ∅

namespace Sound

variable {state next : State Address} {id : Nat}

theorem initial (ledger : TokenLedger Address) : Sound { ledger : State Address } where
  collateral_counted := fun _ _ found => by cases found
  trading_counted := fun _ _ found => by cases found
  collateral_nonneg := fun _ _ found => by cases found
  margin_nonneg := fun _ _ found => by cases found
  unconfigured := fun _ => ⟨rfl, rfl, rfl, rfl⟩

section

variable (sound : Sound state)

include sound

theorem initialized_of_admin {admin : Address} (setUp : state.admin = some admin) :
    state.initialized = true := by
  by_contra uninitialized
  have gone := (sound.unconfigured (Bool.eq_false_iff.mpr uninitialized)).1
  rw [setUp] at gone
  cases gone

theorem initialized_of_token {token : Address} (setUp : state.collateralToken = some token) :
    state.initialized = true := by
  by_contra uninitialized
  have gone := (sound.unconfigured (Bool.eq_false_iff.mpr uninitialized)).2.1
  rw [setUp] at gone
  cases gone

theorem of_positions (collateral : next.collateralPositions = state.collateralPositions)
    (trading : next.tradingPositions = state.tradingPositions)
    (counter : state.positionCounter ≤ next.positionCounter) (ready : next.initialized = true) :
    Sound next where
  collateral_counted := by
    rw [collateral]
    exact fun id position found => (sound.collateral_counted id position found).trans_le counter
  trading_counted := by
    rw [trading]
    exact fun id position found => (sound.trading_counted id position found).trans_le counter
  collateral_nonneg := by
    rw [collateral]
    exact sound.collateral_nonneg
  margin_nonneg := by
    rw [trading]
    exact sound.margin_nonneg
  unconfigured := fun uninitialized => nomatch ready.symm.trans uninitialized

theorem setCollateralPosition {position : CollateralPosition Address}
    (counted : id < state.positionCounter) (nonneg : 0 ≤ position.collateralAmount)
    (ready : state.initialized = true) : Sound (state.setCollateralPosition id position) where
  collateral_counted := forall_set sound.collateral_counted counted
  trading_counted := sound.trading_counted
  collateral_nonneg := forall_set sound.collateral_nonneg nonneg
  margin_nonneg := sound.margin_nonneg
  unconfigured := fun uninitialized => nomatch ready.symm.trans uninitialized

theorem removeCollateralPosition (ready : state.initialized = true) :
    Sound (state.removeCollateralPosition id) where
  collateral_counted := forall_remove sound.collateral_counted
  trading_counted := sound.trading_counted
  collateral_nonneg := forall_remove sound.collateral_nonneg
  margin_nonneg := sound.margin_nonneg
  unconfigured := fun uninitialized => nomatch ready.symm.trans uninitialized

theorem writeBack {position : CollateralPosition Address} (counted : id < state.positionCounter)
    (nonneg : 0 ≤ position.collateralAmount) (ready : state.initialized = true) :
    Sound (state.writeBack id position) := by
  unfold State.writeBack
  split
  · exact sound.removeCollateralPosition ready
  · exact sound.setCollateralPosition counted nonneg ready

theorem setTradingPosition {position : TradingPosition Address}
    (counted : id < state.positionCounter) (nonneg : 0 ≤ position.margin)
    (ready : state.initialized = true) : Sound (state.setTradingPosition id position) where
  collateral_counted := sound.collateral_counted
  trading_counted := forall_set sound.trading_counted counted
  collateral_nonneg := sound.collateral_nonneg
  margin_nonneg := forall_set sound.margin_nonneg nonneg
  unconfigured := fun uninitialized => nomatch ready.symm.trans uninitialized

theorem removeTradingPosition (ready : state.initialized = true) :
    Sound (state.removeTradingPosition id) where
  collateral_counted := sound.collateral_counted
  trading_counted := forall_remove sound.trading_counted
  collateral_nonneg := sound.collateral_nonneg
  margin_nonneg := forall_remove sound.margin_nonneg
  unconfigured := fun uninitialized => nomatch ready.symm.trans uninitialized

theorem collateral_fresh : state.collateralPositions.get state.positionCounter = none := by
  cases found : state.collateralPositions.get state.positionCounter with
  | none => rfl
  | some position => exact absurd (sound.collateral_counted _ position found) (lt_irrefl _)

theorem trading_fresh : state.tradingPositions.get state.positionCounter = none := by
  cases found : state.tradingPositions.get state.positionCounter with
  | none => rfl
  | some position => exact absurd (sound.trading_counted _ position found) (lt_irrefl _)

theorem backing_of_uninitialized (uninitialized : state.initialized = false) :
    state.backing = 0 := by
  obtain ⟨-, -, collateral, trading⟩ := sound.unconfigured uninitialized
  unfold backing
  rw [collateral, trading]
  rfl

end

end Sound

/-- A call that changes the surplus of the collateral token by a given amount. -/
structure Moves (contract : Address) (state next : State Address) (change : Int) : Prop where
  sound : Sound next
  token : next.collateralToken = state.collateralToken
  surplus : ∀ token, state.collateralToken = some token →
    next.surplus contract token = state.surplus contract token + change

theorem Moves.solvent {state next : State Address} {change : Int}
    (moves : Moves contract state next change) (gain : 0 ≤ change)
    (solvent : Solvent contract state) : Solvent contract next := by
  intro token setUp
  rw [moves.token] at setUp
  have before := solvent token setUp
  rw [moves.surplus token setUp]
  omega

section Calls

variable [DecidableEq Address] {tokens : TokenHost Address} {env : Env Address contract}
  {state next : State Address}

omit [DecidableEq Address] in
theorem Moves.quiet (sound : Sound state) (ready : next.initialized = true)
    (collateral : next.collateralPositions = state.collateralPositions)
    (trading : next.tradingPositions = state.tradingPositions)
    (counter : next.positionCounter = state.positionCounter)
    (token : next.collateralToken = state.collateralToken)
    (ledger : next.ledger = state.ledger) : Moves contract state next 0 where
  sound := sound.of_positions collateral trading counter.ge ready
  token := token
  surplus := fun read _ => by
    unfold State.surplus backing
    rw [collateral, trading, ledger, add_zero]

variable {user : Address} {assetSymbol : Symbol}

theorem mintSynthetic_moves {collateralAmount mintAmount : Int} (sound : Sound state)
    (ran : mintSynthetic tokens env user assetSymbol collateralAmount mintAmount state = .ok next) :
    Moves contract state next 0 := by
  simp only [mintSynthetic, getCollateralToken, incrementPositionCounter, call_ok,
    arith_ok] at ran
  obtain ⟨signed, -, _, _, -, _, -, _, -, -, _, setUp, ledger, paid, -, _,
    -, -, rfl⟩ := ran
  have received := tokens.pay_received paid (env.ne_contract signed).symm
  have ready := sound.initialized_of_token setUp
  have raised : Sound { state with positionCounter := state.positionCounter + 1 } :=
    sound.of_positions rfl rfl (Nat.le_succ _) ready
  refine ⟨?_, rfl, fun read isToken => ?_⟩
  · have nonneg : 0 ≤ collateralAmount := by omega
    exact (raised.setCollateralPosition (Nat.lt_succ_self _) nonneg ready).of_positions
      rfl rfl le_rfl ready
  · obtain rfl := Option.mem_unique isToken setUp
    change (ledger read contract : Int) - backing (setCollateralPosition
      { state with positionCounter := state.positionCounter + 1 } state.positionCounter _) = _
    rw [backing_setCollateralPosition, sound.collateral_fresh, received]
    change _ - (state.backing - 0 + collateralAmount) =
      state.ledger read contract - state.backing + 0
    ring

variable {positionId : Nat}

theorem addCollateral_moves {additionalCollateral : Int} (sound : Sound state)
    (ran : addCollateral tokens env user positionId additionalCollateral state = .ok next) :
    Moves contract state next 0 := by
  simp only [addCollateral, getCollateralPosition, getCollateralToken, call_ok,
    arith_ok] at ran
  obtain ⟨signed, _, position, got, -, _, setUp, ledger, paid, -, rfl⟩ := ran
  have received := tokens.pay_received paid (env.ne_contract signed).symm
  have ready := sound.initialized_of_token setUp
  have counted := sound.collateral_counted positionId position got
  have before := sound.collateral_nonneg positionId position got
  refine ⟨?_, rfl, fun read isToken => ?_⟩
  · have nonneg : 0 ≤ position.collateralAmount + additionalCollateral := by omega
    exact (sound.setCollateralPosition counted nonneg ready).of_positions rfl rfl le_rfl ready
  · obtain rfl := Option.mem_unique isToken setUp
    change (ledger read contract : Int) -
      backing (setCollateralPosition state positionId _) = _
    rw [backing_setCollateralPosition, got, received, weightAt_some]
    unfold State.surplus
    ring

theorem writeBack_moves {id : Nat} {got reduced : CollateralPosition Address} {reduction : Int}
    {token recipient : Address} {ledger : TokenLedger Address} {symbol : Symbol}
    {asset : SyntheticAsset} (sound : Sound state) (setUp : state.collateralToken = some token)
    (found : state.collateralPositions.get id = some got)
    (amount : reduced.collateralAmount = got.collateralAmount - reduction)
    (bound : reduction ≤ got.collateralAmount) (external : recipient ≠ contract)
    (paid : tokens.pay state.ledger token contract recipient reduction =
      (.ok ledger : Outcome Error _)) :
    ∃ change, 0 ≤ change ∧ Moves contract state
      (((state.writeBack id reduced).setSyntheticAsset symbol asset).withLedger ledger) change := by
  have spent := tokens.pay_spent paid external
  have ready := sound.initialized_of_token setUp
  have wrote : (state.writeBack id reduced).initialized = true :=
    (state.writeBack_initialized id reduced).trans ready
  have counted := sound.collateral_counted id got found
  have nonneg : 0 ≤ reduced.collateralAmount := by omega
  have released := state.backing_writeBack_le id found amount nonneg
  refine ⟨state.backing - reduction - (state.writeBack id reduced).backing, by omega, ?_⟩
  refine ⟨?_, state.writeBack_collateralToken id reduced, fun read isToken => ?_⟩
  · exact (sound.writeBack counted nonneg ready).of_positions rfl rfl le_rfl wrote
  · obtain rfl := Option.mem_unique isToken setUp
    change (ledger read contract : Int) - (state.writeBack id reduced).backing = _
    rw [spent]
    unfold State.surplus
    ring

theorem share_le {repaid collateral minted : Int} (nonneg : 0 ≤ collateral) (pos : 0 < repaid)
    (bound : repaid ≤ minted) : (repaid * collateral).tdiv minted ≤ collateral := by
  have scaled : repaid * collateral ≤ collateral * minted := by
    rw [mul_comm collateral]
    exact mul_le_mul_of_nonneg_right bound nonneg
  have whole : (collateral * minted).tdiv minted = collateral :=
    Int.mul_tdiv_cancel collateral (by omega)
  exact (Int.tdiv_le_tdiv (by omega) scaled).trans whole.le

theorem burnSynthetic_moves {burnAmount : Int} (sound : Sound state)
    (ran : burnSynthetic tokens env user positionId burnAmount state = .ok next) :
    ∃ change, 0 ≤ change ∧ Moves contract state next change := by
  simp only [burnSynthetic, getCollateralPosition, getCollateralToken, call_ok,
    arith_ok] at ran
  obtain ⟨signed, pos, position, got, -, bound, -, -, -, -, -, _, -, _, -,
    -, _, setUp, _, paid, rfl⟩ := ran
  have nonneg := sound.collateral_nonneg positionId position got
  exact writeBack_moves sound setUp got rfl (share_le nonneg pos bound)
    (env.ne_contract signed) paid

theorem calculateLiquidationReward_le {repayAmount price totalCollateral totalMinted reward : Int}
    {bonusBps : Nat} (eq : calculateLiquidationReward repayAmount price totalCollateral
      totalMinted bonusBps = .ok reward) : reward ≤ totalCollateral := by
  simp only [calculateLiquidationReward, call_ok] at eq
  obtain ⟨_, -, _, -, _, -, _, -, _, -, _, -, _, -, rfl⟩ := eq
  split
  · exact le_rfl
  · omega

theorem liquidate_moves {liquidator : Address} {repayAmount : Int} (sound : Sound state)
    (ran : liquidate tokens env liquidator positionId repayAmount state = .ok next) :
    ∃ change, 0 ≤ change ∧ Moves contract state next change := by
  simp only [liquidate, getCollateralPosition, getCollateralToken, call_ok,
    arith_ok] at ran
  obtain ⟨signed, -, _, got, _, -, _, -, -, -, _, -, _, eq, _,
    setUp, _, paid, _, -, -, _, -, _, -, rfl⟩ := ran
  exact writeBack_moves sound setUp got rfl (calculateLiquidationReward_le eq)
    (env.ne_contract signed) paid

theorem openTrade_moves {direction : TradeDirection} {margin : Int} {leverage id : Nat}
    (sound : Sound state)
    (ran : openTrade tokens env user assetSymbol direction margin leverage state = .ok (id, next)) :
    Moves contract state next 0 := by
  simp only [openTrade, getCollateralToken, incrementPositionCounter, call_ok, arith_ok]
    at ran
  obtain ⟨signed, -, pos, -, _, -, -, -, -, _, -, -, _, setUp, ledger, paid, -, -, rfl⟩ :=
    ran
  have received := tokens.pay_received paid (env.ne_contract signed).symm
  have ready := sound.initialized_of_token setUp
  have raised : Sound { state with positionCounter := state.positionCounter + 1 } :=
    sound.of_positions rfl rfl (Nat.le_succ _) ready
  refine ⟨?_, rfl, fun read isToken => ?_⟩
  · exact (raised.setTradingPosition (Nat.lt_succ_self _) pos.le ready).of_positions
      rfl rfl le_rfl ready
  · obtain rfl := Option.mem_unique isToken setUp
    change (ledger read contract : Int) - backing (setTradingPosition
      { state with positionCounter := state.positionCounter + 1 } state.positionCounter _) = _
    rw [backing_setTradingPosition, sound.trading_fresh, received]
    change _ - (state.backing - 0 + margin) = state.ledger read contract - state.backing + 0
    ring

section

omit [DecidableEq Address]

/-- The profit of a position at a price; a loss is negative. -/
def TradingPosition.gain (position : TradingPosition Address) (price : Int) : Int :=
  let priceDiff := match position.direction with
    | .long => price - position.entryPrice
    | .short => position.entryPrice - price
  (priceDiff * position.notional).tdiv position.entryPrice

variable {position : TradingPosition Address} {price : Int}

theorem calculatePnl_eq {pnl : Int} (eq : calculatePnl position price = .ok pnl) :
    pnl = position.gain price := by
  unfold TradingPosition.gain
  cases direction : position.direction with
  | long =>
    simp only [calculatePnl, direction, bind_eq_ok, arith_ok] at eq
    obtain ⟨_, -, -, -, -, -, rfl⟩ := eq
    rfl
  | short =>
    simp only [calculatePnl, direction, bind_eq_ok, arith_ok] at eq
    obtain ⟨_, -, -, -, -, -, rfl⟩ := eq
    rfl

theorem getPriceInternal_stored {symbol : Symbol}
    (read : getPriceInternal env state symbol = .ok price) :
    ∃ priceData, state.prices.get symbol = some priceData ∧ priceData.price = price := by
  simp only [getPriceInternal, getPrice, bind_eq_ok, orError_eq_ok, pure_eq_ok] at read
  obtain ⟨priceData, got, _, -, _, -, _, -, _, -, _, -, same⟩ := read
  exact ⟨priceData, got, same⟩

theorem removeTradingPosition_moves {id : Nat} (sound : Sound state)
    (ready : state.initialized = true) (got : state.tradingPositions.get id = some position)
    (isOpen : position.isOpen = true) :
    Moves contract state (state.removeTradingPosition id) position.margin := by
  refine ⟨sound.removeTradingPosition ready, rfl, fun read _ => ?_⟩
  have released := state.backing_removeTradingPosition id
  rw [got, weightAt_some, TradingPosition.openMargin, if_pos isOpen] at released
  change (state.ledger read contract : Int) - (state.removeTradingPosition id).backing = _
  rw [released]
  unfold State.surplus
  ring

end

/-- Closing a trade either leaves its used-up margin in the pot or takes its
profit out of the surplus. -/
theorem closeTrade_moves {user : Address} {amount : Int} (sound : Sound state)
    (ran : closeTrade tokens env user positionId state = .ok (amount, next)) :
    ∃ position priceData, state.tradingPositions.get positionId = some position ∧
      state.prices.get position.assetSymbol = some priceData ∧
      ((position.gain priceData.price ≤ -position.margin ∧
          Moves contract state next position.margin) ∨
        Moves contract state next (-position.gain priceData.price)) := by
  simp only [closeTrade, getTradingPosition, call_ok] at ran
  obtain ⟨signed, position, got, _, isOpen, price, read, _, decided,
    ran⟩ := ran
  obtain ⟨priceData, quoted, rfl⟩ := getPriceInternal_stored read
  refine ⟨position, priceData, got, quoted, ?_⟩
  have ready : state.initialized = true := by
    by_contra uninitialized
    have gone := (sound.unconfigured (Bool.eq_false_iff.mpr uninitialized)).2.2.2
    rw [gone] at got
    cases got
  have margin := sound.margin_nonneg positionId position got
  simp only [shouldLiquidateTradingPosition, call_ok, arith_ok] at decided
  obtain ⟨pnl, eq, -, rfl⟩ := decided
  have gain := calculatePnl_eq eq
  subst gain
  split at ran
  · next used =>
    cases ran
    have usedUp := of_decide_eq_true used
    exact .inl ⟨by omega, removeTradingPosition_moves sound ready got isOpen⟩
  · next unused =>
    simp only [settleTrade, getCollateralToken, bind_eq_ok, arith_ok] at ran
    obtain ⟨_, again, -, ran⟩ := ran
    obtain rfl := calculatePnl_eq again
    have remaining : ¬ position.margin + position.gain priceData.price ≤ 0 :=
      fun used => unused (decide_eq_true used)
    rw [if_neg (by omega)] at ran
    simp only [call_ok] at ran
    obtain ⟨_, setUp, ledger, paid, -, rfl⟩ := ran
    have spent := tokens.pay_spent paid (env.ne_contract signed)
    have counted := sound.trading_counted positionId position got
    refine .inr ⟨?_, rfl, fun read isToken => ?_⟩
    · have closed :
          Sound (state.setTradingPosition positionId { position with isOpen := false }) :=
        sound.setTradingPosition counted margin ready
      exact closed.of_positions rfl rfl le_rfl ready
    · obtain rfl := Option.mem_unique isToken setUp
      change (ledger read contract : Int) -
        backing (setTradingPosition state positionId _) = _
      rw [backing_setTradingPosition, got, spent, weightAt_some,
        TradingPosition.openMargin, if_pos isOpen]
      unfold State.surplus TradingPosition.openMargin
      rw [if_neg Bool.false_ne_true]
      ring

theorem initializeAssets_keeps {admin oracle collateralToken : Address}
    {minCollateralRatio liquidationThreshold liquidationBonus feePercentage : Nat}
    (sound : Sound state)
    (ran : initializeAssets env admin oracle collateralToken minCollateralRatio
      liquidationThreshold liquidationBonus feePercentage state = .ok next) :
    Sound next ∧ Solvent contract next := by
  simp only [initializeAssets, call_ok] at ran
  obtain ⟨uninitialized, _, -, _, -, rfl⟩ := ran
  obtain ⟨-, -, collateral, trading⟩ := sound.unconfigured uninitialized
  constructor
  · refine ⟨?_, ?_, sound.collateral_nonneg, sound.margin_nonneg, by simp⟩
    · intro id position found
      rw [collateral] at found
      cases found
    · intro id position found
      rw [trading] at found
      cases found
  · intro token _
    change 0 ≤ (state.ledger token contract : Int) - state.backing
    rw [sound.backing_of_uninitialized uninitialized]
    omega

/-- Whether a call replaces the collateral token. -/
def Operation.setsCollateralToken : Operation Address → Bool
  | .updateCollateralToken _ => true
  | _ => false

/-- A call that closes a trade finds its profit covered by the surplus. -/
def ClosesCovered (contract : Address) (state : State Address)
    (call : Env Address contract × Operation Address) : Prop :=
  match call.2 with
  | .closeTrade _ positionId => ∀ position priceData token,
      state.tradingPositions.get positionId = some position →
      state.prices.get position.assetSymbol = some priceData →
      state.collateralToken = some token →
      position.gain priceData.price ≤ state.surplus contract token
  | _ => True

variable {call : Env Address contract × Operation Address}

/-- Every successful call other than the closing of a trade and a change of the
token adds to the surplus or leaves it alone. -/
theorem dispatch_keeps (sound : Sound state) (fixed : call.2.setsCollateralToken = false)
    (other : ∀ user id, call.2 ≠ .closeTrade user id)
    (ran : dispatch tokens state call = .ok next) :
    Sound next ∧ (Solvent contract state → Solvent contract next) := by
  have keeps : ∀ {change}, 0 ≤ change → Moves contract state next change →
      Sound next ∧ (Solvent contract state → Solvent contract next) :=
    fun gain moves => ⟨moves.sound, moves.solvent gain⟩
  obtain ⟨env, op⟩ := call
  cases op with
  | initializeAssets =>
    have initialized := initializeAssets_keeps sound ran
    exact ⟨initialized.1, fun _ => initialized.2⟩
  | registerSyntheticAsset =>
    simp only [dispatch, registerSyntheticAsset, getAdmin, call_ok] at ran
    obtain ⟨admin, setUp, _, -, _, -, _, -, rfl⟩ := ran
    have ready := sound.initialized_of_admin setUp
    exact keeps le_rfl (.quiet sound ready rfl rfl rfl rfl rfl)
  | updateOracle =>
    simp only [dispatch, updateOracle, getAdmin, call_ok] at ran
    obtain ⟨admin, setUp, _, -, rfl⟩ := ran
    have ready := sound.initialized_of_admin setUp
    exact keeps le_rfl (.quiet sound ready rfl rfl rfl rfl rfl)
  | updateCollateralToken => cases fixed
  | updateProtocolParams =>
    simp only [dispatch, updateProtocolParams, getAdmin, call_ok] at ran
    obtain ⟨admin, setUp, _, -, _, -, rfl⟩ := ran
    have ready := sound.initialized_of_admin setUp
    exact keeps le_rfl (.quiet sound ready rfl rfl rfl rfl rfl)
  | updatePrice =>
    simp only [dispatch, updatePrice, updatePriceInternal, getAdmin, call_ok] at ran
    obtain ⟨_, setUp, _, -, _, -, _, -, _, -, _, -, rfl⟩ := ran
    have ready := sound.initialized_of_admin setUp
    exact keeps le_rfl (.quiet sound ready rfl rfl rfl rfl rfl)
  | mintSynthetic =>
    exact keeps le_rfl (mintSynthetic_moves sound ran)
  | addCollateral =>
    exact keeps le_rfl (addCollateral_moves sound ran)
  | burnSynthetic =>
    obtain ⟨change, gain, moves⟩ := burnSynthetic_moves sound ran
    exact keeps gain moves
  | liquidate =>
    obtain ⟨change, gain, moves⟩ := liquidate_moves sound ran
    exact keeps gain moves
  | openTrade =>
    obtain ⟨⟨_, _⟩, opened, rfl⟩ := map_eq_ok.mp ran
    exact keeps le_rfl (openTrade_moves sound opened)
  | closeTrade user positionId => exact absurd rfl (other user positionId)
  | expirePrice =>
    cases ran
    exact ⟨⟨sound.collateral_counted, sound.trading_counted, sound.collateral_nonneg,
      sound.margin_nonneg, sound.unconfigured⟩, fun solvent => solvent⟩
  | transfer =>
    simp only [dispatch, payAs, call_ok] at ran
    obtain ⟨ledger, ⟨signed, paid⟩, rfl⟩ := ran
    refine ⟨⟨sound.collateral_counted, sound.trading_counted, sound.collateral_nonneg,
      sound.margin_nonneg, sound.unconfigured⟩, fun solvent read setUp => ?_⟩
    have before := solvent read setUp
    have grown := tokens.pay_le paid (env.ne_contract signed).symm read
    change 0 ≤ (ledger read contract : Int) - state.backing
    unfold State.surplus at before
    omega

theorem dispatch_sound (sound : Sound state) (ran : dispatch tokens state call = .ok next) :
    Sound next := by
  obtain ⟨_, op⟩ := call
  cases op with
  | updateCollateralToken =>
    simp only [dispatch, updateCollateralToken, getAdmin, call_ok] at ran
    obtain ⟨_, setUp, _, -, rfl⟩ := ran
    exact sound.of_positions rfl rfl le_rfl (sound.initialized_of_admin setUp)
  | closeTrade =>
    obtain ⟨⟨_, _⟩, closed, rfl⟩ := map_eq_ok.mp ran
    obtain ⟨_, _, -, -, ⟨-, moves⟩ | moves⟩ := closeTrade_moves sound closed
    · exact moves.sound
    · exact moves.sound
  | _ => exact (dispatch_keeps sound rfl (fun _ _ same => by cases same) ran).1

/-- A call that leaves the token alone keeps a solvent contract solvent exactly
when it does not close a trade whose profit exceeds the surplus. -/
theorem dispatch_solvent_iff (sound : Sound state) (solvent : Solvent contract state)
    (fixed : call.2.setsCollateralToken = false) (ran : dispatch tokens state call = .ok next) :
    Solvent contract next ↔ ClosesCovered contract state call := by
  obtain ⟨env, op⟩ := call
  cases op with
  | closeTrade user positionId =>
    obtain ⟨⟨_, _⟩, closed, rfl⟩ := map_eq_ok.mp ran
    obtain ⟨position, priceData, got, quoted, moved⟩ := closeTrade_moves sound closed
    have only : ClosesCovered contract state (env, .closeTrade user positionId) ↔
        ∀ token, state.collateralToken = some token →
          position.gain priceData.price ≤ state.surplus contract token := by
      constructor
      · exact fun covered token setUp =>
          covered position priceData token got quoted setUp
      · intro covered other otherPrice token found priced setUp
        cases got.symm.trans found
        cases quoted.symm.trans priced
        exact covered token setUp
    rw [only]
    rcases moved with ⟨_, moves⟩ | moves
    · have margin := sound.margin_nonneg positionId position got
      apply iff_of_true (moves.solvent margin solvent)
      intro token setUp
      have before := solvent token setUp
      omega
    · unfold Solvent
      rw [moves.token]
      refine forall_congr' fun token => forall_congr' fun setUp => ?_
      rw [moves.surplus token setUp]
      omega
  | updateCollateralToken => cases fixed
  | _ =>
    have kept := (dispatch_keeps sound rfl (fun _ _ same => by cases same) ran).2 solvent
    exact iff_of_true kept trivial

end Calls

variable [DecidableEq Address] {tokens : TokenHost Address}

omit [DecidableEq Address] in
theorem initial_solvent (ledger : TokenLedger Address) : Solvent contract { ledger } :=
  fun _ setUp => nomatch setUp

/-- In every run that does not replace the collateral token, the contract is
solvent in every state exactly when every trade that is closed finds its profit
covered by the surplus at that time. -/
theorem solvent_iff_closes_covered (ledger : TokenLedger Address)
    (calls : List (Env Address contract × Operation Address))
    (fixed : ∀ call ∈ calls, call.2.setsCollateralToken = false) :
    (machine tokens contract).Always (Solvent contract) { ledger } calls ↔
      (machine tokens contract).Meets (ClosesCovered contract) { ledger } calls := by
  have keeps : ∀ (state : State Address) call next, Sound state →
      (machine tokens contract).exec state call = .ok next → Sound next :=
    fun _ _ _ sound ran => dispatch_sound sound ran
  have exact : ∀ (state : State Address) call next, Sound state → Solvent contract state →
      call.2.setsCollateralToken = false → (machine tokens contract).exec state call = .ok next →
      (Solvent contract next ↔ ClosesCovered contract state call) :=
    fun _ _ _ sound solvent fixed ran => dispatch_solvent_iff sound solvent fixed ran
  exact always_iff_meets_of_meets keeps exact (Sound.initial ledger)
    (initial_solvent ledger) (meets_of_mem (fun call mem _ => fixed call mem) _)

/-- A call at time `0` that every account authorizes. -/
def signed : Env Nat 0 :=
  { timestamp := 0, auths := [1, 2, 3], contract_silent := zero_notMem_three_signers }

/-- Accounts `2` and `3` hold five million units each of token `9`. -/
def fundedLedger : TokenLedger Nat := fun token holder =>
  if token = 9 ∧ (holder = 2 ∨ holder = 3) then 5000000 else 0

/-- Account `2` mints against collateral, account `3` opens a trade at twice its
margin, the price rises by a fifth, and account `3` closes. -/
def profitableRun : List (Env Nat 0 × Operation Nat) :=
  [(signed, .initializeAssets 1 1 9 15000 12000 500 100),
    (signed, .registerSyntheticAsset "GOLD" "Gold" 7 100000000),
    (signed, .mintSynthetic 2 "GOLD" 1500000 1000000),
    (signed, .openTrade 3 "GOLD" .long 1000000 20000),
    (signed, .updatePrice "GOLD" 120000000 100), (signed, .closeTrade 3 2)]

theorem solvent_iff_closes_covered_at_profit :
    (machine standardHost 0).Always (Solvent 0) { ledger := fundedLedger } profitableRun ↔
      (machine standardHost 0).Meets (ClosesCovered 0) { ledger := fundedLedger } profitableRun :=
  solvent_iff_closes_covered fundedLedger profitableRun (by decide)

/-- The profit of `400000` is paid out of the collateral of account `2`: the pot
holds `1100000` against its `1500000`. -/
theorem profitable_close_breaks_solvency :
    ((machine standardHost 0).run { ledger := fundedLedger } profitableRun).backing = 1500000 ∧
      ((machine standardHost 0).run { ledger := fundedLedger } profitableRun).ledger 9 0 = 1100000 ∧
      ¬ (machine standardHost 0).Always (Solvent 0) { ledger := fundedLedger } profitableRun := by
  have backing : ((machine standardHost 0).run { ledger := fundedLedger }
      profitableRun).backing = 1500000 := rfl
  have held : ((machine standardHost 0).run { ledger := fundedLedger }
      profitableRun).ledger 9 0 = 1100000 := rfl
  refine ⟨backing, held, fun always => ?_⟩
  have covered := always.final 9 rfl
  unfold State.surplus at covered
  omega

end SorobanPlayground.SyntheticAssets
