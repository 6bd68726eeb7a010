import SorobanPlayground.Host

/-! # The synthetic assets contract

Users mint synthetic assets against collateral and open leveraged trades on the
price of an asset. Collateral and trading margins are paid in one token and held
in one balance. Prices come from an oracle and are stored with a limited life.
-/

namespace SorobanPlayground.SyntheticAssets

abbrev Symbol := String

inductive Error where
  | alreadyInitialized
  | notInitialized
  | unauthorized
  | assetAlreadyRegistered
  | assetNotRegistered
  | invalidPrice
  | stalePrice
  | invalidAmount
  | insufficientBalance
  | insufficientCollateral
  | positionNotFound
  | positionUndercollateralized
  | positionNotLiquidatable
  | positionAlreadyClosed
  | excessiveRepayAmount
  | noLiquidatablePositions
  | invalidCollateralRatio
  | invalidLiquidationThreshold
  | invalidLiquidationBonus
  | invalidFeePercentage
  | invalidLeverage
  | insufficientMargin
  | positionLiquidated
  | priceNotAvailable
  | lowConfidence
  | overflow
  | divisionByZero
  deriving DecidableEq, Repr

structure SyntheticAsset where
  symbol : Symbol
  name : String
  decimals : Nat
  totalSupply : Int
  deriving DecidableEq, Repr

structure CollateralPosition (Address : Type) where
  user : Address
  assetSymbol : Symbol
  collateralAmount : Int
  mintedAmount : Int
  positionId : Nat
  createdAt : Nat
  lastUpdated : Nat
  deriving DecidableEq, Repr

inductive TradeDirection where
  | long
  | short
  deriving DecidableEq, Repr

structure TradingPosition (Address : Type) where
  user : Address
  assetSymbol : Symbol
  direction : TradeDirection
  entryPrice : Int
  margin : Int
  leverage : Nat
  notional : Int
  positionId : Nat
  isOpen : Bool
  createdAt : Nat
  deriving DecidableEq, Repr

structure PriceData where
  price : Int
  timestamp : Nat
  confidence : Nat
  deriving DecidableEq, Repr

/-- The contract's storage and the token balances. -/
structure State (Address : Type) where
  admin : Option Address := none
  oracle : Option Address := none
  collateralToken : Option Address := none
  initialized : Bool := false
  positionCounter : Nat := 1
  assetSymbols : List Symbol := []
  minCollateralRatio : Option Nat := none
  liquidationThreshold : Option Nat := none
  liquidationBonus : Option Nat := none
  feePercentage : Option Nat := none
  assets : FiniteMap Symbol SyntheticAsset := ∅
  collateralPositions : FiniteMap Nat (CollateralPosition Address) := ∅
  tradingPositions : FiniteMap Nat (TradingPosition Address) := ∅
  prices : FiniteMap Symbol PriceData := ∅
  ledger : TokenLedger Address

variable {Address : Type} {contract : Address} (state : State Address)

def State.getAdmin : Outcome Error Address := orError state.admin .notInitialized

def State.getOracleAddress : Outcome Error Address := orError state.oracle .notInitialized

def State.getCollateralToken : Outcome Error Address :=
  orError state.collateralToken .notInitialized

def State.getMinCollateralRatio : Outcome Error Nat :=
  orError state.minCollateralRatio .notInitialized

def State.getLiquidationThreshold : Outcome Error Nat :=
  orError state.liquidationThreshold .notInitialized

def State.getLiquidationBonus : Outcome Error Nat := orError state.liquidationBonus .notInitialized

def State.incrementPositionCounter (amount : Nat) : Outcome Error (State Address) := do
  let positionCounter ← inUnsigned u64Max (.error .overflow) (state.positionCounter + amount)
  return { state with positionCounter }

def State.hasSyntheticAsset (symbol : Symbol) : Bool := state.assets.has symbol

def State.getSyntheticAsset (symbol : Symbol) : Outcome Error SyntheticAsset :=
  orError (state.assets.get symbol) .assetNotRegistered

def State.setSyntheticAsset (symbol : Symbol) (asset : SyntheticAsset) : State Address :=
  { state with assets := state.assets.set symbol asset }

def State.addRegisteredAssetSymbol (symbol : Symbol) : State Address :=
  { state with assetSymbols := state.assetSymbols ++ [symbol] }

def State.getCollateralPosition (id : Nat) : Outcome Error (CollateralPosition Address) :=
  orError (state.collateralPositions.get id) .positionNotFound

def State.setCollateralPosition (id : Nat) (position : CollateralPosition Address) :
    State Address :=
  { state with collateralPositions := state.collateralPositions.set id position }

def State.removeCollateralPosition (id : Nat) : State Address :=
  { state with collateralPositions := state.collateralPositions.remove id }

def State.getTradingPosition (id : Nat) : Outcome Error (TradingPosition Address) :=
  orError (state.tradingPositions.get id) .positionNotFound

def State.setTradingPosition (id : Nat) (position : TradingPosition Address) : State Address :=
  { state with tradingPositions := state.tradingPositions.set id position }

def State.removeTradingPosition (id : Nat) : State Address :=
  { state with tradingPositions := state.tradingPositions.remove id }

def State.getPrice (symbol : Symbol) : Outcome Error PriceData :=
  orError (state.prices.get symbol) .priceNotAvailable

def State.setPrice (symbol : Symbol) (priceData : PriceData) : State Address :=
  { state with prices := state.prices.set symbol priceData }

def State.withLedger (ledger : TokenLedger Address) : State Address := { state with ledger }

/-- A position without minted assets is removed, any other one written back. -/
def State.writeBack (id : Nat) (position : CollateralPosition Address) : State Address :=
  if position.mintedAmount = 0 then state.removeCollateralPosition id
  else state.setCollateralPosition id position

def priceScale : Int := 100000000

/-- The age in seconds beyond which a price is stale. -/
def maxPriceAge : Nat := 300

def minConfidence : Nat := 50

/-- The largest deviation of one update, in basis points. -/
def maxSingleUpdateDeviation : Nat := 2000

def minPrice : Int := 1

def maxPrice : Int := i128Max / 10000

def validatePrice (price : Int) (confidence : Nat) : Outcome Error Unit := do
  ensure (minPrice ≤ price) .invalidPrice
  ensure (price ≤ maxPrice) .invalidPrice
  ensure (confidence ≤ 100) .invalidPrice
  ensure (minConfidence ≤ confidence) .lowConfidence

/-- The deviation of two prices in basis points of the old one. -/
def calculatePriceDeviation (oldPrice newPrice : Int) : Outcome Error Nat := do
  ensure (¬ (oldPrice ≤ 0 ∨ newPrice ≤ 0)) .invalidPrice
  let diff ← if oldPrice ≤ newPrice then checkedSub (.error .overflow) newPrice oldPrice
    else checkedSub (.error .overflow) oldPrice newPrice
  let scaledDiff ← checkedMul (.error .overflow) diff 10000
  let scaled ← checkedDiv (.error .overflow) scaledDiff oldPrice
  ensure (scaled ≤ u32Max) .overflow
  return castU32 scaled

/-- An update of an available price deviates from it by a bounded amount. -/
def checkDeviation (available : Option PriceData) (newPrice : Int) : Outcome Error Unit :=
  match available with
  | none => .ok ()
  | some oldPriceData => do
      let deviation ← calculatePriceDeviation oldPriceData.price newPrice
      ensure (deviation ≤ maxSingleUpdateDeviation) .invalidPrice

def updatePriceInternal (env : Env Address contract) (symbol : Symbol) (newPrice : Int)
    (confidence : Nat) (state : State Address) : Outcome Error (State Address) := do
  validatePrice newPrice confidence
  checkDeviation (state.prices.get symbol) newPrice
  return state.setPrice symbol { price := newPrice, timestamp := env.timestamp, confidence }

def getPriceInternal (env : Env Address contract) (state : State Address) (symbol : Symbol) :
    Outcome Error Int := do
  let priceData ← state.getPrice symbol
  let expiry ← inUnsigned u64Max (.error .overflow) (priceData.timestamp + maxPriceAge)
  ensure (env.timestamp ≤ expiry) .stalePrice
  ensure (minConfidence ≤ priceData.confidence) .lowConfidence
  ensure (0 < priceData.price) .invalidPrice
  ensure (¬ (priceData.price < minPrice ∨ maxPrice < priceData.price)) .invalidPrice
  return priceData.price

/-- The ratio of a position whose debt is worth less than one unit. -/
def maxCollateralRatio : Int := 9223372036854775807

/-- The ratio of collateral to debt in basis points. -/
def calculateCollateralRatio (collateralAmount mintedAmount price : Int) : Outcome Error Int := do
  ensure (¬ (mintedAmount = 0 ∨ price = 0)) .invalidAmount
  let scaledDebt ← checkedMul (.error .overflow) mintedAmount price
  let debtValue ← checkedDiv (.error .overflow) scaledDebt priceScale
  if debtValue = 0 then return maxCollateralRatio
  else do
    let scaled ← checkedMul (.error .overflow) collateralAmount 10000
    let ratio ← checkedDiv (.error .divisionByZero) scaled debtValue
    return min ratio maxCollateralRatio

/-- Whether a position can be liquidated, as the source names it. -/
def isAboveLiquidationThreshold (state : State Address) (position : CollateralPosition Address)
    (price : Int) : Outcome Error Bool := do
  let threshold ← state.getLiquidationThreshold
  let ratio ← calculateCollateralRatio position.collateralAmount position.mintedAmount price
  return decide (ratio ≤ threshold)

/-- The repaid share of the collateral with a bonus, at most all of it. -/
def calculateLiquidationReward (repayAmount price totalCollateral totalMinted : Int)
    (bonusBps : Nat) : Outcome Error Int := do
  ensure (¬ (repayAmount ≤ 0 ∨ price ≤ 0)) .invalidAmount
  ensure (totalMinted ≠ 0) .invalidAmount
  let scaledShare ← checkedMul (.error .overflow) repayAmount totalCollateral
  let collateralShare ← checkedDiv (.error .divisionByZero) scaledShare totalMinted
  let scaledBonus ← checkedMul (.error .overflow) collateralShare bonusBps
  let bonus ← checkedDiv (.error .divisionByZero) scaledBonus 10000
  let reward ← checkedAdd (.error .overflow) collateralShare bonus
  return if totalCollateral < reward then totalCollateral else reward

/-- The collateral that a mint needs, rounded up. -/
def calculateRequiredCollateral (mintAmount price : Int) (minRatioBps : Nat) :
    Outcome Error Int := do
  ensure (¬ (mintAmount ≤ 0 ∨ price ≤ 0)) .invalidAmount
  let debt ← checkedMul (.error .overflow) mintAmount price
  let numerator ← checkedMul (.error .overflow) debt minRatioBps
  let denominator ← checkedMul (.error .overflow) priceScale 10000
  let raised ← checkedAdd (.error .overflow) numerator denominator
  let lowered ← checkedSub (.error .overflow) raised 1
  checkedDiv (.error .divisionByZero) lowered denominator

def minTradeMargin : Int := 250000

/-- The profit or loss of a position at a price. -/
def calculatePnl (position : TradingPosition Address) (currentPrice : Int) :
    Outcome Error Int := do
  ensure (¬ (position.entryPrice ≤ 0 ∨ currentPrice ≤ 0)) .invalidPrice
  let priceDiff ← match position.direction with
    | .long => checkedSub (.error .overflow) currentPrice position.entryPrice
    | .short => checkedSub (.error .overflow) position.entryPrice currentPrice
  let scaled ← checkedMul (.error .overflow) priceDiff position.notional
  checkedDiv (.error .divisionByZero) scaled position.entryPrice

/-- A tenth of the notional, at least the minimum margin. -/
def calculateMarginRequirement (notional : Int) : Outcome Error Int := do
  ensure (0 < notional) .invalidAmount
  let scaled ← checkedMul (.error .overflow) notional 1000
  let minMargin ← checkedDiv (.error .divisionByZero) scaled 10000
  return max minMargin minTradeMargin

/-- Whether the losses of a position have used up its margin. -/
def shouldLiquidateTradingPosition (position : TradingPosition Address) (currentPrice : Int) :
    Outcome Error Bool := do
  let pnl ← calculatePnl position currentPrice
  let combined ← checkedAdd (.error .overflow) position.margin pnl
  return decide (combined ≤ 0)

variable [DecidableEq Address]

/-- The bounds on the parameters, in basis points. -/
def validateParams (minCollateralRatio liquidationThreshold liquidationBonus feePercentage : Nat) :
    Outcome Error Unit := do
  ensure (¬ (minCollateralRatio < 10000 ∨ 50000 < minCollateralRatio)) .invalidCollateralRatio
  ensure (¬ (minCollateralRatio ≤ liquidationThreshold ∨ liquidationThreshold < 10000))
    .invalidLiquidationThreshold
  ensure (liquidationBonus ≤ 2000) .invalidLiquidationBonus
  ensure (feePercentage ≤ 1000) .invalidFeePercentage

variable (env : Env Address contract)

def initializeAssets (admin oracle collateralToken : Address)
    (minCollateralRatio liquidationThreshold liquidationBonus feePercentage : Nat)
    (state : State Address) : Outcome Error (State Address) := do
  ensure (state.initialized = false) .alreadyInitialized
  requireAuth env admin
  validateParams minCollateralRatio liquidationThreshold liquidationBonus feePercentage
  return { state with
    admin := some admin
    oracle := some oracle
    collateralToken := some collateralToken
    minCollateralRatio := some minCollateralRatio
    liquidationThreshold := some liquidationThreshold
    liquidationBonus := some liquidationBonus
    feePercentage := some feePercentage
    initialized := true
    positionCounter := 1 }

def registerSyntheticAsset (assetSymbol : Symbol) (assetName : String) (decimals : Nat)
    (initialPrice : Int) (state : State Address) : Outcome Error (State Address) := do
  let admin ← state.getAdmin
  requireAuth env admin
  ensure (state.hasSyntheticAsset assetSymbol = false) .assetAlreadyRegistered
  ensure (0 < initialPrice) .invalidPrice
  let asset : SyntheticAsset :=
    { symbol := assetSymbol, name := assetName, decimals, totalSupply := 0 }
  let registered :=
    (state.setSyntheticAsset assetSymbol asset).addRegisteredAssetSymbol assetSymbol
  return registered.setPrice assetSymbol
    { price := initialPrice, timestamp := env.timestamp, confidence := 100 }

def updateOracle (newOracle : Address) (state : State Address) : Outcome Error (State Address) := do
  let admin ← state.getAdmin
  requireAuth env admin
  return { state with oracle := some newOracle }

def updateCollateralToken (newToken : Address) (state : State Address) :
    Outcome Error (State Address) := do
  let admin ← state.getAdmin
  requireAuth env admin
  return { state with collateralToken := some newToken }

def updateProtocolParams
    (minCollateralRatio liquidationThreshold liquidationBonus feePercentage : Nat)
    (state : State Address) : Outcome Error (State Address) := do
  let admin ← state.getAdmin
  requireAuth env admin
  validateParams minCollateralRatio liquidationThreshold liquidationBonus feePercentage
  return { state with
    minCollateralRatio := some minCollateralRatio
    liquidationThreshold := some liquidationThreshold
    liquidationBonus := some liquidationBonus
    feePercentage := some feePercentage }

def updatePrice (assetSymbol : Symbol) (newPrice : Int) (confidence : Nat) (state : State Address) :
    Outcome Error (State Address) := do
  let admin ← state.getAdmin
  let oracle ← state.getOracleAddress
  requireAuth env (if admin = oracle then admin else oracle)
  ensure (state.hasSyntheticAsset assetSymbol = true) .assetNotRegistered
  updatePriceInternal env assetSymbol newPrice confidence state

variable (tokens : TokenHost Address) (env : Env Address contract)

def mintSynthetic (user : Address) (assetSymbol : Symbol) (collateralAmount mintAmount : Int)
    (state : State Address) : Outcome Error (State Address) := do
  requireAuth env user
  ensure (state.hasSyntheticAsset assetSymbol = true) .assetNotRegistered
  ensure (¬ (collateralAmount ≤ 0 ∨ mintAmount ≤ 0)) .invalidAmount
  let price ← getPriceInternal env state assetSymbol
  let minRatio ← state.getMinCollateralRatio
  let requiredCollateral ← calculateRequiredCollateral mintAmount price minRatio
  ensure (requiredCollateral ≤ collateralAmount) .insufficientCollateral
  let collateralToken ← state.getCollateralToken
  let ledger ← tokens.pay state.ledger collateralToken user contract collateralAmount
  let positionId := state.positionCounter
  let position : CollateralPosition Address :=
    { user, assetSymbol, collateralAmount, mintedAmount := mintAmount, positionId,
      createdAt := env.timestamp, lastUpdated := env.timestamp }
  let counted ← state.incrementPositionCounter 1
  let asset ← state.getSyntheticAsset assetSymbol
  let totalSupply ← checkedAdd (.error .overflow) asset.totalSupply mintAmount
  let recorded := counted.setCollateralPosition positionId position
  return (recorded.setSyntheticAsset assetSymbol { asset with totalSupply }).withLedger ledger

def addCollateral (user : Address) (positionId : Nat) (additionalCollateral : Int)
    (state : State Address) : Outcome Error (State Address) := do
  requireAuth env user
  ensure (0 < additionalCollateral) .invalidAmount
  let position ← state.getCollateralPosition positionId
  ensure (position.user = user) .unauthorized
  let collateralToken ← state.getCollateralToken
  let ledger ← tokens.pay state.ledger collateralToken user contract additionalCollateral
  let collateralAmount ←
    checkedAdd (.error .overflow) position.collateralAmount additionalCollateral
  let raised := { position with collateralAmount, lastUpdated := env.timestamp }
  return (state.setCollateralPosition positionId raised).withLedger ledger

/-- A partial burn leaves a position that meets the minimum ratio. -/
def ensureStillSafe (position : CollateralPosition Address) (state : State Address) :
    Outcome Error Unit := do
  let price ← getPriceInternal env state position.assetSymbol
  let ratio ← calculateCollateralRatio position.collateralAmount position.mintedAmount price
  let minRatio ← state.getMinCollateralRatio
  ensure ((minRatio : Int) ≤ ratio) .positionUndercollateralized

def burnSynthetic (user : Address) (positionId : Nat) (burnAmount : Int) (state : State Address) :
    Outcome Error (State Address) := do
  requireAuth env user
  ensure (0 < burnAmount) .invalidAmount
  let position ← state.getCollateralPosition positionId
  ensure (position.user = user) .unauthorized
  ensure (burnAmount ≤ position.mintedAmount) .insufficientBalance
  let scaled ← checkedMul (.error .overflow) burnAmount position.collateralAmount
  let collateralToReturn ← checkedDiv (.error .divisionByZero) scaled position.mintedAmount
  let mintedAmount ← checkedSub (.error .overflow) position.mintedAmount burnAmount
  let collateralAmount ←
    checkedSub (.error .overflow) position.collateralAmount collateralToReturn
  let burned : CollateralPosition Address :=
    { position with mintedAmount, collateralAmount, lastUpdated := env.timestamp }
  whenever (mintedAmount ≠ 0) (ensureStillSafe env burned state)
  let asset ← state.getSyntheticAsset position.assetSymbol
  let totalSupply ← checkedSub (.error .overflow) asset.totalSupply burnAmount
  let collateralToken ← state.getCollateralToken
  let ledger ← tokens.pay state.ledger collateralToken contract user collateralToReturn
  let written := state.writeBack positionId burned
  return (written.setSyntheticAsset position.assetSymbol { asset with totalSupply }).withLedger
    ledger

/-- Repay part of the debt of a position and take collateral with a bonus. -/
def liquidate (liquidator : Address) (positionId : Nat) (repayAmount : Int) (state : State Address)
    :
    Outcome Error (State Address) := do
  requireAuth env liquidator
  ensure (0 < repayAmount) .invalidAmount
  let position ← state.getCollateralPosition positionId
  let price ← getPriceInternal env state position.assetSymbol
  let liquidatable ← isAboveLiquidationThreshold state position price
  ensure (liquidatable = true) .positionNotLiquidatable
  ensure (repayAmount ≤ position.mintedAmount) .excessiveRepayAmount
  let bonus ← state.getLiquidationBonus
  let collateralReward ← calculateLiquidationReward repayAmount price position.collateralAmount
    position.mintedAmount bonus
  let collateralToken ← state.getCollateralToken
  let ledger ← tokens.pay state.ledger collateralToken contract liquidator collateralReward
  let mintedAmount ← checkedSub (.error .overflow) position.mintedAmount repayAmount
  let collateralAmount ← checkedSub (.error .overflow) position.collateralAmount collateralReward
  let seized : CollateralPosition Address :=
    { position with mintedAmount, collateralAmount, lastUpdated := env.timestamp }
  let asset ← state.getSyntheticAsset position.assetSymbol
  let totalSupply ← checkedSub (.error .overflow) asset.totalSupply repayAmount
  let written := state.writeBack positionId seized
  return (written.setSyntheticAsset position.assetSymbol { asset with totalSupply }).withLedger
    ledger

/-- Returns the id of the new position. -/
def openTrade (user : Address) (assetSymbol : Symbol) (direction : TradeDirection) (margin : Int)
    (leverage : Nat) (state : State Address) : Outcome Error (Nat × State Address) := do
  requireAuth env user
  ensure (state.hasSyntheticAsset assetSymbol = true) .assetNotRegistered
  ensure (0 < margin) .invalidAmount
  ensure (¬ (leverage < 10000 ∨ 100000 < leverage)) .invalidLeverage
  let price ← getPriceInternal env state assetSymbol
  let scaled ← checkedMul (.error .overflow) margin leverage
  let notional ← checkedDiv (.error .divisionByZero) scaled 10000
  let marginRequirement ← calculateMarginRequirement notional
  ensure (marginRequirement ≤ margin) .insufficientMargin
  let collateralToken ← state.getCollateralToken
  let ledger ← tokens.pay state.ledger collateralToken user contract margin
  let positionId := state.positionCounter
  let position : TradingPosition Address :=
    { user, assetSymbol, direction, entryPrice := price, margin, leverage, notional, positionId,
      isOpen := true, createdAt := env.timestamp }
  let counted ← state.incrementPositionCounter 1
  return (positionId, (counted.setTradingPosition positionId position).withLedger ledger)

/-- Settle a position whose margin is not used up. -/
def settleTrade (user : Address) (positionId : Nat) (position : TradingPosition Address)
    (currentPrice : Int) (contract : Address) (state : State Address) :
    Outcome Error (Int × State Address) := do
  let pnl ← calculatePnl position currentPrice
  let finalAmount ← checkedAdd (.error .overflow) position.margin pnl
  if finalAmount < 0 then return (0, state.removeTradingPosition positionId)
  else do
    let collateralToken ← state.getCollateralToken
    let ledger ← tokens.pay state.ledger collateralToken contract user finalAmount
    let closed := state.setTradingPosition positionId { position with isOpen := false }
    return (finalAmount, closed.withLedger ledger)

/-- Returns the amount that the trader is paid. -/
def closeTrade (user : Address) (positionId : Nat) (state : State Address) :
    Outcome Error (Int × State Address) := do
  requireAuth env user
  let position ← state.getTradingPosition positionId
  ensure (position.user = user) .unauthorized
  ensure (position.isOpen = true) .positionAlreadyClosed
  let currentPrice ← getPriceInternal env state position.assetSymbol
  let liquidated ← shouldLiquidateTradingPosition position currentPrice
  if liquidated then return (0, state.removeTradingPosition positionId)
  else settleTrade tokens user positionId position currentPrice contract state

/-- The calls of the contract that write its storage, with what else can happen
between them: a price outlives its storage, and holders move their tokens. -/
inductive Operation (Address : Type) where
  | initializeAssets (admin oracle collateralToken : Address)
      (minCollateralRatio liquidationThreshold liquidationBonus feePercentage : Nat)
  | registerSyntheticAsset (assetSymbol : Symbol) (assetName : String) (decimals : Nat)
      (initialPrice : Int)
  | updateOracle (newOracle : Address)
  | updateCollateralToken (newToken : Address)
  | updateProtocolParams
      (minCollateralRatio liquidationThreshold liquidationBonus feePercentage : Nat)
  | updatePrice (assetSymbol : Symbol) (newPrice : Int) (confidence : Nat)
  | mintSynthetic (user : Address) (assetSymbol : Symbol) (collateralAmount mintAmount : Int)
  | addCollateral (user : Address) (positionId : Nat) (additionalCollateral : Int)
  | burnSynthetic (user : Address) (positionId : Nat) (burnAmount : Int)
  | liquidate (liquidator : Address) (positionId : Nat) (repayAmount : Int)
  | openTrade (user : Address) (assetSymbol : Symbol) (direction : TradeDirection) (margin : Int)
      (leverage : Nat)
  | closeTrade (user : Address) (positionId : Nat)
  | expirePrice (assetSymbol : Symbol)
  | transfer (token source destination : Address) (amount : Int)

def dispatch (state : State Address) (call : Env Address contract × Operation Address) :
    Outcome Error (State Address) :=
  match call.2 with
  | .initializeAssets admin oracle collateralToken minCollateralRatio liquidationThreshold
      liquidationBonus feePercentage =>
      initializeAssets call.1 admin oracle collateralToken minCollateralRatio liquidationThreshold
        liquidationBonus feePercentage state
  | .registerSyntheticAsset assetSymbol assetName decimals initialPrice =>
      registerSyntheticAsset call.1 assetSymbol assetName decimals initialPrice state
  | .updateOracle newOracle => updateOracle call.1 newOracle state
  | .updateCollateralToken newToken => updateCollateralToken call.1 newToken state
  | .updateProtocolParams minCollateralRatio liquidationThreshold liquidationBonus feePercentage =>
      updateProtocolParams call.1 minCollateralRatio liquidationThreshold liquidationBonus
        feePercentage state
  | .updatePrice assetSymbol newPrice confidence =>
      updatePrice call.1 assetSymbol newPrice confidence state
  | .mintSynthetic user assetSymbol collateralAmount mintAmount =>
      mintSynthetic tokens call.1 user assetSymbol collateralAmount mintAmount state
  | .addCollateral user positionId additionalCollateral =>
      addCollateral tokens call.1 user positionId additionalCollateral state
  | .burnSynthetic user positionId burnAmount =>
      burnSynthetic tokens call.1 user positionId burnAmount state
  | .liquidate liquidator positionId repayAmount =>
      liquidate tokens call.1 liquidator positionId repayAmount state
  | .openTrade user assetSymbol direction margin leverage =>
      Prod.snd <$> openTrade tokens call.1 user assetSymbol direction margin leverage state
  | .closeTrade user positionId => Prod.snd <$> closeTrade tokens call.1 user positionId state
  | .expirePrice assetSymbol => .ok { state with prices := state.prices.remove assetSymbol }
  | .transfer token source destination amount => do
      let ledger ← tokens.payAs call.1 state.ledger token source destination amount
      return state.withLedger ledger

def machine (contract : Address) :
    CallMachine (State Address) (Env Address contract × Operation Address) (Failure Error) where
  exec := dispatch tokens

end SorobanPlayground.SyntheticAssets
