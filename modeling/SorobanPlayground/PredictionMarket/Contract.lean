import SorobanPlayground.Host
import SorobanPlayground.PredictionMarket.Pricing

/-! # The prediction market

A market asks a question that an oracle answers. Plain markets only record stakes.
Conditional markets hold collateral against complete sets of outcome shares: the
shares of an outcome are in the market maker's reserve or with their owners, liquidity
shares are claims on the reserves, and after the resolution the shares of the winning
outcome redeem the collateral. A proposed resolution can be disputed against a bond.
-/

namespace SorobanPlayground.PredictionMarket

inductive MarketType where
  | binary
  | scalar
  | categorical
  deriving DecidableEq, Repr

inductive MarketStatus where
  | opened
  | resolved
  | cancelled
  deriving DecidableEq, Repr

structure Market (Address : Type) where
  id : Nat
  creator : Address
  question : String
  marketType : MarketType
  status : MarketStatus
  resolutionDeadline : Nat
  oracle : Address
  winningOutcome : Option Nat
  totalYesStake : Int
  totalNoStake : Int
  createdAt : Nat
  deriving DecidableEq, Repr

structure Position (Address : Type) where
  marketId : Nat
  trader : Address
  outcome : Nat
  stake : Int
  deriving DecidableEq, Repr

/-- Pending oracle result. -/
structure ResolutionProposal (Address : Type) where
  outcome : Nat
  proposedAt : Nat
  disputeDeadline : Nat
  disputer : Option Address
  disputeBond : Int
  deriving DecidableEq, Repr

def minOutcomes : Nat := 2

def maxOutcomes : Nat := 16

def maxDisputeWindow : Nat := 30 * 24 * 60 * 60

/-- The contract's storage and the token balances. -/
structure State (Address : Type) where
  admin : Option Address := none
  marketCount : Nat := 0
  markets : FiniteMap Nat (Market Address) := ∅
  positions : FiniteMap (Nat × Address) (Position Address) := ∅
  conditionalMarkets : FiniteMap Nat (ConditionalMarket Address) := ∅
  outcomeBalances : FiniteMap (Nat × Address × Nat) Int := ∅
  liquidityBalances : FiniteMap (Nat × Address) Int := ∅
  resolutions : FiniteMap Nat (ResolutionProposal Address) := ∅
  ledger : TokenLedger Address

variable {Address : Type} {contract : Address} (state : State Address)

def State.getMarket (id : Nat) : Outcome Error (Market Address) :=
  orError (state.markets.get id) .marketNotFound

def State.setMarket (market : Market Address) : State Address :=
  { state with markets := state.markets.set market.id market }

def State.getConditionalMarket (id : Nat) : Outcome Error (ConditionalMarket Address) :=
  orError (state.conditionalMarkets.get id) .conditionalMarketRequired

def State.setConditionalMarket (market : ConditionalMarket Address) : State Address :=
  { state with conditionalMarkets := state.conditionalMarkets.set market.marketId market }

def State.setResolution (id : Nat) (proposal : ResolutionProposal Address) : State Address :=
  { state with resolutions := state.resolutions.set id proposal }

def State.withLedger (ledger : TokenLedger Address) : State Address := { state with ledger }

variable [DecidableEq Address]

def State.setPosition (position : Position Address) : State Address :=
  { state with positions := state.positions.set (position.marketId, position.trader) position }

def State.getOutcomeBalance (id : Nat) (owner : Address) (outcome : Nat) : Int :=
  (state.outcomeBalances.get (id, owner, outcome)).getD 0

def State.setOutcomeBalance (id : Nat) (owner : Address) (outcome : Nat) (balance : Int) :
    State Address :=
  { state with outcomeBalances := state.outcomeBalances.set (id, owner, outcome) balance }

def State.getLiquidityBalance (id : Nat) (owner : Address) : Int :=
  (state.liquidityBalances.get (id, owner)).getD 0

def State.setLiquidityBalance (id : Nat) (owner : Address) (balance : Int) : State Address :=
  { state with liquidityBalances := state.liquidityBalances.set (id, owner) balance }

variable (env : Env Address contract) (state : State Address)

def ensureInitialized : Outcome Error Unit := ensure (state.admin.isSome = true) .notInitialized

def ensureTradingOpen (market : Market Address) : Outcome Error Unit := do
  ensure (¬ (market.status ≠ .opened ∨ (state.resolutions.get market.id).isSome = true))
    .marketAlreadyResolved
  ensure (env.timestamp < market.resolutionDeadline) .marketExpired

/-- The next market id. -/
def incrementMarketCount : Outcome Error Nat := inUnsigned u32Max .trap (state.marketCount + 1)

variable (tokens : TokenHost Address) (env : Env Address contract)

def initializeMarkets (admin : Address) (state : State Address) :
    Outcome Error (State Address) := do
  ensure (state.admin.isSome = false) .alreadyInitialized
  requireAuth env admin
  return { state with admin := some admin }

def parseMarketType (marketType : Nat) : Outcome Error MarketType :=
  match marketType with
  | 0 => .ok .binary
  | 1 => .ok .scalar
  | _ => .error (.error .invalidMarketType)

/-- Returns the id of the new market. -/
def createMarket (creator : Address) (question : String) (marketType resolutionDeadline : Nat)
    (oracle : Address) (state : State Address) : Outcome Error (Nat × State Address) := do
  ensureInitialized state
  requireAuth env creator
  ensure (env.timestamp < resolutionDeadline) .marketExpired
  let marketType ← parseMarketType marketType
  let id ← incrementMarketCount state
  let market : Market Address :=
    { id, creator, question, marketType, status := .opened, resolutionDeadline, oracle,
      winningOutcome := none, totalYesStake := 0, totalNoStake := 0, createdAt := env.timestamp }
  return (id, { state.setMarket market with marketCount := id })

def accumulatePosition (trader : Address) (marketId outcome : Nat) (stake : Int)
    (existing : Option (Position Address)) : Outcome Error (Position Address) :=
  match existing with
  | some position => do
      ensure (position.outcome = outcome) .invalidOutcome
      let stake ← checkedAdd (.error .arithmeticOverflow) position.stake stake
      return { position with stake }
  | none => .ok { marketId, trader, outcome, stake }

def addStake (market : Market Address) (outcome : Nat) (stake : Int) :
    Outcome Error (Market Address) :=
  if outcome = 1 then do
    let totalYesStake ← checkedAdd (.error .arithmeticOverflow) market.totalYesStake stake
    return { market with totalYesStake }
  else do
    let totalNoStake ← checkedAdd (.error .arithmeticOverflow) market.totalNoStake stake
    return { market with totalNoStake }

def placeBet (trader : Address) (marketId outcome : Nat) (stake : Int) (state : State Address) :
    Outcome Error (State Address) := do
  ensureInitialized state
  requireAuth env trader
  ensure (0 < stake) .zeroStake
  ensure (outcome ≤ 1) .invalidOutcome
  let market ← state.getMarket marketId
  ensure (market.status = .opened) .marketAlreadyResolved
  ensure (env.timestamp < market.resolutionDeadline) .marketExpired
  let position ← accumulatePosition trader marketId outcome stake
    (state.positions.get (marketId, trader))
  let market ← addStake market outcome stake
  return (state.setPosition position).setMarket market

/-- A market with its final outcome. -/
def Market.resolve (market : Market Address) (outcome : Nat) : Market Address :=
  { market with status := .resolved, winningOutcome := some outcome }

def resolveMarket (marketId winningOutcome : Nat) (state : State Address) :
    Outcome Error (State Address) := do
  ensureInitialized state
  let market ← state.getMarket marketId
  ensure (state.conditionalMarkets.has marketId = false) .conditionalMarketRequired
  requireAuth env market.oracle
  ensure (market.status = .opened) .marketAlreadyResolved
  ensure (winningOutcome ≤ 1) .invalidOutcome
  return state.setMarket (market.resolve winningOutcome)

def cancelMarket (marketId : Nat) (state : State Address) : Outcome Error (State Address) := do
  ensureInitialized state
  let admin ← orError state.admin .notInitialized
  let market ← state.getMarket marketId
  ensure (state.conditionalMarkets.has marketId = false) .conditionalMarketRequired
  -- the admin's authorization is required also where the creator is not the admin
  requireAuth env (if admin = market.creator then market.creator else admin)
  ensure (market.status = .opened) .marketAlreadyResolved
  return state.setMarket { market with status := .cancelled }

/-- Whether all labels are nonempty and different. -/
def labelsValid : List String → Bool
  | [] => true
  | label :: labels => label ≠ "" && labels.all (label ≠ ·) && labelsValid labels

/-- Returns the id of the new market. -/
def createConditionalMarket (creator : Address) (question : String) (marketType : MarketType)
    (outcomes : List String) (resolutionDeadline : Nat)
    (oracle disputeResolver collateralToken : Address) (disputeWindow : Nat)
    (initialLiquidity : Int) (state : State Address) : Outcome Error (Nat × State Address) := do
  ensureInitialized state
  requireAuth env creator
  ensure (env.timestamp < resolutionDeadline) .marketExpired
  ensure (¬ (outcomes.length < minOutcomes ∨ maxOutcomes < outcomes.length)) .invalidOutcomeCount
  ensure (labelsValid outcomes = true) .invalidOutcome
  ensure (¬ (disputeWindow = 0 ∨ maxDisputeWindow < disputeWindow)) .invalidDisputeWindow
  ensure (0 < initialLiquidity) .invalidAmount
  let ledger ← tokens.pay state.ledger collateralToken creator contract initialLiquidity
  let id ← incrementMarketCount state
  let market : Market Address :=
    { id, creator, question, marketType, status := .opened, resolutionDeadline, oracle,
      winningOutcome := none, totalYesStake := 0, totalNoStake := 0, createdAt := env.timestamp }
  let conditional : ConditionalMarket Address :=
    { marketId := id, outcomes, collateralToken, disputeResolver, disputeWindow,
      minimumDisputeBond := max (initialLiquidity.tdiv 100) 1,
      poolBalances := List.replicate outcomes.length initialLiquidity,
      totalLiquidityShares := initialLiquidity, collateralLocked := initialLiquidity }
  return (id, { (((state.setMarket market).setConditionalMarket conditional).setLiquidityBalance
    id creator initialLiquidity).withLedger ledger with marketCount := id })

def createBinaryMarket (creator : Address) (question : String) (resolutionDeadline : Nat)
    (oracle disputeResolver collateralToken : Address) (disputeWindow : Nat)
    (initialLiquidity : Int) (state : State Address) : Outcome Error (Nat × State Address) :=
  createConditionalMarket tokens env creator question .binary ["NO", "YES"] resolutionDeadline
    oracle disputeResolver collateralToken disputeWindow initialLiquidity state

def createCategoricalMarket (creator : Address) (question : String) (outcomes : List String)
    (resolutionDeadline : Nat) (oracle disputeResolver collateralToken : Address)
    (disputeWindow : Nat) (initialLiquidity : Int) (state : State Address) :
    Outcome Error (Nat × State Address) :=
  createConditionalMarket tokens env creator question .categorical outcomes resolutionDeadline
    oracle disputeResolver collateralToken disputeWindow initialLiquidity state

variable (conditional : ConditionalMarket Address)

def ConditionalMarket.withPool (poolBalances : List Int) : ConditionalMarket Address :=
  { conditional with poolBalances }

def ConditionalMarket.withLiquidity (totalLiquidityShares : Int) : ConditionalMarket Address :=
  { conditional with totalLiquidityShares }

def ConditionalMarket.withCollateral (collateralLocked : Int) : ConditionalMarket Address :=
  { conditional with collateralLocked }

/-- Returns the shares bought. -/
def buyShares (buyer : Address) (marketId outcome : Nat) (collateralAmount minShares : Int)
    (state : State Address) : Outcome Error (Int × State Address) := do
  ensureInitialized state
  requireAuth env buyer
  let market ← state.getMarket marketId
  ensureTradingOpen env state market
  let conditional ← state.getConditionalMarket marketId
  let shares ← quoteBuyShares conditional outcome collateralAmount
  ensure (minShares ≤ shares) .slippageExceeded
  let ledger ← tokens.pay state.ledger conditional.collateralToken buyer contract collateralAmount
  let deepened ← conditional.poolBalances.mapM
    (checkedAdd (.error .arithmeticOverflow) · collateralAmount)
  let selected ← orError deepened[outcome]? .insufficientLiquidity
  let left ← checkedSub (.error .arithmeticOverflow) selected shares
  let collateralLocked ←
    checkedAdd (.error .arithmeticOverflow) conditional.collateralLocked collateralAmount
  let balance ← checkedAdd (.error .arithmeticOverflow)
    (state.getOutcomeBalance marketId buyer outcome) shares
  return (shares, ((state.setOutcomeBalance marketId buyer outcome balance).setConditionalMarket
    ((conditional.withPool (deepened.set outcome left)).withCollateral
      collateralLocked)).withLedger ledger)

/-- Returns the collateral paid out. -/
def sellShares (seller : Address) (marketId outcome : Nat) (shares minCollateral : Int)
    (state : State Address) : Outcome Error (Int × State Address) := do
  ensureInitialized state
  requireAuth env seller
  let market ← state.getMarket marketId
  ensureTradingOpen env state market
  let conditional ← state.getConditionalMarket marketId
  let collateral ← quoteSellShares conditional outcome shares
  ensure (minCollateral ≤ collateral) .slippageExceeded
  let held := state.getOutcomeBalance marketId seller outcome
  ensure (shares ≤ held) .insufficientShares
  let selected ← orError conditional.poolBalances[outcome]? .insufficientLiquidity
  let deepened ← checkedAdd (.error .arithmeticOverflow) selected shares
  let poolBalances ← (conditional.poolBalances.set outcome deepened).mapM
    (checkedSub (.error .arithmeticOverflow) · collateral)
  let collateralLocked ←
    checkedSub (.error .arithmeticOverflow) conditional.collateralLocked collateral
  let balance ← checkedSub (.error .arithmeticOverflow) held shares
  let ledger ← tokens.pay state.ledger conditional.collateralToken contract seller collateral
  return (collateral, ((state.setOutcomeBalance marketId seller outcome
    balance).setConditionalMarket ((conditional.withPool poolBalances).withCollateral
      collateralLocked)).withLedger ledger)

/-- One round of a mint. -/
def creditOutcome (marketId : Nat) (owner : Address) (amount : Int) (state : State Address)
    (outcome : Nat) : Outcome Error (State Address) := do
  let balance ← checkedAdd (.error .arithmeticOverflow)
    (state.getOutcomeBalance marketId owner outcome) amount
  return state.setOutcomeBalance marketId owner outcome balance

/-- One round of a redemption. -/
def debitOutcome (marketId : Nat) (owner : Address) (amount : Int) (state : State Address)
    (outcome : Nat) : Outcome Error (State Address) := do
  let balance ← checkedSub (.error .arithmeticOverflow)
    (state.getOutcomeBalance marketId owner outcome) amount
  return state.setOutcomeBalance marketId owner outcome balance

def mintCompleteSet (minter : Address) (marketId : Nat) (amount : Int) (state : State Address) :
    Outcome Error (State Address) := do
  ensureInitialized state
  requireAuth env minter
  ensure (0 < amount) .invalidAmount
  let market ← state.getMarket marketId
  ensureTradingOpen env state market
  let conditional ← state.getConditionalMarket marketId
  let ledger ← tokens.pay state.ledger conditional.collateralToken minter contract amount
  let credited ← (List.range conditional.outcomes.length).foldlM
    (creditOutcome marketId minter amount) state
  let collateralLocked ←
    checkedAdd (.error .arithmeticOverflow) conditional.collateralLocked amount
  return (credited.setConditionalMarket (conditional.withCollateral collateralLocked)).withLedger
    ledger

def redeemCompleteSet (owner : Address) (marketId : Nat) (amount : Int) (state : State Address) :
    Outcome Error (State Address) := do
  ensureInitialized state
  requireAuth env owner
  ensure (0 < amount) .invalidAmount
  let market ← state.getMarket marketId
  ensure (¬ (market.status ≠ .opened ∨ (state.resolutions.get marketId).isSome = true))
    .marketAlreadyResolved
  let conditional ← state.getConditionalMarket marketId
  ensure (∀ outcome < conditional.outcomes.length,
    amount ≤ state.getOutcomeBalance marketId owner outcome) .insufficientShares
  let debited ← (List.range conditional.outcomes.length).foldlM
    (debitOutcome marketId owner amount) state
  let collateralLocked ←
    checkedSub (.error .arithmeticOverflow) conditional.collateralLocked amount
  let ledger ← tokens.pay state.ledger conditional.collateralToken contract owner amount
  return (debited.setConditionalMarket (conditional.withCollateral collateralLocked)).withLedger
    ledger

/-- One round of the least share of a deposit in the reserves. -/
def lowerMinted (collateralAmount totalLiquidityShares minted reserve : Int) :
    Outcome Error Int := do
  ensure (0 < reserve) .insufficientLiquidity
  let candidate ← mulDivFloor collateralAmount totalLiquidityShares reserve
  return min candidate minted

/-- Returns the liquidity shares minted. -/
def addLiquidity (provider : Address) (marketId : Nat) (collateralAmount minLiquidityShares : Int)
    (state : State Address) : Outcome Error (Int × State Address) := do
  ensureInitialized state
  requireAuth env provider
  let market ← state.getMarket marketId
  ensureTradingOpen env state market
  ensure (0 < collateralAmount) .invalidAmount
  let conditional ← state.getConditionalMarket marketId
  let minted ← conditional.poolBalances.foldlM
    (lowerMinted collateralAmount conditional.totalLiquidityShares) i128Max
  ensure (¬ (minted ≤ 0 ∨ minted < minLiquidityShares)) .slippageExceeded
  let ledger ←
    tokens.pay state.ledger conditional.collateralToken provider contract collateralAmount
  let poolBalances ← conditional.poolBalances.mapM
    (checkedAdd (.error .arithmeticOverflow) · collateralAmount)
  let totalLiquidityShares ←
    checkedAdd (.error .arithmeticOverflow) conditional.totalLiquidityShares minted
  let collateralLocked ←
    checkedAdd (.error .arithmeticOverflow) conditional.collateralLocked collateralAmount
  let balance ← checkedAdd (.error .arithmeticOverflow)
    (state.getLiquidityBalance marketId provider) minted
  return (minted, ((state.setLiquidityBalance marketId provider balance).setConditionalMarket
    (((conditional.withPool poolBalances).withLiquidity totalLiquidityShares).withCollateral
      collateralLocked)).withLedger ledger)

/-- A withdrawal in progress: the reserves left, the balances and the amounts
withdrawn so far. -/
structure Withdrawal (Address : Type) where
  poolBalances : List Int
  state : State Address
  withdrawn : List Int

def withdrawOutcome (provider : Address) (marketId : Nat)
    (liquidityShares totalLiquidityShares : Int) (progress : Withdrawal Address)
    (outcome : Nat) : Outcome Error (Withdrawal Address) := do
  let reserve ← orError progress.poolBalances[outcome]? .insufficientLiquidity
  let amount ← mulDivFloor reserve liquidityShares totalLiquidityShares
  ensure (0 < amount) .invalidAmount
  let left ← checkedSub (.error .arithmeticOverflow) reserve amount
  let balance ← checkedAdd (.error .arithmeticOverflow)
    (progress.state.getOutcomeBalance marketId provider outcome) amount
  return {
    poolBalances := progress.poolBalances.set outcome left
    state := progress.state.setOutcomeBalance marketId provider outcome balance
    withdrawn := progress.withdrawn ++ [amount] }

/-- Returns the outcome shares withdrawn. -/
def removeLiquidity (provider : Address) (marketId : Nat) (liquidityShares : Int)
    (state : State Address) : Outcome Error (List Int × State Address) := do
  ensureInitialized state
  requireAuth env provider
  let market ← state.getMarket marketId
  ensure (market.status ≠ .cancelled) .marketAlreadyResolved
  ensure (0 < liquidityShares) .invalidAmount
  let conditional ← state.getConditionalMarket marketId
  let providerBalance := state.getLiquidityBalance marketId provider
  ensure (liquidityShares ≤ providerBalance) .insufficientLiquidity
  let final ← (List.range conditional.poolBalances.length).foldlM
    (withdrawOutcome provider marketId liquidityShares conditional.totalLiquidityShares)
    { poolBalances := conditional.poolBalances, state, withdrawn := [] }
  let totalLiquidityShares ←
    checkedSub (.error .arithmeticOverflow) conditional.totalLiquidityShares liquidityShares
  let balance ← checkedSub (.error .arithmeticOverflow) providerBalance liquidityShares
  return (final.withdrawn, (final.state.setLiquidityBalance marketId provider
    balance).setConditionalMarket ((conditional.withPool final.poolBalances).withLiquidity
      totalLiquidityShares))

def proposeResolution (marketId outcome : Nat) (state : State Address) :
    Outcome Error (State Address) := do
  ensureInitialized state
  let market ← state.getMarket marketId
  requireAuth env market.oracle
  ensure (market.status = .opened) .marketAlreadyResolved
  let conditional ← state.getConditionalMarket marketId
  validateOutcome conditional outcome
  ensure (market.resolutionDeadline ≤ env.timestamp) .resolutionTooEarly
  ensure ((state.resolutions.get marketId).isSome = false) .marketAlreadyResolved
  let disputeDeadline ← inUnsigned u64Max (.error .arithmeticOverflow)
    (env.timestamp + conditional.disputeWindow)
  return state.setResolution marketId
    { outcome, proposedAt := env.timestamp, disputeDeadline, disputer := none, disputeBond := 0 }

def disputeResolution (challenger : Address) (marketId : Nat) (bond : Int) (state : State Address) :
    Outcome Error (State Address) := do
  ensureInitialized state
  requireAuth env challenger
  ensure (0 < bond) .invalidAmount
  let market ← state.getMarket marketId
  ensure (market.status = .opened) .marketAlreadyResolved
  let conditional ← state.getConditionalMarket marketId
  let proposal ← orError (state.resolutions.get marketId) .resolutionNotProposed
  ensure (env.timestamp < proposal.disputeDeadline) .disputeWindowClosed
  ensure (proposal.disputer.isSome = false) .resolutionAlreadyDisputed
  ensure (conditional.minimumDisputeBond ≤ bond) .disputeBondTooSmall
  let ledger ← tokens.pay state.ledger conditional.collateralToken challenger contract bond
  return (state.setResolution marketId
    { proposal with disputer := some challenger, disputeBond := bond }).withLedger ledger

def finalizeResolution (marketId : Nat) (state : State Address) :
    Outcome Error (State Address) := do
  ensureInitialized state
  let market ← state.getMarket marketId
  ensure (market.status = .opened) .marketAlreadyResolved
  let _ ← state.getConditionalMarket marketId
  let proposal ← orError (state.resolutions.get marketId) .resolutionNotProposed
  ensure (proposal.disputer.isSome = false) .resolutionAlreadyDisputed
  ensure (proposal.disputeDeadline ≤ env.timestamp) .disputeWindowActive
  return state.setMarket (market.resolve proposal.outcome)

def resolveDispute (marketId finalOutcome : Nat) (state : State Address) :
    Outcome Error (State Address) := do
  ensureInitialized state
  let market ← state.getMarket marketId
  ensure (market.status = .opened) .marketAlreadyResolved
  let conditional ← state.getConditionalMarket marketId
  requireAuth env conditional.disputeResolver
  validateOutcome conditional finalOutcome
  let proposal ← orError (state.resolutions.get marketId) .resolutionNotProposed
  let challenger ← orError proposal.disputer .resolutionNotDisputed
  let bondRecipient := if finalOutcome = proposal.outcome then market.oracle else challenger
  let ledger ← tokens.pay state.ledger conditional.collateralToken contract bondRecipient
    proposal.disputeBond
  return (state.setMarket (market.resolve finalOutcome)).withLedger ledger

def redeemWinnings (owner : Address) (marketId : Nat) (amount : Int) (state : State Address) :
    Outcome Error (State Address) := do
  ensureInitialized state
  requireAuth env owner
  ensure (0 < amount) .invalidAmount
  let market ← state.getMarket marketId
  ensure (market.status = .resolved) .marketNotResolved
  let outcome ← orError market.winningOutcome .marketNotResolved
  let conditional ← state.getConditionalMarket marketId
  let held := state.getOutcomeBalance marketId owner outcome
  ensure (amount ≤ held) .insufficientShares
  let balance ← checkedSub (.error .arithmeticOverflow) held amount
  let collateralLocked ←
    checkedSub (.error .arithmeticOverflow) conditional.collateralLocked amount
  let ledger ← tokens.pay state.ledger conditional.collateralToken contract owner amount
  return ((state.setOutcomeBalance marketId owner outcome balance).setConditionalMarket
    (conditional.withCollateral collateralLocked)).withLedger ledger

/-- The calls of the contract that write its storage, and the transfers that
holders make outside it. -/
inductive Operation (Address : Type) where
  | initializeMarkets (admin : Address)
  | createMarket (creator : Address) (question : String) (marketType resolutionDeadline : Nat)
      (oracle : Address)
  | createBinaryMarket (creator : Address) (question : String) (resolutionDeadline : Nat)
      (oracle disputeResolver collateralToken : Address) (disputeWindow : Nat)
      (initialLiquidity : Int)
  | createCategoricalMarket (creator : Address) (question : String) (outcomes : List String)
      (resolutionDeadline : Nat) (oracle disputeResolver collateralToken : Address)
      (disputeWindow : Nat) (initialLiquidity : Int)
  | buyShares (buyer : Address) (marketId outcome : Nat) (collateralAmount minShares : Int)
  | sellShares (seller : Address) (marketId outcome : Nat) (shares minCollateral : Int)
  | mintCompleteSet (minter : Address) (marketId : Nat) (amount : Int)
  | addLiquidity (provider : Address) (marketId : Nat)
      (collateralAmount minLiquidityShares : Int)
  | removeLiquidity (provider : Address) (marketId : Nat) (liquidityShares : Int)
  | redeemCompleteSet (owner : Address) (marketId : Nat) (amount : Int)
  | proposeResolution (marketId outcome : Nat)
  | disputeResolution (challenger : Address) (marketId : Nat) (bond : Int)
  | finalizeResolution (marketId : Nat)
  | resolveDispute (marketId finalOutcome : Nat)
  | redeemWinnings (owner : Address) (marketId : Nat) (amount : Int)
  | placeBet (trader : Address) (marketId outcome : Nat) (stake : Int)
  | resolveMarket (marketId winningOutcome : Nat)
  | cancelMarket (marketId : Nat)
  | transfer (token source destination : Address) (amount : Int)

def dispatch (state : State Address) (call : Env Address contract × Operation Address) :
    Outcome Error (State Address) :=
  match call.2 with
  | .initializeMarkets admin => initializeMarkets call.1 admin state
  | .createMarket creator question marketType resolutionDeadline oracle => Prod.snd <$>
      createMarket call.1 creator question marketType resolutionDeadline oracle state
  | .createBinaryMarket creator question resolutionDeadline oracle disputeResolver
      collateralToken disputeWindow initialLiquidity => Prod.snd <$>
      createBinaryMarket tokens call.1 creator question resolutionDeadline oracle
        disputeResolver collateralToken disputeWindow initialLiquidity state
  | .createCategoricalMarket creator question outcomes resolutionDeadline oracle
      disputeResolver collateralToken disputeWindow initialLiquidity => Prod.snd <$>
      createCategoricalMarket tokens call.1 creator question outcomes resolutionDeadline oracle
        disputeResolver collateralToken disputeWindow initialLiquidity state
  | .buyShares buyer marketId outcome collateralAmount minShares => Prod.snd <$>
      buyShares tokens call.1 buyer marketId outcome collateralAmount minShares state
  | .sellShares seller marketId outcome shares minCollateral => Prod.snd <$>
      sellShares tokens call.1 seller marketId outcome shares minCollateral state
  | .mintCompleteSet minter marketId amount =>
      mintCompleteSet tokens call.1 minter marketId amount state
  | .addLiquidity provider marketId collateralAmount minLiquidityShares => Prod.snd <$>
      addLiquidity tokens call.1 provider marketId collateralAmount minLiquidityShares state
  | .removeLiquidity provider marketId liquidityShares => Prod.snd <$>
      removeLiquidity call.1 provider marketId liquidityShares state
  | .redeemCompleteSet owner marketId amount =>
      redeemCompleteSet tokens call.1 owner marketId amount state
  | .proposeResolution marketId outcome => proposeResolution call.1 marketId outcome state
  | .disputeResolution challenger marketId bond =>
      disputeResolution tokens call.1 challenger marketId bond state
  | .finalizeResolution marketId => finalizeResolution call.1 marketId state
  | .resolveDispute marketId finalOutcome =>
      resolveDispute tokens call.1 marketId finalOutcome state
  | .redeemWinnings owner marketId amount =>
      redeemWinnings tokens call.1 owner marketId amount state
  | .placeBet trader marketId outcome stake =>
      placeBet call.1 trader marketId outcome stake state
  | .resolveMarket marketId winningOutcome => resolveMarket call.1 marketId winningOutcome state
  | .cancelMarket marketId => cancelMarket call.1 marketId state
  | .transfer token source destination amount => do
      let ledger ← tokens.payAs call.1 state.ledger token source destination amount
      return state.withLedger ledger

def machine (contract : Address) :
    CallMachine (State Address) (Env Address contract × Operation Address) (Failure Error) where
  exec := dispatch tokens

end SorobanPlayground.PredictionMarket
