import SorobanPlayground.Host

/-! # The options protocol

Writers sell options to holders. A plain option is only recorded. A collateralized
one is settled in cash at its expiry and reserves margin of the writer's pooled
account, which anybody may rebalance against the latest price; where the account
cannot cover the position it is called.
-/

namespace SorobanPlayground.OptionsProtocol

inductive Error where
  | alreadyInitialized
  | notInitialized
  | unauthorized
  | optionNotFound
  | optionNotActive
  | optionExpired
  | optionNotExpired
  | invalidStrike
  | invalidPremium
  | invalidAmount
  | invalidExpiry
  | contractPaused
  | writerCannotBeHolder
  | poolAlreadyConfigured
  | poolNotConfigured
  | invalidMarginConfig
  | invalidPrice
  | stalePrice
  | insufficientMargin
  | positionNotCollateralized
  | europeanOnly
  | invalidMaxPayout
  | invalidVolatility
  | invalidRate
  | invalidTimeToExpiry
  | mathOverflow
  | marginCallNotActive
  deriving DecidableEq, Repr

/-- The right to buy or to sell. -/
inductive OptionKind where
  | call
  | put
  deriving DecidableEq, Repr

inductive OptionStatus where
  | active
  | exercised
  | expired
  | cancelled
  /-- The writer must add collateral before the position can be restored. -/
  | marginCalled
  deriving DecidableEq, Repr

/-- Token and risk controls of the margin pool. -/
structure MarginConfig (Address : Type) where
  settlementToken : Address
  oracle : Address
  maintenanceMarginBps : Nat
  maxPriceAge : Nat
  deriving DecidableEq, Repr

/-- A writer's token balance and the portion reserved by open positions. -/
structure MarginAccount where
  balance : Int := 0
  locked : Int := 0
  deriving DecidableEq, Repr

structure MarginPosition where
  locked : Int
  maxPayout : Int
  deriving DecidableEq, Repr

structure PriceData where
  price : Int
  updatedAt : Nat
  deriving DecidableEq, Repr

structure OptionContract (Address : Type) where
  id : Nat
  writer : Address
  holder : Address
  underlying : String
  strikePrice : Int
  premium : Int
  amount : Int
  expiry : Nat
  kind : OptionKind
  status : OptionStatus
  deriving DecidableEq, Repr

/-- The contract's storage, with the values that absent keys stand for, and the token balances. -/
structure State (Address : Type) where
  admin : Option Address := none
  optionCount : Nat := 0
  paused : Bool := false
  marginConfig : Option (MarginConfig Address) := none
  options : FiniteMap Nat (OptionContract Address) := ∅
  marginAccounts : FiniteMap Address MarginAccount := ∅
  marginPositions : FiniteMap Nat MarginPosition := ∅
  prices : FiniteMap String PriceData := ∅
  ledger : TokenLedger Address

variable {Address : Type} [DecidableEq Address] {contract : Address}

/-- Seven decimals. -/
def scale : Int := 10000000

def mul (a b : Int) : Outcome Error Int := do
  let value ← checkedMul (.error .mathOverflow) a b
  checkedDiv (.error .mathOverflow) value scale

def intrinsicValue (spot strike amount : Int) (kind : OptionKind) : Outcome Error Int :=
  let priceDifference := max
    (match kind with
      | .call => saturateI128 (spot - strike)
      | .put => saturateI128 (strike - spot)) 0
  mul priceDifference amount

/-- The intrinsic value and a maintenance margin on the notional, capped by the payout. -/
def requiredMargin (spot strike amount : Int) (kind : OptionKind) (maxPayout : Int)
    (maintenanceMarginBps : Nat) : Outcome Error Int := do
  let intrinsic ← intrinsicValue spot strike amount kind
  let notional ← mul spot amount
  let scaled ← checkedMul (.error .mathOverflow) notional maintenanceMarginBps
  let maintenance ← checkedDiv (.error .mathOverflow) scaled 10000
  let required ← checkedAdd (.error .mathOverflow) intrinsic maintenance
  return min required maxPayout

variable (state : State Address)

def State.getOption (id : Nat) : Outcome Error (OptionContract Address) :=
  orError (state.options.get id) .optionNotFound

def State.setOption (option : OptionContract Address) : State Address :=
  { state with options := state.options.set option.id option }

def State.getMarginConfig : Outcome Error (MarginConfig Address) :=
  orError state.marginConfig .poolNotConfigured

def State.getMarginAccount (writer : Address) : MarginAccount :=
  (state.marginAccounts.get writer).getD {}

def State.setMarginAccount (writer : Address) (account : MarginAccount) : State Address :=
  { state with marginAccounts := state.marginAccounts.set writer account }

def State.getMarginPosition (id : Nat) : Outcome Error MarginPosition :=
  orError (state.marginPositions.get id) .positionNotCollateralized

def State.hasMarginPosition (id : Nat) : Bool := state.marginPositions.has id

def State.setMarginPosition (id : Nat) (position : MarginPosition) : State Address :=
  { state with marginPositions := state.marginPositions.set id position }

def State.removeMarginPosition (id : Nat) : State Address :=
  { state with marginPositions := state.marginPositions.remove id }

def State.withLedger (ledger : TokenLedger Address) : State Address := { state with ledger }

def assertInitializedGuard : Outcome Error Unit :=
  ensure (state.admin.isSome = true) .notInitialized

def assertNotPaused : Outcome Error Unit := ensure (state.paused = false) .contractPaused

def assertAdmin (env : Env Address contract) (caller : Address) : Outcome Error Unit := do
  assertInitializedGuard state
  requireAuth env caller
  let admin ← orError state.admin .notInitialized
  ensure (caller = admin) .unauthorized

/-- The latest price, unless it is too old. -/
def freshPrice (env : Env Address contract) (underlying : String) (config : MarginConfig Address) :
    Outcome Error Int := do
  let observation ← orError (state.prices.get underlying) .invalidPrice
  let age ← checkedSubUnsigned (.error .invalidPrice) env.timestamp observation.updatedAt
  ensure (¬ config.maxPriceAge < age) .stalePrice
  return observation.price

variable (env : Env Address contract)

def validateOption (writer holder : Address) (strikePrice premium amount : Int) (expiry : Nat) :
    Outcome Error Unit := do
  ensure (¬ writer = holder) .writerCannotBeHolder
  ensure (¬ strikePrice ≤ 0) .invalidStrike
  ensure (¬ premium < 0) .invalidPremium
  ensure (¬ amount ≤ 0) .invalidAmount
  ensure (¬ expiry ≤ env.timestamp) .invalidExpiry

def initializeProtocol (admin : Address) (state : State Address) :
    Outcome Error (State Address) := do
  ensure (state.admin.isSome = false) .alreadyInitialized
  requireAuth env admin
  return { state with
    admin := some admin
    optionCount := 0
    paused := false }

def setPaused (admin : Address) (paused : Bool) (state : State Address) :
    Outcome Error (State Address) := do
  assertAdmin state env admin
  return { state with paused }

def configureMarginPool (admin settlementToken oracle : Address)
    (maintenanceMarginBps maxPriceAge : Nat) (state : State Address) :
    Outcome Error (State Address) := do
  assertAdmin state env admin
  ensure (state.marginConfig.isSome = false) .poolAlreadyConfigured
  ensure (¬ (maintenanceMarginBps = 0 ∨ 10000 < maintenanceMarginBps ∨ maxPriceAge = 0))
    .invalidMarginConfig
  return { state with
    marginConfig := some { settlementToken, oracle, maintenanceMarginBps, maxPriceAge } }

def updatePrice (oracle : Address) (underlying : String) (price : Int) (state : State Address) :
    Outcome Error (State Address) := do
  assertNotPaused state
  let config ← state.getMarginConfig
  requireAuth env oracle
  ensure (oracle = config.oracle) .unauthorized
  ensure (¬ price ≤ 0) .invalidPrice
  return { state with
    prices := state.prices.set underlying { price, updatedAt := env.timestamp } }

variable (tokens : TokenHost Address)

/-- `if amount > 0 { transfer }`. -/
def payPositive (ledger : TokenLedger Address) (token source destination : Address)
    (amount : Int) : Outcome Error (TokenLedger Address) :=
  if 0 < amount then tokens.pay ledger token source destination amount else .ok ledger

variable (env : Env Address contract)

def depositMargin (writer : Address) (amount : Int) (state : State Address) :
    Outcome Error (State Address) := do
  assertNotPaused state
  assertInitializedGuard state
  ensure (¬ amount ≤ 0) .invalidAmount
  requireAuth env writer
  let config ← state.getMarginConfig
  let account := state.getMarginAccount writer
  let balance ← checkedAdd (.error .mathOverflow) account.balance amount
  let ledger ← tokens.pay state.ledger config.settlementToken writer contract amount
  return (state.setMarginAccount writer { account with balance }).withLedger ledger

/-- Withdraw tokens that are not reserved by an open position. -/
def withdrawMargin (writer : Address) (amount : Int) (state : State Address) :
    Outcome Error (State Address) := do
  assertNotPaused state
  ensure (¬ amount ≤ 0) .invalidAmount
  requireAuth env writer
  let config ← state.getMarginConfig
  let account := state.getMarginAccount writer
  let available ← checkedSub (.error .mathOverflow) account.balance account.locked
  ensure (¬ available < amount) .insufficientMargin
  let balance ← checkedSub .trap account.balance amount
  let ledger ← tokens.pay state.ledger config.settlementToken contract writer amount
  return (state.setMarginAccount writer { account with balance }).withLedger ledger

/-- Write a plain option; returns its id. -/
def writeOption (writer holder : Address) (underlying : String) (strikePrice premium amount : Int)
    (expiry : Nat) (kind : OptionKind) (state : State Address) :
    Outcome Error (Nat × State Address) := do
  assertNotPaused state
  assertInitializedGuard state
  requireAuth env writer
  validateOption env writer holder strikePrice premium amount expiry
  let id ← inUnsigned u32Max .trap (state.optionCount + 1)
  let option : OptionContract Address :=
    { id, writer, holder, underlying, strikePrice, premium, amount, expiry, kind,
      status := .active }
  return (id, { state.setOption option with optionCount := id })

/-- Write an option backed by the margin pool; `maxPayout` caps the writer's liability. -/
def writeCollateralizedOption (writer holder : Address) (underlying : String)
    (strikePrice premium amount : Int) (expiry : Nat) (kind : OptionKind) (maxPayout : Int)
    (state : State Address) : Outcome Error (Nat × State Address) := do
  assertNotPaused state
  assertInitializedGuard state
  requireAuth env writer
  requireAuth env holder
  validateOption env writer holder strikePrice premium amount expiry
  ensure (¬ maxPayout ≤ 0) .invalidMaxPayout
  let config ← state.getMarginConfig
  let spot ← freshPrice state env underlying config
  let required ←
    requiredMargin spot strikePrice amount kind maxPayout config.maintenanceMarginBps
  let account := state.getMarginAccount writer
  let available ← checkedSub (.error .mathOverflow) account.balance account.locked
  ensure (¬ available < required) .insufficientMargin
  let ledger ← payPositive tokens state.ledger config.settlementToken holder writer premium
  let id ← inUnsigned u32Max (.error .mathOverflow) (state.optionCount + 1)
  let option : OptionContract Address :=
    { id, writer, holder, underlying, strikePrice, premium, amount, expiry, kind,
      status := .active }
  let locked ← checkedAdd (.error .mathOverflow) account.locked required
  let reserved := (state.setMarginAccount writer { account with locked }).setMarginPosition id
    { locked := required, maxPayout }
  return (id, { (reserved.setOption option).withLedger ledger with optionCount := id })

def cancelOption (writer : Address) (optionId : Nat) (state : State Address) :
    Outcome Error (State Address) := do
  assertInitializedGuard state
  requireAuth env writer
  let option ← state.getOption optionId
  ensure (option.writer = writer) .unauthorized
  ensure (state.hasMarginPosition optionId = false) .europeanOnly
  ensure (option.status = .active) .optionNotActive
  return state.setOption { option with status := .cancelled }

/-- Give the margin of a position back to the writer's account. -/
def releasePosition (option : OptionContract Address) (state : State Address) :
    Outcome Error (State Address) :=
  if state.hasMarginPosition option.id = false then .ok state
  else do
    let position ← state.getMarginPosition option.id
    let account := state.getMarginAccount option.writer
    let locked ← checkedSub (.error .mathOverflow) account.locked position.locked
    return (state.setMarginAccount option.writer { account with locked }).removeMarginPosition
      option.id

/-- Cancel a collateralized option before expiry with consent from both sides. -/
def cancelCollateralizedOption (writer holder : Address) (optionId : Nat) (state : State Address) :
    Outcome Error (State Address) := do
  assertNotPaused state
  requireAuth env writer
  requireAuth env holder
  let option ← state.getOption optionId
  ensure (¬ (option.writer ≠ writer ∨ option.holder ≠ holder)) .unauthorized
  ensure (option.status = .active) .optionNotActive
  ensure (¬ option.expiry ≤ env.timestamp) .optionExpired
  let _ ← state.getMarginPosition optionId
  let released ← releasePosition option state
  return released.setOption { option with status := .cancelled }

/-- Exercise a plain option up to its expiry. -/
def exercise (holder : Address) (optionId : Nat) (state : State Address) :
    Outcome Error (Int × State Address) := do
  assertNotPaused state
  assertInitializedGuard state
  requireAuth env holder
  let option ← state.getOption optionId
  ensure (option.holder = holder) .unauthorized
  ensure (option.status = .active) .optionNotActive
  ensure (state.hasMarginPosition optionId = false) .europeanOnly
  ensure (¬ option.expiry < env.timestamp) .optionExpired
  return (option.strikePrice, state.setOption { option with status := .exercised })

def expireOption (optionId : Nat) (state : State Address) : Outcome Error (State Address) := do
  assertInitializedGuard state
  let option ← state.getOption optionId
  ensure (option.status = .active) .optionNotActive
  ensure (state.hasMarginPosition optionId = false) .europeanOnly
  ensure (¬ env.timestamp ≤ option.expiry) .optionNotExpired
  return state.setOption { option with status := .expired }

def OptionStatus.isOpen (status : OptionStatus) : Prop := status = .active ∨ status = .marginCalled

instance (status : OptionStatus) : Decidable status.isOpen := inferInstanceAs (Decidable (_ ∨ _))

/-- Rebalance a position against the latest price; `false` means that it was called. -/
def checkMargin (optionId : Nat) (state : State Address) :
    Outcome Error (Bool × State Address) := do
  assertNotPaused state
  let option ← state.getOption optionId
  ensure option.status.isOpen .optionNotActive
  let config ← state.getMarginConfig
  let spot ← freshPrice state env option.underlying config
  let position ← state.getMarginPosition optionId
  let required ← requiredMargin spot option.strikePrice option.amount option.kind
    position.maxPayout config.maintenanceMarginBps
  let account := state.getMarginAccount option.writer
  let unlocked ← checkedSub .trap account.balance account.locked
  let additional ← checkedSub .trap required position.locked
  if unlocked < additional then
    -- The event carries the shortfall.
    let _ ← checkedSub .trap additional unlocked
    return (false, state.setOption { option with status := .marginCalled })
  else
    let locked ← checkedAdd (.error .mathOverflow) account.locked additional
    let rebalanced :=
      (state.setMarginAccount option.writer { account with locked }).setMarginPosition optionId
        { position with locked := required }
    return (true, rebalanced.setOption { option with status := .active })

/-- Restore a called position after the writer has added margin. -/
def cureMarginCall (writer : Address) (optionId : Nat) (state : State Address) :
    Outcome Error (State Address) := do
  requireAuth env writer
  let option ← state.getOption optionId
  ensure (option.writer = writer) .unauthorized
  ensure (option.status = .marginCalled) .marginCallNotActive
  let (restored, state) ← checkMargin env optionId state
  ensure (restored = true) .insufficientMargin
  return state

/-- Settle a collateralized option in cash at or after its expiry; returns the payout. -/
def settleOption (optionId : Nat) (state : State Address) :
    Outcome Error (Int × State Address) := do
  assertNotPaused state
  let option ← state.getOption optionId
  ensure option.status.isOpen .optionNotActive
  ensure (¬ env.timestamp < option.expiry) .optionNotExpired
  let config ← state.getMarginConfig
  let spot ← freshPrice state env option.underlying config
  let position ← state.getMarginPosition optionId
  let intrinsic ← intrinsicValue spot option.strikePrice option.amount option.kind
  let payout := min intrinsic position.maxPayout
  ensure (¬ position.locked < payout) .insufficientMargin
  let account := state.getMarginAccount option.writer
  let locked ← checkedSub .trap account.locked position.locked
  let balance ← checkedSub .trap account.balance payout
  let released := (state.setMarginAccount option.writer { balance, locked }).removeMarginPosition
    optionId
  let settled := released.setOption
    { option with status := if 0 < payout then .exercised else .expired }
  let ledger ←
    payPositive tokens state.ledger config.settlementToken contract option.holder payout
  return (payout, settled.withLedger ledger)

/-- The calls of the contract that write its storage, and the transfers of holders between them. -/
inductive Operation (Address : Type) where
  | initializeProtocol (admin : Address)
  | setPaused (admin : Address) (paused : Bool)
  | configureMarginPool (admin settlementToken oracle : Address)
      (maintenanceMarginBps maxPriceAge : Nat)
  | updatePrice (oracle : Address) (underlying : String) (price : Int)
  | depositMargin (writer : Address) (amount : Int)
  | withdrawMargin (writer : Address) (amount : Int)
  | writeOption (writer holder : Address) (underlying : String) (strikePrice premium amount : Int)
      (expiry : Nat) (kind : OptionKind)
  | writeCollateralizedOption (writer holder : Address) (underlying : String)
      (strikePrice premium amount : Int) (expiry : Nat) (kind : OptionKind) (maxPayout : Int)
  | cancelOption (writer : Address) (optionId : Nat)
  | cancelCollateralizedOption (writer holder : Address) (optionId : Nat)
  | exercise (holder : Address) (optionId : Nat)
  | expireOption (optionId : Nat)
  | checkMargin (optionId : Nat)
  | cureMarginCall (writer : Address) (optionId : Nat)
  | settleOption (optionId : Nat)
  | transfer (token source destination : Address) (amount : Int)

def dispatch (state : State Address) (call : Env Address contract × Operation Address) :
    Outcome Error (State Address) :=
  match call.2 with
  | .initializeProtocol admin => initializeProtocol call.1 admin state
  | .setPaused admin paused => setPaused call.1 admin paused state
  | .configureMarginPool admin settlementToken oracle maintenanceMarginBps maxPriceAge =>
      configureMarginPool call.1 admin settlementToken oracle maintenanceMarginBps maxPriceAge state
  | .updatePrice oracle underlying price => updatePrice call.1 oracle underlying price state
  | .depositMargin writer amount => depositMargin tokens call.1 writer amount state
  | .withdrawMargin writer amount => withdrawMargin tokens call.1 writer amount state
  | .writeOption writer holder underlying strikePrice premium amount expiry kind =>
      Prod.snd <$> writeOption call.1 writer holder underlying strikePrice premium amount expiry
        kind state
  | .writeCollateralizedOption writer holder underlying strikePrice premium amount expiry kind
      maxPayout =>
      Prod.snd <$> writeCollateralizedOption tokens call.1 writer holder underlying strikePrice
        premium amount expiry kind maxPayout state
  | .cancelOption writer optionId => cancelOption call.1 writer optionId state
  | .cancelCollateralizedOption writer holder optionId =>
      cancelCollateralizedOption call.1 writer holder optionId state
  | .exercise holder optionId => Prod.snd <$> exercise call.1 holder optionId state
  | .expireOption optionId => expireOption call.1 optionId state
  | .checkMargin optionId => Prod.snd <$> checkMargin call.1 optionId state
  | .cureMarginCall writer optionId => cureMarginCall call.1 writer optionId state
  | .settleOption optionId => Prod.snd <$> settleOption tokens call.1 optionId state
  | .transfer token source destination amount => do
      let ledger ← tokens.payAs call.1 state.ledger token source destination amount
      return state.withLedger ledger

def machine (contract : Address) :
    CallMachine (State Address) (Env Address contract × Operation Address) (Failure Error) where
  exec := dispatch tokens

end SorobanPlayground.OptionsProtocol
