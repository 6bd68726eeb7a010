import SorobanPlayground.Host

/-! # Perpetual futures on a virtual AMM

Traders open long and short positions against a virtual constant-product pool.
Opening a position moves the pool, and closing it moves the pool back. Once a
period the funding rate follows the gap between the pool's price and an index
price, and funding is settled between the sides.
-/

namespace SorobanPlayground.Perpetuals

/-- The largest funding rate of a period, in basis points. -/
def maxFundingRateBps : Int := 500

/-- Eight hours. -/
def fundingPeriodSecs : Nat := 8 * 3600

def maxLeverage : Nat := 100

def maintenanceMarginBps : Int := 500

/-- Prices have seven decimal places. -/
def priceScale : Int := 10000000

inductive Error where
  | alreadyInitialized
  | notInitialized
  | unauthorized
  | contractPaused
  | invalidLeverage
  | invalidSize
  | invalidPrice
  | positionNotFound
  | positionNotActive
  | insufficientMargin
  | invalidVammReserves
  | arithmeticOverflow
  | fundingNotDue
  | invalidFundingRate
  deriving DecidableEq, Repr

inductive PositionStatus where
  | active
  | closed
  | liquidated
  deriving DecidableEq, Repr

/-- A trader's position. -/
structure Position (Address : Type) where
  id : Nat
  trader : Address
  isLong : Bool
  size : Int
  leverage : Nat
  /-- The pool's price after the opening trade. -/
  entryPrice : Int
  collateral : Int
  status : PositionStatus
  deriving DecidableEq, Repr

/-- The virtual reserves and their constant product. -/
structure VammConfig where
  reserveX : Int
  reserveY : Int
  k : Int
  deriving DecidableEq, Repr

structure FundingRate where
  markPrice : Int
  indexPrice : Int
  rateBps : Int
  lastUpdate : Nat
  lastSettlement : Nat
  deriving DecidableEq, Repr

structure FundingSettlement where
  rateBps : Int
  longsPay : Bool
  totalPayments : Int
  newAccumulator : Int
  timestamp : Nat
  deriving DecidableEq, Repr

structure State (Address : Type) where
  admin : Option Address := none
  initialized : Bool := false
  paused : Bool := false
  positionCount : Nat := 0
  vammConfig : Option VammConfig := none
  fundingRate : Option FundingRate := none
  fundingAccumulator : Int := 0
  fundingSnapshots : FiniteMap Nat Int := ∅
  positions : FiniteMap Nat (Position Address) := ∅

variable {Address : Type} {contract : Address}

/-- `reserve_y / reserve_x` with seven decimal places. -/
def vammMarkPriceFrom (vamm : VammConfig) : Outcome Error Int := do
  ensure (vamm.reserveX ≠ 0) .invalidVammReserves
  let scaled ← checkedMul .trap vamm.reserveY priceScale
  checkedDiv .trap scaled vamm.reserveX

/-- A long takes base out of the pool, a short puts base in. -/
def applyVammTrade (vamm : VammConfig) (isLong : Bool) (size : Int) : Outcome Error VammConfig :=
  if isLong then do
    ensure (¬ vamm.reserveX ≤ size) .invalidVammReserves
    let newX ← checkedSub .trap vamm.reserveX size
    let newY ← checkedDiv .trap vamm.k newX
    return { vamm with reserveX := newX, reserveY := newY }
  else do
    let newX ← checkedAdd (.error .arithmeticOverflow) vamm.reserveX size
    ensure (newX ≠ 0) .invalidVammReserves
    let newY ← checkedDiv .trap vamm.k newX
    return { vamm with reserveX := newX, reserveY := newY }

/-- The funding rate in basis points; the premium passes through an `i64`. -/
def computeRateBps (markPrice indexPrice : Int) : Outcome Error Int :=
  if indexPrice = 0 then pure 0
  else do
    let premium ← checkedSub .trap markPrice indexPrice
    let scaled ← checkedMul .trap premium 10000
    let raw ← checkedDiv .trap scaled indexPrice
    return max (-maxFundingRateBps) (min maxFundingRateBps (castI64 raw))

variable (state : State Address)

def State.getVamm : Outcome Error VammConfig := orError state.vammConfig .notInitialized

def State.getFunding : Outcome Error FundingRate := orError state.fundingRate .notInitialized

def State.getPosition (id : Nat) : Outcome Error (Position Address) :=
  orError (state.positions.get id) .positionNotFound

def State.setPosition (id : Nat) (position : Position Address) : State Address :=
  { state with positions := state.positions.set id position }

def assertInitialized : Outcome Error Unit := ensure (state.initialized = true) .notInitialized

def assertNotPaused : Outcome Error Unit := ensure (state.paused = false) .contractPaused

variable [DecidableEq Address] (env : Env Address contract)

def assertAdmin (admin : Address) (state : State Address) : Outcome Error Unit := do
  assertInitialized state
  requireAuth env admin
  let stored ← orError state.admin .notInitialized
  ensure (stored = admin) .unauthorized

def initializePerpetuals (admin : Address) (reserveX reserveY indexPrice : Int)
    (state : State Address) : Outcome Error (State Address) := do
  ensure (state.initialized = false) .alreadyInitialized
  ensure (¬ (reserveX ≤ 0 ∨ reserveY ≤ 0)) .invalidVammReserves
  ensure (0 < indexPrice) .invalidPrice
  requireAuth env admin
  let k ← checkedMul (.error .arithmeticOverflow) reserveX reserveY
  let vamm : VammConfig := { reserveX, reserveY, k }
  let markPrice ← vammMarkPriceFrom vamm
  return { state with
    admin := some admin
    initialized := true
    paused := false
    positionCount := 0
    fundingAccumulator := 0
    vammConfig := some vamm
    fundingRate := some
      { markPrice, indexPrice, rateBps := 0, lastUpdate := env.timestamp,
        lastSettlement := env.timestamp } }

def setPaused (admin : Address) (paused : Bool) (state : State Address) :
    Outcome Error (State Address) := do
  assertAdmin env admin state
  return { state with paused }

def updateIndexPrice (admin : Address) (indexPrice : Int) (state : State Address) :
    Outcome Error (State Address) := do
  assertAdmin env admin state
  ensure (0 < indexPrice) .invalidPrice
  let funding ← state.getFunding
  let rateBps ← computeRateBps funding.markPrice indexPrice
  let updated := { funding with indexPrice, rateBps, lastUpdate := env.timestamp }
  return { state with fundingRate := some updated }

/-- The accumulator after a period at a rate. -/
def advanceAccumulator (accumulator rateBps : Int) : Int :=
  saturateI64 (accumulator + rateBps * 1000000)

variable (state : State Address)

/-- Anyone may call it once the period has passed. -/
def updateFundingRate : Outcome Error (Int × State Address) := do
  assertInitialized state
  let funding ← state.getFunding
  let due ← inUnsigned u64Max .trap (funding.lastUpdate + fundingPeriodSecs)
  ensure (due ≤ env.timestamp) .fundingNotDue
  let vamm ← state.getVamm
  let markPrice ← vammMarkPriceFrom vamm
  let rateBps ← computeRateBps markPrice funding.indexPrice
  let updated := { funding with markPrice, rateBps, lastUpdate := env.timestamp }
  return (rateBps, { state with
    fundingAccumulator := advanceAccumulator state.fundingAccumulator rateBps
    fundingRate := some updated })

variable (position : Position Address)

/-- What a position pays or receives at a settlement. -/
def settlementPayment (rateBps : Int) : Outcome Error Int := do
  let scaled ← checkedMul .trap position.size (rateBps.natAbs : Int)
  return scaled.tdiv 10000

/-- The collateral after a settlement: the paying side is debited. -/
def settledCollateral (longsPay : Bool) (payment : Int) : Int :=
  if position.isLong = longsPay then saturateI128 (position.collateral - payment)
  else saturateI128 (position.collateral + payment)

/-- One round of a settlement: the positions so far and the payments. -/
def settleNext (rateBps : Int) (progress : FiniteMap Nat (Position Address) × Int) (id : Nat) :
    Outcome Error (FiniteMap Nat (Position Address) × Int) :=
  match progress.1.get id with
  | none => pure progress
  | some position =>
      if position.status = .active then do
        let payment ← settlementPayment position rateBps
        let collateral := settledCollateral position (decide (0 < rateBps)) payment
        return (progress.1.set id { position with collateral },
          saturateI128 (progress.2 + payment))
      else pure progress

/-- Settle the funding of all open positions; anyone may call it once the period has passed. -/
def settleFunding : Outcome Error (FundingSettlement × State Address) := do
  assertInitialized state
  assertNotPaused state
  let funding ← state.getFunding
  let due ← inUnsigned u64Max .trap (funding.lastSettlement + fundingPeriodSecs)
  ensure (due ≤ env.timestamp) .fundingNotDue
  let rateBps := funding.rateBps
  let (positions, totalPayments) ← (List.range' 1 state.positionCount).foldlM (settleNext rateBps)
    (state.positions, 0)
  let newAccumulator := advanceAccumulator state.fundingAccumulator rateBps
  let settlement : FundingSettlement :=
    { rateBps, longsPay := decide (0 < rateBps), totalPayments, newAccumulator,
      timestamp := env.timestamp }
  return (settlement, { state with
    positions
    fundingAccumulator := newAccumulator
    fundingRate := some { funding with lastSettlement := env.timestamp } })

/-- Returns the id of the new position. -/
def openPosition (trader : Address) (isLong : Bool) (size : Int) (leverage : Nat) (collateral : Int)
    (state : State Address) : Outcome Error (Nat × State Address) := do
  assertNotPaused state
  assertInitialized state
  requireAuth env trader
  ensure (0 < size) .invalidSize
  ensure (¬ (leverage = 0 ∨ maxLeverage < leverage)) .invalidLeverage
  ensure (0 < collateral) .insufficientMargin
  let vamm ← state.getVamm
  let traded ← applyVammTrade vamm isLong size
  let entryPrice ← vammMarkPriceFrom traded
  let funding ← state.getFunding
  let id ← inUnsigned u64Max .trap (state.positionCount + 1)
  let position : Position Address :=
    { id, trader, isLong, size, leverage, entryPrice, collateral, status := .active }
  return (id, { state.setPosition id position with
    vammConfig := some traded
    fundingRate := some { funding with markPrice := entryPrice }
    positionCount := id
    fundingSnapshots := state.fundingSnapshots.set id state.fundingAccumulator })

/-- The profit or loss of a position at a price. -/
def positionPnl (price : Int) : Outcome Error Int := do
  let change ← if position.isLong then checkedSub .trap price position.entryPrice
    else checkedSub .trap position.entryPrice price
  let scaled ← checkedMul .trap change position.size
  checkedDiv .trap scaled position.entryPrice

/-- The funding that a position owes since it was opened. -/
def fundingPayment (accumulator openAccumulator : Int) : Outcome Error Int := do
  let accDelta ← inI64 .trap (accumulator - openAccumulator)
  let scaled ← checkedMul .trap position.size accDelta
  return scaled.tdiv 10000000000

/-- The accumulator when a position was opened. -/
def State.openAccumulator (id : Nat) : Int :=
  (state.fundingSnapshots.get id).getD 0

/-- Returns the net settlement. -/
def closePosition (trader : Address) (positionId : Nat) (state : State Address) :
    Outcome Error (Int × State Address) := do
  assertNotPaused state
  assertInitialized state
  requireAuth env trader
  let position ← state.getPosition positionId
  ensure (position.trader = trader) .unauthorized
  ensure (position.status = .active) .positionNotActive
  let vamm ← state.getVamm
  let traded ← applyVammTrade vamm (!position.isLong) position.size
  let exitPrice ← vammMarkPriceFrom traded
  let pnl ← positionPnl position exitPrice
  let funded ← fundingPayment position state.fundingAccumulator (state.openAccumulator positionId)
  let gross ← checkedAdd .trap position.collateral pnl
  let netSettlement ← if position.isLong then checkedSub .trap gross funded
    else checkedAdd .trap gross funded
  let funding ← state.getFunding
  return (netSettlement, { state.setPosition positionId { position with status := .closed } with
    vammConfig := some traded
    fundingRate := some { funding with markPrice := exitPrice } })

/-- The pool's current price. -/
def markPrice : Outcome Error Int := do
  assertInitialized state
  let vamm ← state.getVamm
  vammMarkPriceFrom vamm

def liquidatePosition (liquidator : Address) (positionId : Nat) (state : State Address) :
    Outcome Error (State Address) := do
  assertNotPaused state
  assertInitialized state
  requireAuth env liquidator
  let position ← state.getPosition positionId
  ensure (position.status = .active) .positionNotActive
  let vamm ← state.getVamm
  let currentPrice ← vammMarkPriceFrom vamm
  let pnl ← positionPnl position currentPrice
  let remainingMargin ← checkedAdd .trap position.collateral pnl
  let scaled ← checkedMul .trap position.collateral maintenanceMarginBps
  ensure (remainingMargin ≤ scaled.tdiv 10000) .insufficientMargin
  return state.setPosition positionId { position with status := .liquidated }

inductive Operation (Address : Type) where
  | initializePerpetuals (admin : Address) (reserveX reserveY indexPrice : Int)
  | setPaused (admin : Address) (paused : Bool)
  | updateIndexPrice (admin : Address) (indexPrice : Int)
  | updateFundingRate
  | settleFunding
  | openPosition (trader : Address) (isLong : Bool) (size : Int) (leverage : Nat)
      (collateral : Int)
  | closePosition (trader : Address) (positionId : Nat)
  | liquidatePosition (liquidator : Address) (positionId : Nat)

def dispatch (call : Env Address contract × Operation Address) : Outcome Error (State Address) :=
  match call.2 with
  | .initializePerpetuals admin reserveX reserveY indexPrice =>
      initializePerpetuals call.1 admin reserveX reserveY indexPrice state
  | .setPaused admin paused => setPaused call.1 admin paused state
  | .updateIndexPrice admin indexPrice => updateIndexPrice call.1 admin indexPrice state
  | .updateFundingRate => Prod.snd <$> updateFundingRate call.1 state
  | .settleFunding => Prod.snd <$> settleFunding call.1 state
  | .openPosition trader isLong size leverage collateral =>
      Prod.snd <$> openPosition call.1 trader isLong size leverage collateral state
  | .closePosition trader positionId => Prod.snd <$> closePosition call.1 trader positionId state
  | .liquidatePosition liquidator positionId =>
      liquidatePosition call.1 liquidator positionId state

def machine (contract : Address) :
    CallMachine (State Address) (Env Address contract × Operation Address) (Failure Error) where
  exec := dispatch

/-- A sample environment in which users `1`, `2` and `3` authorize the call. -/
def signedAt (timestamp : Nat) : Env Nat 0 :=
  { timestamp, auths := [1, 2, 3], contract_silent := zero_notMem_three_signers }

end SorobanPlayground.Perpetuals
