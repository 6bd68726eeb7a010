import SorobanPlayground.Host

/-! # The price aggregator

The admin registers sources, each with a number, and prices of assets are submitted for
them. The aggregate of an asset is taken over the fresh prices of active sources: those far
from their median are dropped, and the median, the weighted average or the trimmed mean of
the others is accepted if it is not far from the last accepted one.
-/

namespace SorobanPlayground.PriceAggregator

inductive AggregationStrategy where
  | median
  | weightedAverage
  | trimmedMean
  deriving DecidableEq, Repr

structure Source where
  id : Nat
  name : String
  weight : Nat
  active : Bool
  deriving DecidableEq, Repr

/-- The most recent price submitted for a source and an asset. -/
structure PriceEntry where
  price : Int
  timestamp : Nat
  sourceId : Nat
  deriving DecidableEq, Repr

structure AggregatedPrice where
  asset : String
  price : Int
  timestamp : Nat
  numSources : Nat
  strategy : AggregationStrategy
  deriving DecidableEq, Repr

inductive Error where
  | alreadyInitialized
  | notInitialized
  | unauthorized
  | sourceNotFound
  | invalidWeight
  | invalidPrice
  | insufficientSources
  | contractPaused
  | circuitBreakerTripped
  | emptyAsset
  | maxSourcesReached
  | sourceInactive
  deriving DecidableEq, Repr

/-- The maximum number of registered sources. -/
def maxSources : Nat := 32

structure State (Address : Type) where
  admin : Option Address := none
  paused : Bool := false
  sourceCount : Nat := 0
  strategy : AggregationStrategy := .median
  maxPriceAge : Nat := 3600
  outlierBps : Nat := 2000
  circuitBreakerBps : Nat := 5000
  minSources : Nat := 1
  sources : FiniteMap Nat Source := ∅
  authorized : FiniteMap Nat Bool := ∅
  prices : FiniteMap (Nat × String) PriceEntry := ∅
  lastAggregated : FiniteMap String Int := ∅

variable {Address : Type} {contract : Address} (state : State Address)

def State.getSource (id : Nat) : Outcome Error Source :=
  orError (state.sources.get id) .sourceNotFound

def State.isAuthorized (sourceId : Nat) : Bool := (state.authorized.get sourceId).getD false

def ensureInitialized : Outcome Error Unit := ensure (state.admin.isSome = true) .notInitialized

def notPaused : Outcome Error Unit := ensure (¬ state.paused = true) .contractPaused

def requireAdmin [DecidableEq Address] (caller : Address) : Outcome Error Unit := do
  let admin ← orError state.admin .notInitialized
  ensure (admin = caller) .unauthorized

/-- `v.get(index).unwrap()`. -/
def vecGet {α : Type} (v : List α) (index : Nat) : Outcome Error α := orTrap v[index]?

/-- `v.set(index, value)`, which panics out of range. -/
def vecSet {α : Type} (v : List α) (index : Nat) (value : α) : Outcome Error (List α) := do
  assertOrTrap (index < v.length)
  return v.set index value

def absDiff (a b : Int) : Outcome Error Int :=
  if b < a then checkedSub .trap a b else checkedSub .trap b a

/-- The inner loop of the sort: the quote at an index moves down while the one below it is
higher. -/
def sinkQuote : Nat → List (Int × Nat) → Outcome Error (List (Int × Nat))
  | 0, v => pure v
  | j + 1, v => do
      let a ← vecGet v j
      let b ← vecGet v (j + 1)
      if b.1 < a.1 then do
        let moved ← vecSet v j b
        let swapped ← vecSet moved (j + 1) a
        sinkQuote j swapped
      else pure v

def sortQuotes (v : List (Int × Nat)) : Outcome Error (List (Int × Nat)) :=
  (List.range' 1 (v.length - 1)).foldlM (fun sorting i => sinkQuote i sorting) v

def middle (v : List (Int × Nat)) : Outcome Error Int := do
  let mid := v.length / 2
  if v.length % 2 = 1 then do
    let quote ← vecGet v mid
    return quote.1
  else do
    let below ← checkedSubUnsigned .trap mid 1
    let low ← vecGet v below
    let high ← vecGet v mid
    let sum ← checkedAdd .trap low.1 high.1
    return sum.tdiv 2

variable (env : Env Address contract)

/-- The price and the weight of a source that counts: active, with a fresh price. -/
def freshQuote (asset : String) (state : State Address) (id : Nat) : Option (Int × Nat) :=
  (state.sources.get id).bind fun src =>
    if src.active = true then
      (state.prices.get (id, asset)).bind fun entry =>
        if env.timestamp - entry.timestamp ≤ state.maxPriceAge then some (entry.price, src.weight)
        else none
    else none

/-- The prices and weights of all sources that count, in the order of their ids. -/
def freshQuotes (asset : String) (state : State Address) : List (Int × Nat) :=
  (List.range state.sourceCount).filterMap (freshQuote env asset state)

/-- One round of the outlier filter. -/
def keepQuote (median : Int) (outlierBps : Nat) (kept : List (Int × Nat)) (quote : Int × Nat) :
    Outcome Error (List (Int × Nat)) := do
  let difference ← absDiff quote.1 median
  let scaled ← checkedMul .trap difference 10000
  let deviation ← checkedDiv .trap scaled median
  return if deviation ≤ outlierBps then kept ++ [quote] else kept

/-- One round of the weighted average: the sum and the total weight so far. -/
def addWeighted (sums : Int × Int) (quote : Int × Nat) : Outcome Error (Int × Int) := do
  let product ← checkedMul .trap quote.1 quote.2
  let sum ← checkedAdd .trap sums.1 product
  let totalWeight ← checkedAdd .trap sums.2 quote.2
  return (sum, totalWeight)

def weightedAverage (quotes : List (Int × Nat)) : Outcome Error Int := do
  let (sum, totalWeight) ← quotes.foldlM addWeighted (0, 0)
  ensure (totalWeight ≠ 0) .insufficientSources
  checkedDiv .trap sum totalWeight

/-- The mean without the lowest and the highest of more than two prices. -/
def trimmedMean (quotes : List (Int × Nat)) : Outcome Error Int := do
  let trimmed := if 2 < quotes.length then (quotes.take (quotes.length - 1)).drop 1 else quotes
  ensure (trimmed.length ≠ 0) .insufficientSources
  let sum ← trimmed.foldlM (fun sum quote => checkedAdd .trap sum quote.1) 0
  checkedDiv .trap sum trimmed.length

def aggregate (strategy : AggregationStrategy) (quotes : List (Int × Nat)) : Outcome Error Int :=
  match strategy with
  | .median => middle quotes
  | .weightedAverage => weightedAverage quotes
  | .trimmedMean => trimmedMean quotes

/-- The circuit breaker, which needs a positive last price. -/
def checkSwing (circuitBreakerBps : Nat) (aggregated : Int) (lastPrice : Option Int) :
    Outcome Error Unit :=
  let last := lastPrice.getD 0
  if 0 < last then do
    let difference ← absDiff aggregated last
    let scaled ← checkedMul .trap difference 10000
    let swing ← checkedDiv .trap scaled last
    ensure (¬ (circuitBreakerBps : Int) < swing) .circuitBreakerTripped
  else .ok ()

/-- The aggregate of collected quotes: its price and the number of quotes in it. -/
def aggregateQuotes (state : State Address) (quotes : List (Int × Nat)) :
    Outcome Error (Int × Nat) := do
  ensure (¬ quotes.length < state.minSources) .insufficientSources
  let prices ← sortQuotes quotes
  let median ← middle prices
  let filtered ← prices.foldlM (keepQuote median state.outlierBps) []
  ensure (¬ filtered.length < state.minSources) .insufficientSources
  let aggregated ← aggregate state.strategy filtered
  return (aggregated, filtered.length)

def getAggregatedPrice (asset : String) (state : State Address) :
    Outcome Error (AggregatedPrice × State Address) := do
  ensureInitialized state
  ensure (¬ asset.isEmpty = true) .emptyAsset
  let (price, numSources) ← aggregateQuotes state (freshQuotes env asset state)
  checkSwing state.circuitBreakerBps price (state.lastAggregated.get asset)
  return ({ asset, price, timestamp := env.timestamp, numSources, strategy := state.strategy },
    { state with lastAggregated := state.lastAggregated.set asset price })

variable [DecidableEq Address] (env : Env Address contract)

def initializeAggregator (admin : Address) (strategy : Option AggregationStrategy)
    (maxPriceAge outlierBps circuitBreakerBps minSources : Option Nat) (state : State Address) :
    Outcome Error (State Address) := do
  ensure (¬ state.admin.isSome = true) .alreadyInitialized
  requireAuth env admin
  return { state with
    admin := some admin
    strategy := strategy.getD state.strategy
    maxPriceAge := maxPriceAge.getD state.maxPriceAge
    outlierBps := outlierBps.getD state.outlierBps
    circuitBreakerBps := circuitBreakerBps.getD state.circuitBreakerBps
    minSources := minSources.getD state.minSources }

/-- The checks that the calls of the admin begin with. -/
def ensureAdmin (admin : Address) (state : State Address) : Outcome Error Unit := do
  ensureInitialized state
  requireAuth env admin
  requireAdmin state admin

def pause (admin : Address) (state : State Address) : Outcome Error (State Address) := do
  ensureAdmin env admin state
  return { state with paused := true }

def unpause (admin : Address) (state : State Address) : Outcome Error (State Address) := do
  ensureAdmin env admin state
  return { state with paused := false }

/-- Returns the id of the new source. -/
def addSource (admin : Address) (name : String) (weight : Nat) (state : State Address) :
    Outcome Error (Nat × State Address) := do
  ensureInitialized state
  notPaused state
  requireAuth env admin
  requireAdmin state admin
  ensure (¬ name.isEmpty = true) .emptyAsset
  ensure (¬ (weight = 0 ∨ 100 < weight)) .invalidWeight
  ensure (¬ maxSources ≤ state.sourceCount) .maxSourcesReached
  let id := state.sourceCount
  return (id, { state with
    sources := state.sources.set id { id, name, weight, active := true }
    authorized := state.authorized.set id true
    sourceCount := state.sourceCount + 1 })

def removeSource (admin : Address) (sourceId : Nat) (state : State Address) :
    Outcome Error (State Address) := do
  ensureAdmin env admin state
  let source ← state.getSource sourceId
  return { state with
    sources := state.sources.set source.id { source with active := false }
    authorized := state.authorized.set sourceId false }

def setWeight (admin : Address) (sourceId weight : Nat) (state : State Address) :
    Outcome Error (State Address) := do
  ensureAdmin env admin state
  ensure (¬ (weight = 0 ∨ 100 < weight)) .invalidWeight
  let source ← state.getSource sourceId
  return { state with sources := state.sources.set source.id { source with weight } }

def setStrategy (admin : Address) (strategy : AggregationStrategy) (state : State Address) :
    Outcome Error (State Address) := do
  ensureAdmin env admin state
  return { state with strategy }

/-- The address that submits signs; it is compared with nothing. -/
def updatePrice (sourceAddr : Address) (sourceId : Nat) (asset : String) (price : Int)
    (state : State Address) : Outcome Error (State Address) := do
  ensureInitialized state
  notPaused state
  requireAuth env sourceAddr
  ensure (state.isAuthorized sourceId = true) .unauthorized
  let source ← state.getSource sourceId
  ensure (source.active = true) .sourceInactive
  ensure (¬ asset.isEmpty = true) .emptyAsset
  ensure (¬ price ≤ 0) .invalidPrice
  return { state with
    prices := state.prices.set (sourceId, asset)
      { price, timestamp := env.timestamp, sourceId } }

inductive Operation (Address : Type) where
  | initializeAggregator (admin : Address) (strategy : Option AggregationStrategy)
      (maxPriceAge outlierBps circuitBreakerBps minSources : Option Nat)
  | pause (admin : Address)
  | unpause (admin : Address)
  | addSource (admin : Address) (name : String) (weight : Nat)
  | removeSource (admin : Address) (sourceId : Nat)
  | setWeight (admin : Address) (sourceId weight : Nat)
  | setStrategy (admin : Address) (strategy : AggregationStrategy)
  | updatePrice (sourceAddr : Address) (sourceId : Nat) (asset : String) (price : Int)
  | getAggregatedPrice (asset : String)

def dispatch (state : State Address) (call : Env Address contract × Operation Address) :
    Outcome Error (State Address) :=
  match call.2 with
  | .initializeAggregator admin strategy maxPriceAge outlierBps circuitBreakerBps minSources =>
      initializeAggregator call.1 admin strategy maxPriceAge outlierBps circuitBreakerBps minSources
        state
  | .pause admin => pause call.1 admin state
  | .unpause admin => unpause call.1 admin state
  | .addSource admin name weight => Prod.snd <$> addSource call.1 admin name weight state
  | .removeSource admin sourceId => removeSource call.1 admin sourceId state
  | .setWeight admin sourceId weight => setWeight call.1 admin sourceId weight state
  | .setStrategy admin strategy => setStrategy call.1 admin strategy state
  | .updatePrice sourceAddr sourceId asset price =>
      updatePrice call.1 sourceAddr sourceId asset price state
  | .getAggregatedPrice asset => Prod.snd <$> getAggregatedPrice call.1 asset state

def machine (contract : Address) :
    CallMachine (State Address) (Env Address contract × Operation Address) (Failure Error) where
  exec := dispatch

/-- What `get_aggregated_price` returns. -/
def reading (state : State Address) (call : Env Address contract × Operation Address) :
    Option (Outcome Error AggregatedPrice) :=
  match call.2 with
  | .getAggregatedPrice asset => some (Prod.fst <$> getAggregatedPrice call.1 asset state)
  | _ => none

end SorobanPlayground.PriceAggregator
