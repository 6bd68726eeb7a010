import SorobanPlayground.Host

/-! # The price feed aggregator

Reporters update the prices of their sources, each within a circuit breaker around its
previous price. The aggregate is taken over the prices of active sources that are fresh
enough: of more than two, those far from their median are dropped, and the median, the
weighted average or the trimmed mean of the others is returned.
-/

namespace SorobanPlayground.PriceFeedAggregator

inductive AggregationStrategy where
  | median
  | weightedAverage
  | trimmedMean
  deriving DecidableEq, Repr

structure PriceSource (Address : Type) where
  reporter : Address
  description : String
  weight : Nat
  lastPrice : Int
  lastUpdated : Nat
  active : Bool
  deriving DecidableEq, Repr

structure AggregatedPrice where
  price : Int
  numSources : Nat
  timestamp : Nat
  deriving DecidableEq, Repr

inductive Error where
  | alreadyInitialized
  | notInitialized
  | unauthorized
  | sourceNotFound
  | sourceInactive
  | invalidPrice
  | insufficientSources
  | contractPaused
  | invalidWeight
  | circuitBreakerTripped
  | invalidParameter
  deriving DecidableEq, Repr

structure State (Address : Type) where
  admin : Option Address := none
  paused : Bool := false
  sourceCount : Nat := 0
  decimals : Nat := 7
  maxPriceAge : Nat := 3600
  outlierBps : Nat := 2000
  strategy : AggregationStrategy := .median
  trimPct : Nat := 10
  circuitBreakerBps : Nat := 3000
  asset : Option String := none
  sources : FiniteMap Nat (PriceSource Address) := ∅

variable {Address : Type} {contract : Address} (state : State Address)

def State.getSource (id : Nat) : Outcome Error (PriceSource Address) :=
  orError (state.sources.get id) .sourceNotFound

def State.setSource (id : Nat) (source : PriceSource Address) : State Address :=
  { state with sources := state.sources.set id source }

def ensureInitialized : Outcome Error Unit := ensure (state.admin.isSome = true) .notInitialized

def notPaused : Outcome Error Unit := ensure (state.paused = false) .contractPaused

def requireAdmin [DecidableEq Address] (caller : Address) : Outcome Error Unit := do
  let admin ← orError state.admin .notInitialized
  ensure (admin = caller) .unauthorized

/-- `v.get(index).unwrap()`. -/
def vecGet {α : Type} (v : List α) (index : Nat) : Outcome Error α := orTrap v[index]?

/-- `v.set(index, value)`, which panics out of range. -/
def vecSet {α : Type} (v : List α) (index : Nat) (value : α) : Outcome Error (List α) := do
  assertOrTrap (index < v.length)
  return v.set index value

def absDiff (a b : Int) : Outcome Error Int :=
  if b < a then checkedSub .trap a b else checkedSub .trap b a

/-- The inner loop of the sort: larger values move up from an index on, and the key is
written below them. -/
def siftKey (key : Int) : Nat → List Int → Outcome Error (List Int)
  | 0, v => vecSet v 0 key
  | j + 1, v => do
      let prev ← vecGet v j
      if key < prev then do
        let moved ← vecSet v (j + 1) prev
        siftKey key j moved
      else vecSet v (j + 1) key

def sortVec (v : List Int) : Outcome Error (List Int) :=
  (List.range' 1 (v.length - 1)).foldlM (fun sorting i => do
    let key ← vecGet sorting i
    siftKey key i sorting) v

def median (prices : List Int) : Outcome Error Int := do
  let sorted ← sortVec prices
  let n := sorted.length
  if n % 2 = 1 then vecGet sorted (n / 2)
  else do
    let below ← checkedSubUnsigned .trap (n / 2) 1
    let lo ← vecGet sorted below
    let hi ← vecGet sorted (n / 2)
    let sum ← checkedAdd .trap lo hi
    return sum.tdiv 2

/-- The sum of the prices, added up one after the other. -/
def sumPrices (prices : List Int) : Outcome Error Int :=
  prices.foldlM (checkedAdd .trap) 0

/-- One round of the weighted average: the sum and the total weight so far. -/
def addWeighted (sums : Int × Int) (quote : Int × Nat) : Outcome Error (Int × Int) := do
  let product ← checkedMul .trap quote.1 quote.2
  let sum ← checkedAdd .trap sums.1 product
  let totalWeight ← checkedAdd .trap sums.2 quote.2
  return (sum, totalWeight)

def weightedAverage (quotes : List (Int × Nat)) : Outcome Error Int := do
  let (sum, totalWeight) ← quotes.foldlM addWeighted (0, 0)
  if totalWeight = 0 then return 0
  else checkedDiv .trap sum totalWeight

/-- The average without the lowest and the highest prices. -/
def trimmedMean (prices : List Int) (trimPct : Nat) : Outcome Error Int := do
  let sorted ← sortVec prices
  let n := sorted.length
  let scaled ← inUnsigned u32Max .trap (n * trimPct)
  let trim := scaled / 100
  let hi ← checkedSubUnsigned .trap n trim
  if hi ≤ trim then do
    let sum ← sumPrices sorted
    checkedDiv .trap sum n
  else do
    let sum ← sumPrices ((sorted.take hi).drop trim)
    checkedDiv .trap sum (hi - trim : Nat)

variable (env : Env Address contract)

/-- The price and the weight of a source that counts: active, with a price, and fresh. -/
def freshQuote (state : State Address) (id : Nat) : Option (Int × Nat) :=
  (state.sources.get id).bind fun source =>
    if source.active = true ∧ 0 < source.lastPrice ∧
        env.timestamp - source.lastUpdated ≤ state.maxPriceAge then
      some (source.lastPrice, source.weight)
    else none

/-- The prices and weights of all sources that count, in the order of their ids. -/
def freshQuotes (state : State Address) : List (Int × Nat) :=
  (List.range state.sourceCount).filterMap (freshQuote env state)

/-- One round of the outlier filter: a quote within the threshold around the median is
kept. -/
def keepQuote (median : Int) (outlierBps : Nat) (kept : List (Int × Nat)) (quote : Int × Nat) :
    Outcome Error (List (Int × Nat)) := do
  let difference ← absDiff quote.1 median
  let scaled ← checkedMul .trap difference 10000
  let deviation ← checkedDiv .trap scaled median
  return if deviation ≤ outlierBps then kept ++ [quote] else kept

/-- Of more than two quotes those near the median, if there are any. -/
def filterOutliers (outlierBps : Nat) (quotes : List (Int × Nat)) :
    Outcome Error (List (Int × Nat)) :=
  if 2 < quotes.length then do
    let median ← median (quotes.map Prod.fst)
    let filtered ← quotes.foldlM (keepQuote median outlierBps) []
    return if filtered.isEmpty then quotes else filtered
  else .ok quotes

def aggregate (strategy : AggregationStrategy) (trimPct : Nat) (quotes : List (Int × Nat)) :
    Outcome Error Int :=
  match strategy with
  | .median => median (quotes.map Prod.fst)
  | .weightedAverage => weightedAverage quotes
  | .trimmedMean => trimmedMean (quotes.map Prod.fst) trimPct

def getAggregatedPrice (state : State Address) : Outcome Error AggregatedPrice := do
  ensureInitialized state
  let quotes := freshQuotes env state
  ensure (quotes ≠ []) .insufficientSources
  let kept ← filterOutliers state.outlierBps quotes
  let price ← aggregate state.strategy state.trimPct kept
  return { price, numSources := kept.length, timestamp := env.timestamp }

variable [DecidableEq Address] (env : Env Address contract)

def initializeFeed (admin : Address) (asset : String)
    (decimals maxPriceAge outlierBps circuitBreakerBps : Option Nat)
    (strategy : Option AggregationStrategy) (state : State Address) :
    Outcome Error (State Address) := do
  ensure (state.admin.isSome = false) .alreadyInitialized
  requireAuth env admin
  return { state with
    admin := some admin
    asset := some asset
    decimals := decimals.getD state.decimals
    maxPriceAge := maxPriceAge.getD state.maxPriceAge
    outlierBps := outlierBps.getD state.outlierBps
    circuitBreakerBps := circuitBreakerBps.getD state.circuitBreakerBps
    strategy := strategy.getD state.strategy }

/-- The checks that all calls of the admin begin with. -/
def ensureAdmin (admin : Address) (state : State Address) : Outcome Error Unit := do
  ensureInitialized state
  requireAuth env admin
  requireAdmin state admin

def pause (admin : Address) (state : State Address) : Outcome Error (State Address) := do
  ensureAdmin env admin state
  return { state with paused := true }

def unpause (admin : Address) (state : State Address) : Outcome Error (State Address) := do
  ensureAdmin env admin state
  return { state with paused := false }

def setStrategy (admin : Address) (strategy : AggregationStrategy) (state : State Address) :
    Outcome Error (State Address) := do
  ensureAdmin env admin state
  return { state with strategy }

def setMaxPriceAge (admin : Address) (maxAge : Nat) (state : State Address) :
    Outcome Error (State Address) := do
  ensureAdmin env admin state
  ensure (maxAge ≠ 0) .invalidParameter
  return { state with maxPriceAge := maxAge }

def setOutlierBps (admin : Address) (bps : Nat) (state : State Address) :
    Outcome Error (State Address) := do
  ensureAdmin env admin state
  ensure (¬ (bps = 0 ∨ 10000 < bps)) .invalidParameter
  return { state with outlierBps := bps }

def setCircuitBreakerBps (admin : Address) (bps : Nat) (state : State Address) :
    Outcome Error (State Address) := do
  ensureAdmin env admin state
  ensure (¬ (bps = 0 ∨ 10000 < bps)) .invalidParameter
  return { state with circuitBreakerBps := bps }

/-- Returns the id of the new source. -/
def addSource (admin reporter : Address) (description : String) (weight : Option Nat)
    (state : State Address) : Outcome Error (Nat × State Address) := do
  ensureInitialized state
  notPaused state
  requireAuth env admin
  requireAdmin state admin
  let w := weight.getD 1
  ensure (¬ (w = 0 ∨ 100 < w)) .invalidWeight
  let id := state.sourceCount
  let source : PriceSource Address :=
    { reporter, description, weight := w, lastPrice := 0, lastUpdated := 0, active := true }
  let sourceCount ← inUnsigned u32Max .trap (id + 1)
  return (id, { state.setSource id source with sourceCount })

def removeSource (admin : Address) (sourceId : Nat) (state : State Address) :
    Outcome Error (State Address) := do
  ensureAdmin env admin state
  let source ← state.getSource sourceId
  return state.setSource sourceId { source with active := false }

def setWeight (admin : Address) (sourceId weight : Nat) (state : State Address) :
    Outcome Error (State Address) := do
  ensureAdmin env admin state
  ensure (¬ (weight = 0 ∨ 100 < weight)) .invalidWeight
  let source ← state.getSource sourceId
  return state.setSource sourceId { source with weight }

/-- The circuit breaker, which a source without a price does not have. -/
def checkSwing (circuitBreakerBps : Nat) (price lastPrice : Int) : Outcome Error Unit :=
  if 0 < lastPrice then do
    let difference ← absDiff price lastPrice
    let scaled ← checkedMul .trap difference 10000
    let deviation ← checkedDiv .trap scaled lastPrice
    ensure (deviation ≤ circuitBreakerBps) .circuitBreakerTripped
  else .ok ()

def updatePrice (reporter : Address) (sourceId : Nat) (price : Int) (state : State Address) :
    Outcome Error (State Address) := do
  ensureInitialized state
  notPaused state
  requireAuth env reporter
  ensure (0 < price) .invalidPrice
  let source ← state.getSource sourceId
  ensure (source.active = true) .sourceInactive
  ensure (source.reporter = reporter) .unauthorized
  checkSwing state.circuitBreakerBps price source.lastPrice
  return state.setSource sourceId
    { source with lastPrice := price, lastUpdated := env.timestamp }

inductive Operation (Address : Type) where
  | initializeFeed (admin : Address) (asset : String)
      (decimals maxPriceAge outlierBps circuitBreakerBps : Option Nat)
      (strategy : Option AggregationStrategy)
  | pause (admin : Address)
  | unpause (admin : Address)
  | addSource (admin reporter : Address) (description : String) (weight : Option Nat)
  | removeSource (admin : Address) (sourceId : Nat)
  | setWeight (admin : Address) (sourceId weight : Nat)
  | updatePrice (reporter : Address) (sourceId : Nat) (price : Int)
  | setStrategy (admin : Address) (strategy : AggregationStrategy)
  | setMaxPriceAge (admin : Address) (maxAge : Nat)
  | setOutlierBps (admin : Address) (bps : Nat)
  | setCircuitBreakerBps (admin : Address) (bps : Nat)

def dispatch (state : State Address) (call : Env Address contract × Operation Address) :
    Outcome Error (State Address) :=
  match call.2 with
  | .initializeFeed admin asset decimals maxPriceAge outlierBps circuitBreakerBps strategy =>
      initializeFeed call.1 admin asset decimals maxPriceAge outlierBps circuitBreakerBps strategy
        state
  | .pause admin => pause call.1 admin state
  | .unpause admin => unpause call.1 admin state
  | .addSource admin reporter description weight =>
      Prod.snd <$> addSource call.1 admin reporter description weight state
  | .removeSource admin sourceId => removeSource call.1 admin sourceId state
  | .setWeight admin sourceId weight => setWeight call.1 admin sourceId weight state
  | .updatePrice reporter sourceId price => updatePrice call.1 reporter sourceId price state
  | .setStrategy admin strategy => setStrategy call.1 admin strategy state
  | .setMaxPriceAge admin maxAge => setMaxPriceAge call.1 admin maxAge state
  | .setOutlierBps admin bps => setOutlierBps call.1 admin bps state
  | .setCircuitBreakerBps admin bps => setCircuitBreakerBps call.1 admin bps state

def machine (contract : Address) :
    CallMachine (State Address) (Env Address contract × Operation Address) (Failure Error) where
  exec := dispatch

end SorobanPlayground.PriceFeedAggregator
