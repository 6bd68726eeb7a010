import SorobanPlayground.Host

/-! # The TWAP oracle

Feeders submit spot prices of registered assets. Each observation carries a running
total of price times seconds, and the average over a window is read off the totals of
two observations. The latest two hundred observations of an asset are kept.
-/

namespace SorobanPlayground.TwapOracle

/-- The observations kept for an asset. -/
def maxObservations : Nat := 200

/-- The window when none is asked for, one hour. -/
def defaultWindowSecs : Nat := 3600

inductive Error where
  | alreadyInitialized
  | notInitialized
  | unauthorized
  | unknownFeeder
  | assetNotFound
  | insufficientObservations
  | invalidPrice
  | invalidWindow
  | emptyAssetId
  | maxObservationsExceeded
  | oraclePaused
  | duplicateSymbol
  | staleObservation
  deriving DecidableEq, Repr

structure Observation (Address : Type) where
  feeder : Address
  price : Int
  timestamp : Nat
  cumulativePrice : Int
  deriving DecidableEq, Repr

structure TwapResult where
  price : Int
  windowStart : Nat
  windowEnd : Nat
  observationCount : Nat
  deriving DecidableEq, Repr

structure AssetConfig where
  symbol : String
  maxStaleness : Nat
  isActive : Bool
  deriving DecidableEq, Repr

/-- The contract's storage, with the values that absent keys stand for. -/
structure State (Address : Type) where
  admin : Option Address := none
  isPaused : Bool := false
  assetCount : Nat := 0
  feeders : FiniteMap Address Bool := ∅
  assets : FiniteMap Nat AssetConfig := ∅
  observations : FiniteMap Nat (List (Observation Address)) := ∅
  assetSymbols : FiniteMap String Nat := ∅

variable {Address : Type} [DecidableEq Address] {contract : Address} (state : State Address)

def State.isFeeder (feeder : Address) : Bool := (state.feeders.get feeder).getD false

def State.getAsset (assetId : Nat) : Outcome Error AssetConfig :=
  orError (state.assets.get assetId) .assetNotFound

def State.getObservations (assetId : Nat) : List (Observation Address) :=
  (state.observations.get assetId).getD []

/-- Append an observation; the oldest is dropped when there are already enough. -/
def State.pushObservation (assetId : Nat) (obs : Observation Address) (maxObs : Nat) :
    State Address :=
  let all := state.getObservations assetId
  let kept := if maxObs ≤ all.length then all.tail else all
  { state with observations := state.observations.set assetId (kept ++ [obs]) }

def assertInitialized : Outcome Error Unit := ensure (state.admin.isSome = true) .notInitialized

def assertAdmin (env : Env Address contract) (caller : Address) : Outcome Error Unit := do
  assertInitialized state
  requireAuth env caller
  let admin ← orError state.admin .notInitialized
  ensure (caller = admin) .unauthorized

variable (env : Env Address contract)

def initializeOracle (admin : Address) (state : State Address) : Outcome Error (State Address) := do
  ensure (state.admin.isSome = false) .alreadyInitialized
  requireAuth env admin
  return { state with
    admin := some admin
    isPaused := false
    assetCount := 0 }

def setPaused (admin : Address) (paused : Bool) (state : State Address) :
    Outcome Error (State Address) := do
  assertAdmin state env admin
  return { state with isPaused := paused }

def setFeeder (admin feeder : Address) (active : Bool) (state : State Address) :
    Outcome Error (State Address) := do
  assertAdmin state env admin
  return { state with feeders := state.feeders.set feeder active }

def registerAsset (admin : Address) (symbol : String) (maxStaleness : Nat) (state : State Address) :
    Outcome Error (Nat × State Address) := do
  assertAdmin state env admin
  ensure (symbol.utf8ByteSize ≠ 0) .emptyAssetId
  ensure (maxStaleness ≠ 0) .invalidWindow
  ensure (state.assetSymbols.has symbol = false) .duplicateSymbol
  let id ← inUnsigned u32Max .trap (state.assetCount + 1)
  return (id, { state with
    assets := state.assets.set id { symbol, maxStaleness, isActive := true }
    assetSymbols := state.assetSymbols.set symbol id
    assetCount := id })

def deactivateAsset (admin : Address) (assetId : Nat) (state : State Address) :
    Outcome Error (State Address) := do
  assertAdmin state env admin
  let config ← state.getAsset assetId
  return { state with assets := state.assets.set assetId { config with isActive := false } }

/-- The running total at a time, after the last observation. -/
def cumulativeAt (obsList : List (Observation Address)) (now : Nat) : Int :=
  match obsList.getLast? with
  | none => 0
  | some last =>
      let elapsed : Int := (now - last.timestamp : Nat)
      saturateI128 (last.cumulativePrice + saturateI128 (last.price * elapsed))

def submitPrice (feeder : Address) (assetId : Nat) (price : Int) (state : State Address) :
    Outcome Error (State Address) := do
  assertInitialized state
  ensure (state.isPaused = false) .oraclePaused
  requireAuth env feeder
  ensure (state.isFeeder feeder = true) .unknownFeeder
  ensure (¬ price ≤ 0) .invalidPrice
  let config ← state.getAsset assetId
  ensure (config.isActive = true) .assetNotFound
  let now := env.timestamp
  let obs : Observation Address :=
    { feeder, price, timestamp := now,
      cumulativePrice := cumulativeAt (state.getObservations assetId) now }
  return state.pushObservation assetId obs maxObservations

/-- What the scan of the observations has found. -/
structure Scan (Address : Type) where
  startObs : Option (Observation Address) := none
  endObs : Option (Observation Address) := none
  count : Nat := 0

def scanRound (windowStart : Nat) (scan : Scan Address) (obs : Observation Address) :
    Scan Address :=
  if windowStart ≤ obs.timestamp then
    { startObs := if scan.startObs.isNone then some obs else scan.startObs
      endObs := some obs
      count := scan.count + 1 }
  else scan

def windowOf (windowSecs : Nat) : Nat :=
  if windowSecs = 0 then defaultWindowSecs else windowSecs

def getTwap (assetId windowSecs : Nat) (state : State Address) : Outcome Error TwapResult := do
  assertInitialized state
  let _asset ← state.getAsset assetId
  let window := windowOf windowSecs
  let now := env.timestamp
  let windowStart := now - window
  let all := state.getObservations assetId
  ensure (¬ all.length < 2) .insufficientObservations
  let scan := all.foldl (scanRound windowStart) {}
  let first ← orError scan.startObs .insufficientObservations
  let last ← orError scan.endObs .insufficientObservations
  ensure (¬ (scan.count < 2 ∨ last.timestamp ≤ first.timestamp)) .insufficientObservations
  let elapsed : Int := (last.timestamp - first.timestamp : Nat)
  ensure (elapsed ≠ 0) .insufficientObservations
  let cumDelta ← checkedSub (.error .invalidPrice) last.cumulativePrice first.cumulativePrice
  let twapPrice ← checkedDiv (.error .invalidPrice) cumDelta elapsed
  return {
    price := twapPrice
    windowStart := first.timestamp
    windowEnd := last.timestamp
    observationCount := scan.count }

inductive Operation (Address : Type) where
  | initializeOracle (admin : Address)
  | setPaused (admin : Address) (paused : Bool)
  | setFeeder (admin feeder : Address) (active : Bool)
  | registerAsset (admin : Address) (symbol : String) (maxStaleness : Nat)
  | deactivateAsset (admin : Address) (assetId : Nat)
  | submitPrice (feeder : Address) (assetId : Nat) (price : Int)

def dispatch (state : State Address) (call : Env Address contract × Operation Address) :
    Outcome Error (State Address) :=
  match call.2 with
  | .initializeOracle admin => initializeOracle call.1 admin state
  | .setPaused admin paused => setPaused call.1 admin paused state
  | .setFeeder admin feeder active => setFeeder call.1 admin feeder active state
  | .registerAsset admin symbol maxStaleness =>
      Prod.snd <$> registerAsset call.1 admin symbol maxStaleness state
  | .deactivateAsset admin assetId => deactivateAsset call.1 admin assetId state
  | .submitPrice feeder assetId price => submitPrice call.1 feeder assetId price state

def machine (contract : Address) :
    CallMachine (State Address) (Env Address contract × Operation Address) (Failure Error) where
  exec := dispatch

end SorobanPlayground.TwapOracle
