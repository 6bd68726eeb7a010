import SorobanPlayground.Host

/-! # The yield optimizer

A user holds at most one position in each strategy: the principal paid in and
the balance it has grown to. Each strategy keeps a running total of the
principal. A position can be moved as a whole into the strategy with the best
risk-adjusted yield. Amounts are entries of the contract's own books.
-/

namespace SorobanPlayground.YieldOptimizer

def secsPerYear : Int := 31536000

/-- Basis points denominator. -/
def bps : Nat := 10000

/-- The largest yield in basis points. -/
def maxApyBps : Nat := 50000

def maxRiskScore : Nat := 100

def riskPenaltyDivisor : Nat := 1000

inductive Error where
  | alreadyInitialized
  | notInitialized
  | unauthorized
  | zeroAmount
  | strategyNotFound
  | noPosition
  | insufficientBalance
  | strategyPaused
  | invalidApy
  | emptyName
  | contractPaused
  | invalidFee
  | invalidRisk
  | unprofitableCompound
  | noOptimizableStrategy
  | invalidHarvestCost
  | invalidThreshold
  deriving DecidableEq, Repr

structure Strategy where
  name : String
  apyBps : Nat
  totalDeposited : Int
  isActive : Bool
  lastCompoundTs : Nat
  deriving DecidableEq, Repr

/-- A user's position in a single strategy. -/
structure Position where
  deposited : Int
  compoundedBalance : Int
  lastUpdateTs : Nat
  deriving DecidableEq, Repr

/-- What the optimizer knows of a strategy besides its record. -/
structure AdvancedStrategy where
  strategyId : Nat
  protocol : String
  feeBps : Nat
  harvestCost : Int
  minCompoundGainBps : Nat
  riskScore : Nat
  deriving DecidableEq, Repr

structure StrategyScore where
  strategyId : Nat
  grossApyBps : Nat
  feeBps : Nat
  riskScore : Nat
  riskPenaltyBps : Nat
  netApyBps : Nat
  harvestCost : Int
  minCompoundGainBps : Nat
  deriving DecidableEq, Repr

structure CompoundResult where
  strategyId : Nat
  previousBalance : Int
  grossReward : Int
  feeAmount : Int
  harvestCost : Int
  netReward : Int
  compoundedBalance : Int
  deriving DecidableEq, Repr

structure RebalanceResult where
  fromStrategyId : Nat
  toStrategyId : Nat
  movedAmount : Int
  previousNetApyBps : Nat
  newNetApyBps : Nat
  deriving DecidableEq, Repr

structure State (Address : Type) where
  admin : Option Address := none
  paused : Bool := false
  strategyCount : Nat := 0
  strategies : FiniteMap Nat Strategy := ∅
  positions : FiniteMap (Nat × Address) Position := ∅
  advancedStrategies : FiniteMap Nat AdvancedStrategy := ∅

variable {Address : Type} {contract : Address}

def State.getStrategy (state : State Address) (id : Nat) : Outcome Error Strategy :=
  orError (state.strategies.get id) .strategyNotFound

def State.setStrategy (state : State Address) (id : Nat) (strategy : Strategy) : State Address :=
  { state with strategies := state.strategies.set id strategy }

variable [DecidableEq Address] (state : State Address)

def State.getPosition (strategyId : Nat) (user : Address) : Outcome Error Position :=
  orError (state.positions.get (strategyId, user)) .noPosition

def State.setPosition (strategyId : Nat) (user : Address) (position : Position) : State Address :=
  { state with positions := state.positions.set (strategyId, user) position }

def State.removePosition (strategyId : Nat) (user : Address) : State Address :=
  { state with positions := state.positions.remove (strategyId, user) }

/-- The reward a balance earns over a number of seconds. -/
def grossReward (balance : Int) (apyBps elapsed : Nat) : Int :=
  (saturateI128 (saturateI128 (balance * apyBps) * elapsed)).tdiv (bps * secsPerYear)

/-- The position brought up to date; nothing is written. -/
def accrue (position : Position) (strategy : Strategy) (now : Nat) : Position :=
  let elapsed := now - position.lastUpdateTs
  if elapsed = 0 ∨ strategy.apyBps = 0 ∨ position.compoundedBalance = 0 then position
  else
    { position with
      compoundedBalance := saturateI128 (position.compoundedBalance +
        grossReward position.compoundedBalance strategy.apyBps elapsed)
      lastUpdateTs := now }

/-- The stored profile of a strategy, or one without fees, costs and risk. -/
def State.advancedProfileOrDefault (state : State Address) (strategyId : Nat)
    (strategy : Strategy) : AdvancedStrategy :=
  (state.advancedStrategies.get strategyId).getD
    { strategyId, protocol := strategy.name, feeBps := 0, harvestCost := 0,
      minCompoundGainBps := 0, riskScore := 0 }

def validateAdvancedProfile (protocol : String) (feeBps : Nat) (harvestCost : Int)
    (minCompoundGainBps riskScore : Nat) : Outcome Error Unit := do
  ensure (protocol ≠ "") .emptyName
  ensure (feeBps ≤ bps) .invalidFee
  ensure (0 ≤ harvestCost) .invalidHarvestCost
  ensure (minCompoundGainBps ≤ bps) .invalidThreshold
  ensure (riskScore ≤ maxRiskScore) .invalidRisk

def scoreStrategy (strategyId : Nat) (strategy : Strategy) (profile : AdvancedStrategy) :
    StrategyScore :=
  let feeDragBps := min u32Max (strategy.apyBps * profile.feeBps) / bps
  let riskPenaltyBps := min u32Max (strategy.apyBps * profile.riskScore) / riskPenaltyDivisor
  { strategyId
    grossApyBps := strategy.apyBps
    feeBps := profile.feeBps
    riskScore := profile.riskScore
    riskPenaltyBps
    netApyBps := strategy.apyBps - feeDragBps - riskPenaltyBps
    harvestCost := profile.harvestCost
    minCompoundGainBps := profile.minCompoundGainBps }

/-- The position after a compound that pays its fees and costs, if that pays off. -/
def compoundPreview (position : Position) (strategy : Strategy) (profile : AdvancedStrategy)
    (now : Nat) : Outcome Error (Position × CompoundResult) := do
  let previousBalance := position.compoundedBalance
  let elapsed := now - position.lastUpdateTs
  let gross :=
    if elapsed = 0 ∨ strategy.apyBps = 0 ∨ previousBalance = 0 then 0
    else grossReward previousBalance strategy.apyBps elapsed
  let feeAmount := (saturateI128 (gross * profile.feeBps)).tdiv bps
  let netReward := saturateI128 (saturateI128 (gross - feeAmount) - profile.harvestCost)
  let minGain := (saturateI128 (previousBalance * profile.minCompoundGainBps)).tdiv bps
  ensure (¬ (netReward ≤ 0 ∨ netReward < minGain)) .unprofitableCompound
  let compoundedBalance := saturateI128 (previousBalance + netReward)
  return ({ position with compoundedBalance, lastUpdateTs := now },
    { strategyId := profile.strategyId, previousBalance, grossReward := gross, feeAmount,
      harvestCost := profile.harvestCost, netReward, compoundedBalance })

def assertInitialized (state : State Address) : Outcome Error Unit :=
  ensure (state.admin.isSome = true) .notInitialized

def assertNotPaused (state : State Address) : Outcome Error Unit :=
  ensure (state.paused = false) .contractPaused

variable (env : Env Address contract)

def assertAdmin (caller : Address) (state : State Address) : Outcome Error Unit := do
  assertInitialized state
  requireAuth env caller
  let admin ← orError state.admin .notInitialized
  ensure (caller = admin) .unauthorized

def initializeOptimizer (admin : Address) (state : State Address) :
    Outcome Error (State Address) := do
  ensure (state.admin.isSome = false) .alreadyInitialized
  requireAuth env admin
  return { state with admin := some admin, strategyCount := 0 }

def pause (admin : Address) (state : State Address) : Outcome Error (State Address) := do
  assertAdmin env admin state
  return { state with paused := true }

def unpause (admin : Address) (state : State Address) : Outcome Error (State Address) := do
  assertAdmin env admin state
  return { state with paused := false }

/-- Returns the id of the new strategy. -/
def addStrategy (admin : Address) (name : String) (apyBps : Nat) (state : State Address) :
    Outcome Error (Nat × State Address) := do
  assertAdmin env admin state
  ensure (name ≠ "") .emptyName
  ensure (apyBps ≤ maxApyBps) .invalidApy
  let id ← inUnsigned u32Max .trap (state.strategyCount + 1)
  let strategy : Strategy :=
    { name, apyBps, totalDeposited := 0, isActive := true, lastCompoundTs := env.timestamp }
  return (id, { state.setStrategy id strategy with strategyCount := id })

def updateApy (admin : Address) (strategyId newApyBps : Nat) (state : State Address) :
    Outcome Error (State Address) := do
  assertAdmin env admin state
  ensure (newApyBps ≤ maxApyBps) .invalidApy
  let strategy ← state.getStrategy strategyId
  return state.setStrategy strategyId { strategy with apyBps := newApyBps }

def setStrategyActive (admin : Address) (strategyId : Nat) (active : Bool) (state : State Address) :
    Outcome Error (State Address) := do
  assertAdmin env admin state
  let strategy ← state.getStrategy strategyId
  return state.setStrategy strategyId { strategy with isActive := active }

def configureAdvancedStrategy (admin : Address) (strategyId : Nat) (protocol : String)
    (feeBps : Nat) (harvestCost : Int) (minCompoundGainBps riskScore : Nat) (state : State Address)
    :
    Outcome Error (State Address) := do
  assertAdmin env admin state
  let _ ← state.getStrategy strategyId
  validateAdvancedProfile protocol feeBps harvestCost minCompoundGainBps riskScore
  let profile : AdvancedStrategy :=
    { strategyId, protocol, feeBps, harvestCost, minCompoundGainBps, riskScore }
  return { state with advancedStrategies := state.advancedStrategies.set strategyId profile }

/-- The user's position brought up to date, or a new one. -/
def State.accruedPosition (state : State Address) (strategyId : Nat) (user : Address)
    (strategy : Strategy) (now : Nat) : Position :=
  match state.positions.get (strategyId, user) with
  | some position => accrue position strategy now
  | none => { deposited := 0, compoundedBalance := 0, lastUpdateTs := now }

def deposit (user : Address) (strategyId : Nat) (amount : Int) (state : State Address) :
    Outcome Error (State Address) := do
  assertNotPaused state
  requireAuth env user
  ensure (0 < amount) .zeroAmount
  let strategy ← state.getStrategy strategyId
  ensure (strategy.isActive = true) .strategyPaused
  let position := state.accruedPosition strategyId user strategy env.timestamp
  let deposited ← checkedAdd .trap position.deposited amount
  let compoundedBalance ← checkedAdd .trap position.compoundedBalance amount
  let totalDeposited ← checkedAdd .trap strategy.totalDeposited amount
  return (state.setPosition strategyId user
    { deposited, compoundedBalance, lastUpdateTs := env.timestamp }).setStrategy strategyId
      { strategy with totalDeposited }

/-- Withdraws from the compounded balance. -/
def withdraw (user : Address) (strategyId : Nat) (amount : Int) (state : State Address) :
    Outcome Error (Int × State Address) := do
  assertNotPaused state
  requireAuth env user
  ensure (0 < amount) .zeroAmount
  let strategy ← state.getStrategy strategyId
  let stored ← state.getPosition strategyId user
  let position := accrue stored strategy env.timestamp
  ensure (amount ≤ position.compoundedBalance) .insufficientBalance
  let compoundedBalance ← checkedSub .trap position.compoundedBalance amount
  let deposited ← checkedSub .trap position.deposited (min amount position.deposited)
  let totalDeposited ←
    checkedSub .trap strategy.totalDeposited (min amount strategy.totalDeposited)
  let settled :=
    if compoundedBalance = 0 then state.removePosition strategyId user
    else state.setPosition strategyId user
      { deposited, compoundedBalance, lastUpdateTs := env.timestamp }
  return (amount, settled.setStrategy strategyId { strategy with totalDeposited })

/-- Compounds a position; anyone may call it. -/
def compound (user : Address) (strategyId : Nat) (state : State Address) :
    Outcome Error (Int × State Address) := do
  assertNotPaused state
  let strategy ← state.getStrategy strategyId
  let stored ← state.getPosition strategyId user
  let position := accrue stored strategy env.timestamp
  return (position.compoundedBalance,
    (state.setPosition strategyId user position).setStrategy strategyId
      { strategy with lastCompoundTs := env.timestamp })

/-- Compounds a position when that pays off; anyone may call it. -/
def compoundProfitably (user : Address) (strategyId : Nat) (state : State Address) :
    Outcome Error (CompoundResult × State Address) := do
  assertNotPaused state
  let strategy ← state.getStrategy strategyId
  ensure (strategy.isActive = true) .strategyPaused
  let profile := state.advancedProfileOrDefault strategyId strategy
  let position ← state.getPosition strategyId user
  let (newPosition, result) ← compoundPreview position strategy profile env.timestamp
  return (result, (state.setPosition strategyId user newPosition).setStrategy strategyId
    { strategy with lastCompoundTs := env.timestamp })

/-- One round of the search for the best strategy: its id and its net yield. -/
def bestNext (state : State Address) (maxRisk : Nat) (best : Nat × Nat) (id : Nat) : Nat × Nat :=
  match state.strategies.get id with
  | none => best
  | some strategy =>
      let profile := state.advancedProfileOrDefault id strategy
      let score := scoreStrategy id strategy profile
      if strategy.isActive = false ∨ maxRisk < profile.riskScore then best
      else if best.2 < score.netApyBps then (id, score.netApyBps) else best

/-- The active strategy with the highest risk-adjusted yield. -/
def bestAdvancedStrategy (maxRisk : Nat) (state : State Address) : Outcome Error Nat := do
  assertInitialized state
  ensure (maxRisk ≤ maxRiskScore) .invalidRisk
  let best := (List.range' 1 state.strategyCount).foldl (bestNext state maxRisk) (0, 0)
  ensure (best.1 ≠ 0) .noOptimizableStrategy
  return best.1

/-- Moves a whole position into the best strategy when that improves the risk-adjusted yield. What
has been earned becomes principal there. -/
def rebalanceToBest (user : Address) (fromStrategyId maxRisk : Nat) (state : State Address) :
    Outcome Error (RebalanceResult × State Address) := do
  assertNotPaused state
  requireAuth env user
  let toStrategyId ← bestAdvancedStrategy maxRisk state
  ensure (toStrategyId ≠ fromStrategyId) .noOptimizableStrategy
  let fromStrategy ← state.getStrategy fromStrategyId
  let toStrategy ← state.getStrategy toStrategyId
  ensure (¬ (fromStrategy.isActive = false ∨ toStrategy.isActive = false)) .strategyPaused
  let fromProfile := state.advancedProfileOrDefault fromStrategyId fromStrategy
  let toProfile := state.advancedProfileOrDefault toStrategyId toStrategy
  let previousNetApyBps := (scoreStrategy fromStrategyId fromStrategy fromProfile).netApyBps
  let newNetApyBps := (scoreStrategy toStrategyId toStrategy toProfile).netApyBps
  ensure (previousNetApyBps < newNetApyBps) .noOptimizableStrategy
  let stored ← state.getPosition fromStrategyId user
  let fromPosition := accrue stored fromStrategy env.timestamp
  let movedAmount := fromPosition.compoundedBalance
  ensure (0 < movedAmount) .zeroAmount
  let movedDeposited := min fromPosition.deposited movedAmount
  let fromTotal :=
    saturateI128 (fromStrategy.totalDeposited - min movedDeposited fromStrategy.totalDeposited)
  let toTotal := saturateI128 (toStrategy.totalDeposited + movedAmount)
  let toPosition := state.accruedPosition toStrategyId user toStrategy env.timestamp
  let emptied := state.removePosition fromStrategyId user
  let filled := emptied.setPosition toStrategyId user
    { deposited := saturateI128 (toPosition.deposited + movedAmount)
      compoundedBalance := saturateI128 (toPosition.compoundedBalance + movedAmount)
      lastUpdateTs := env.timestamp }
  return ({ fromStrategyId, toStrategyId, movedAmount, previousNetApyBps, newNetApyBps },
    (filled.setStrategy fromStrategyId
      { fromStrategy with totalDeposited := fromTotal }).setStrategy toStrategyId
        { toStrategy with totalDeposited := toTotal })

inductive Operation (Address : Type) where
  | initializeOptimizer (admin : Address)
  | pause (admin : Address)
  | unpause (admin : Address)
  | addStrategy (admin : Address) (name : String) (apyBps : Nat)
  | updateApy (admin : Address) (strategyId newApyBps : Nat)
  | setStrategyActive (admin : Address) (strategyId : Nat) (active : Bool)
  | configureAdvancedStrategy (admin : Address) (strategyId : Nat) (protocol : String)
      (feeBps : Nat) (harvestCost : Int) (minCompoundGainBps riskScore : Nat)
  | deposit (user : Address) (strategyId : Nat) (amount : Int)
  | withdraw (user : Address) (strategyId : Nat) (amount : Int)
  | compound (user : Address) (strategyId : Nat)
  | compoundProfitably (user : Address) (strategyId : Nat)
  | rebalanceToBest (user : Address) (fromStrategyId maxRisk : Nat)

def dispatch (state : State Address) (call : Env Address contract × Operation Address) :
    Outcome Error (State Address) :=
  match call.2 with
  | .initializeOptimizer admin => initializeOptimizer call.1 admin state
  | .pause admin => pause call.1 admin state
  | .unpause admin => unpause call.1 admin state
  | .addStrategy admin name apyBps => Prod.snd <$> addStrategy call.1 admin name apyBps state
  | .updateApy admin strategyId newApyBps => updateApy call.1 admin strategyId newApyBps state
  | .setStrategyActive admin strategyId active =>
      setStrategyActive call.1 admin strategyId active state
  | .configureAdvancedStrategy admin strategyId protocol feeBps harvestCost minCompoundGainBps
      riskScore =>
      configureAdvancedStrategy call.1 admin strategyId protocol feeBps harvestCost
        minCompoundGainBps riskScore state
  | .deposit user strategyId amount => deposit call.1 user strategyId amount state
  | .withdraw user strategyId amount => Prod.snd <$> withdraw call.1 user strategyId amount state
  | .compound user strategyId => Prod.snd <$> compound call.1 user strategyId state
  | .compoundProfitably user strategyId =>
      Prod.snd <$> compoundProfitably call.1 user strategyId state
  | .rebalanceToBest user fromStrategyId maxRisk =>
      Prod.snd <$> rebalanceToBest call.1 user fromStrategyId maxRisk state

def machine (contract : Address) :
    CallMachine (State Address) (Env Address contract × Operation Address) (Failure Error) where
  exec := dispatch

end SorobanPlayground.YieldOptimizer
