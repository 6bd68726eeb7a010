import SorobanPlayground.Host

/-! # The yield-farming vault: strategies and positions

A user holds at most one position in each strategy. A position grows at the
strategy's yield, lazily: its balance is brought up to date when it is touched.
Each strategy keeps the total locked across its positions. Amounts are entries
of the vault's own books; the contract calls no token.
-/

namespace SorobanPlayground.YieldFarming

def secondsPerYear : Int := 31536000

/-- Basis points denominator. -/
def bpsDenom : Nat := 10000

/-- The largest yield in basis points. -/
def maxApyBps : Nat := 10000

def maxRiskScore : Nat := 100

inductive Error where
  | alreadyInitialized
  | notInitialized
  | unauthorized
  | zeroAmount
  | strategyNotFound
  | noPosition
  | insufficientBalance
  | strategyPaused
  | invalidApy
  | emptyName
  | invalidPoolConfig
  | invalidBasisPoints
  | invalidRiskScore
  | noOptimizableStrategy
  | insufficientCapacity
  | arithmeticOverflow
  deriving DecidableEq, Repr

structure Strategy where
  name : String
  apyBps : Nat
  totalDeposited : Int
  isActive : Bool
  pendingRewards : Int
  lastCompoundTs : Nat
  deriving DecidableEq, Repr

/-- A user's position in a strategy: what was paid in, and what it has grown to. -/
structure Position where
  deposited : Int
  compoundedBalance : Int
  lastUpdateTs : Nat
  deriving DecidableEq, Repr

structure PoolConfig where
  annualRewards : Int
  capacity : Int
  feeBps : Nat
  riskScore : Nat
  maxAllocationBps : Nat
  deriving DecidableEq, Repr

structure State (Address : Type) where
  admin : Option Address := none
  strategyCount : Nat := 0
  strategies : FiniteMap Nat Strategy := ∅
  positions : FiniteMap (Nat × Address) Position := ∅
  poolConfigs : FiniteMap Nat PoolConfig := ∅

variable {Address : Type} {contract : Address}

def State.getStrategy (state : State Address) (id : Nat) : Outcome Error Strategy :=
  orError (state.strategies.get id) .strategyNotFound

def State.setStrategy (state : State Address) (id : Nat) (strategy : Strategy) : State Address :=
  { state with strategies := state.strategies.set id strategy }

def State.setStrategyCount (state : State Address) (strategyCount : Nat) : State Address :=
  { state with strategyCount }

variable [DecidableEq Address] (state : State Address)

def State.getPosition (strategyId : Nat) (user : Address) : Outcome Error Position :=
  orError (state.positions.get (strategyId, user)) .noPosition

def State.hasPosition (strategyId : Nat) (user : Address) : Bool :=
  state.positions.has (strategyId, user)

def State.setPosition (strategyId : Nat) (user : Address) (position : Position) : State Address :=
  { state with positions := state.positions.set (strategyId, user) position }

def State.removePosition (strategyId : Nat) (user : Address) : State Address :=
  { state with positions := state.positions.remove (strategyId, user) }

/-- The strategy ids `1..=count`. -/
def State.strategyIds (state : State Address) : List Nat := List.range' 1 state.strategyCount

/-- The reward a balance earns over a number of seconds. -/
def accruedReward (balance : Int) (apyBps elapsed : Nat) : Int :=
  (saturateI128 (saturateI128 (balance * apyBps) * elapsed)).tdiv (bpsDenom * secondsPerYear)

/-- The position brought up to date; nothing is written. -/
def compoundPosition (position : Position) (strategy : Strategy) (now : Nat) : Position :=
  let elapsed := now - position.lastUpdateTs
  if elapsed = 0 ∨ strategy.apyBps = 0 ∨ position.compoundedBalance = 0 then position
  else
    { position with
      compoundedBalance := saturateI128 (position.compoundedBalance +
        accruedReward position.compoundedBalance strategy.apyBps elapsed)
      lastUpdateTs := now }

/-- What a position earned: `compounded.saturating_sub(previous)`. -/
def earned (previous compounded : Position) : Int :=
  saturateI128 (compounded.compoundedBalance - previous.compoundedBalance)

def assertInitialized (state : State Address) : Outcome Error Unit :=
  ensure (state.admin.isSome = true) .notInitialized

variable (env : Env Address contract)

def assertAdmin (caller : Address) (state : State Address) : Outcome Error Unit := do
  assertInitialized state
  requireAuth env caller
  let admin ← orError state.admin .notInitialized
  ensure (caller = admin) .unauthorized

def initializeVault (admin : Address) (state : State Address) : Outcome Error (State Address) := do
  ensure (state.admin.isSome = false) .alreadyInitialized
  requireAuth env admin
  return { state with admin := some admin, strategyCount := 0 }

/-- Returns the id of the new strategy. -/
def addStrategy (admin : Address) (name : String) (apyBps : Nat) (state : State Address) :
    Outcome Error (Nat × State Address) := do
  assertAdmin env admin state
  ensure (name ≠ "") .emptyName
  ensure (apyBps ≤ maxApyBps) .invalidApy
  let id ← inUnsigned u32Max .trap (state.strategyCount + 1)
  let strategy : Strategy :=
    { name, apyBps, totalDeposited := 0, isActive := true, pendingRewards := 0,
      lastCompoundTs := env.timestamp }
  return (id, (state.setStrategy id strategy).setStrategyCount id)

def updateStrategyApy (admin : Address) (strategyId newApyBps : Nat) (state : State Address) :
    Outcome Error (State Address) := do
  assertAdmin env admin state
  ensure (newApyBps ≤ maxApyBps) .invalidApy
  let strategy ← state.getStrategy strategyId
  return state.setStrategy strategyId { strategy with apyBps := newApyBps }

def setStrategyActive (admin : Address) (strategyId : Nat) (isActive : Bool) (state : State Address)
    :
    Outcome Error (State Address) := do
  assertAdmin env admin state
  let strategy ← state.getStrategy strategyId
  return state.setStrategy strategyId { strategy with isActive }

def configurePool (admin : Address) (strategyId : Nat) (config : PoolConfig) (state : State Address)
    :
    Outcome Error (State Address) := do
  assertAdmin env admin state
  let _ ← state.getStrategy strategyId
  ensure (¬ (config.annualRewards < 0 ∨ config.capacity < 0)) .invalidPoolConfig
  ensure (¬ (bpsDenom < config.feeBps ∨ config.maxAllocationBps = 0 ∨
    bpsDenom < config.maxAllocationBps)) .invalidBasisPoints
  ensure (config.riskScore ≤ maxRiskScore) .invalidRiskScore
  return { state with poolConfigs := state.poolConfigs.set strategyId config }

/-- The position that a deposit adds to, and the reward it earned until now. -/
def positionForDeposit (state : State Address) (strategy : Strategy) (strategyId : Nat)
    (user : Address) (now : Nat) : Position × Int :=
  match state.positions.get (strategyId, user) with
  | some position =>
      let compounded := compoundPosition position strategy now
      (compounded, earned position compounded)
  | none => ({ deposited := 0, compoundedBalance := 0, lastUpdateTs := now }, 0)

def deposit (user : Address) (strategyId : Nat) (amount : Int) (state : State Address) :
    Outcome Error (State Address) := do
  assertInitialized state
  requireAuth env user
  ensure (0 < amount) .zeroAmount
  let strategy ← state.getStrategy strategyId
  ensure (strategy.isActive = true) .strategyPaused
  let (position, accrued) := positionForDeposit state strategy strategyId user env.timestamp
  let deposited ← checkedAdd .trap position.deposited amount
  let compoundedBalance ← checkedAdd .trap position.compoundedBalance amount
  let withAccrued ← checkedAdd (.error .arithmeticOverflow) strategy.totalDeposited accrued
  let totalDeposited ← checkedAdd (.error .arithmeticOverflow) withAccrued amount
  return (state.setPosition strategyId user
    { deposited, compoundedBalance, lastUpdateTs := env.timestamp }).setStrategy strategyId
      { strategy with totalDeposited }

/-- Withdraws from the compounded balance. -/
def withdraw (user : Address) (strategyId : Nat) (amount : Int) (state : State Address) :
    Outcome Error (Int × State Address) := do
  assertInitialized state
  requireAuth env user
  ensure (0 < amount) .zeroAmount
  let strategy ← state.getStrategy strategyId
  let previous ← state.getPosition strategyId user
  let position := compoundPosition previous strategy env.timestamp
  let accrued := earned previous position
  ensure (amount ≤ position.compoundedBalance) .insufficientBalance
  let compoundedBalance ← checkedSub .trap position.compoundedBalance amount
  let deposited ← checkedSub .trap position.deposited (min amount position.deposited)
  let withAccrued ← checkedAdd (.error .arithmeticOverflow) strategy.totalDeposited accrued
  let totalDeposited ← checkedSub .trap withAccrued (min amount withAccrued)
  let settled :=
    if compoundedBalance = 0 then state.removePosition strategyId user
    else state.setPosition strategyId user
      { deposited, compoundedBalance, lastUpdateTs := env.timestamp }
  return (amount, settled.setStrategy strategyId { strategy with totalDeposited })

/-- Compounds one position; anyone may call it. The total saturates here. -/
def compound (user : Address) (strategyId : Nat) (state : State Address) :
    Outcome Error (Int × State Address) := do
  assertInitialized state
  let strategy ← state.getStrategy strategyId
  let previous ← state.getPosition strategyId user
  let compounded := compoundPosition previous strategy env.timestamp
  let totalDeposited := saturateI128 (strategy.totalDeposited + earned previous compounded)
  return (compounded.compoundedBalance,
    (state.setPosition strategyId user compounded).setStrategy strategyId
      { strategy with totalDeposited, lastCompoundTs := env.timestamp })

/-- The progress of `compoundAll`. -/
structure CompoundProgress (Address : Type) where
  state : State Address
  totalReward : Int
  found : Bool

/-- One round of `compoundAll`. -/
def compoundNext (user : Address) (progress : CompoundProgress Address) (strategyId : Nat) :
    Outcome Error (CompoundProgress Address) :=
  if progress.state.hasPosition strategyId user = true then do
    let strategy ← progress.state.getStrategy strategyId
    let previous ← progress.state.getPosition strategyId user
    let compounded := compoundPosition previous strategy env.timestamp
    let reward := earned previous compounded
    let totalReward ← checkedAdd (.error .arithmeticOverflow) progress.totalReward reward
    let totalDeposited ← checkedAdd (.error .arithmeticOverflow) strategy.totalDeposited reward
    return {
      state := (progress.state.setPosition strategyId user compounded).setStrategy strategyId
        { strategy with totalDeposited, lastCompoundTs := env.timestamp }
      totalReward
      found := true }
  else pure progress

/-- Compounds every position of a user and returns the total reward. -/
def compoundAll (user : Address) (state : State Address) : Outcome Error (Int × State Address) := do
  assertInitialized state
  let final ← state.strategyIds.foldlM (compoundNext env user)
    { state, totalReward := 0, found := false }
  ensure (final.found = true) .noPosition
  return (final.totalReward, final.state)

/-- The position of a user, brought up to date. -/
def getPosition (env : Env Address contract) (user : Address) (strategyId : Nat)
    (state : State Address) : Outcome Error Position := do
  let strategy ← state.getStrategy strategyId
  let position ← state.getPosition strategyId user
  return compoundPosition position strategy env.timestamp

end SorobanPlayground.YieldFarming
