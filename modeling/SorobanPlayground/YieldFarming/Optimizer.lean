import SorobanPlayground.YieldFarming.Vault

/-! # The yield-farming optimizer

`buildAllocation` splits an amount over the active strategies: in proportion to
their scores, capped by the share of the portfolio a strategy may take and by
its remaining capacity, with what the caps cut off handed to the best scored
strategies that have room.
-/

namespace SorobanPlayground.YieldFarming

structure Allocation where
  strategyId : Nat
  amount : Int
  weightBps : Nat
  projectedApyBps : Nat
  deriving DecidableEq, Repr

variable {Address : Type} [DecidableEq Address] {contract : Address}

omit [DecidableEq Address]

def State.poolConfigOrDefault (state : State Address) (strategyId : Nat) : PoolConfig :=
  (state.poolConfigs.get strategyId).getD
    { annualRewards := 0, capacity := 0, feeBps := 0, riskScore := 0, maxAllocationBps := bpsDenom }

def calculateDynamicApy (strategy : Strategy) (config : PoolConfig) (projectedTvl : Int) :
    Outcome Error Nat := do
  let grossApy ←
    (if 0 < config.annualRewards ∧ 0 < projectedTvl then do
      let scaled ← checkedMul (.error .arithmeticOverflow) config.annualRewards bpsDenom
      return castU32 (min (scaled.tdiv projectedTvl) maxApyBps)
    else pure strategy.apyBps)
  let netShare ← checkedSubUnsigned .trap bpsDenom config.feeBps
  return min u32Max (grossApy * netShare) / bpsDenom

def dynamicApy (strategyId : Nat) (additionalAmount : Int) (state : State Address) :
    Outcome Error Nat := do
  ensure (0 ≤ additionalAmount) .invalidPoolConfig
  let strategy ← state.getStrategy strategyId
  let config := state.poolConfigOrDefault strategyId
  let projectedTvl ←
    checkedAdd (.error .arithmeticOverflow) strategy.totalDeposited additionalAmount
  ensure (¬ (0 < config.capacity ∧ config.capacity < projectedTvl)) .insufficientCapacity
  calculateDynamicApy strategy config projectedTvl

/-- The total of a strategy without the principal of one user. -/
def State.tvlExcludingUser (state : State Address) (strategyId : Nat) (strategy : Strategy)
    (excludedUser : Option Address) : Int :=
  match excludedUser with
  | none => strategy.totalDeposited
  | some user =>
      match state.positions.get (strategyId, user) with
      | none => strategy.totalDeposited
      | some position =>
          saturateI128 (strategy.totalDeposited - min position.deposited strategy.totalDeposited)

/-- The largest amount that the portfolio may place in one strategy. -/
def portfolioCap (totalAmount : Int) (config : PoolConfig) : Outcome Error Int := do
  let scaled ← checkedMul (.error .arithmeticOverflow) totalAmount config.maxAllocationBps
  return scaled.tdiv bpsDenom

/-- The amount that a strategy's capacity leaves room for. -/
def capacityRoom (totalAmount : Int) (config : PoolConfig) (baseTvl : Int) : Int :=
  if config.capacity = 0 then totalAmount else saturateI128 (config.capacity - baseTvl)

variable (state : State Address) (totalAmount : Int) (maxRisk : Nat) (excludedUser : Option Address)

/-- The score of one strategy; strategies that cannot be used score zero. -/
def strategyScore (strategyId : Nat) : Outcome Error Nat := do
  let strategy ← state.getStrategy strategyId
  let config := state.poolConfigOrDefault strategyId
  let baseTvl := state.tvlExcludingUser strategyId strategy excludedUser
  if strategy.isActive = false ∨ maxRisk < config.riskScore ∨
      ¬ (config.capacity = 0 ∨ baseTvl < config.capacity) then return 0
  else
    let cap ← portfolioCap totalAmount config
    let probeAmount := max (min cap (capacityRoom totalAmount config baseTvl)) 1
    let probeTvl ← checkedAdd (.error .arithmeticOverflow) baseTvl probeAmount
    let netApy ← calculateDynamicApy strategy config probeTvl
    let safety ← checkedSubUnsigned .trap maxRiskScore config.riskScore
    return min u32Max (netApy * safety) / maxRiskScore

/-- `total_score` as it is accumulated. -/
def totalScore (scores : List Nat) : Nat :=
  scores.foldl (fun total score => min u64Max (total + score)) 0

/-- The proportional share of one strategy under its caps. -/
def proportionalShare (total strategyId score : Nat) : Outcome Error Int := do
  let strategy ← state.getStrategy strategyId
  let config := state.poolConfigOrDefault strategyId
  let baseTvl := state.tvlExcludingUser strategyId strategy excludedUser
  let scaled ← checkedMul (.error .arithmeticOverflow) totalAmount score
  let cap ← portfolioCap totalAmount config
  return min (min (scaled.tdiv total) cap) (capacityRoom totalAmount config baseTvl)

/-- One round of the proportional split: the allocations so far and their sum. -/
def allocateNext (scores : List Nat) (total : Nat) (progress : List Allocation × Int)
    (strategyId : Nat) : Outcome Error (List Allocation × Int) :=
  let score := scores.getD (strategyId - 1) 0
  if score = 0 then pure progress
  else do
    let amount ← proportionalShare state totalAmount excludedUser total strategyId score
    let allocated ← checkedAdd (.error .arithmeticOverflow) progress.2 amount
    return (progress.1 ++ [{ strategyId, amount, weightBps := 0, projectedApyBps := 0 }], allocated)

/-- The room an allocation has left under its caps. -/
def allocationRoom (allocation : Allocation) : Outcome Error Int := do
  let strategy ← state.getStrategy allocation.strategyId
  let config := state.poolConfigOrDefault allocation.strategyId
  let baseTvl := state.tvlExcludingUser allocation.strategyId strategy excludedUser
  let cap ← portfolioCap totalAmount config
  return saturateI128 (min cap (capacityRoom totalAmount config baseTvl) - allocation.amount)

/-- The best allocation with room: its index, score and room. -/
structure Candidate where
  index : Nat
  score : Nat
  room : Int

/-- Whether a score beats the best one found so far. The first of equal scores
stays. -/
def beats (score : Nat) : Option Candidate → Bool
  | none => true
  | some best => best.score < score

/-- One round of the search for the best allocation with room. -/
def improveCandidate (scores : List Nat) (best : Option Candidate) (entry : Allocation × Nat) :
    Outcome Error (Option Candidate) := do
  let score := scores.getD (entry.1.strategyId - 1) 0
  let room ← allocationRoom state totalAmount excludedUser entry.1
  return if 0 < room ∧ beats score best = true then some { index := entry.2, score, room } else best

/-- The loop that places what remains, as rounds that each place at least one
unit: as many rounds as units remain are enough. -/
def assignResidual (scores : List Nat) : Nat → List Allocation → Int →
    Outcome Error (List Allocation)
  | 0, allocations, _ => pure allocations
  | rounds + 1, allocations, remaining =>
      if 0 < remaining then do
        let best ← allocations.zipIdx.foldlM
          (improveCandidate state totalAmount excludedUser scores) none
        let best ← orError best .insufficientCapacity
        let allocation ← orTrap allocations[best.index]?
        let added := min remaining best.room
        let amount ← checkedAdd (.error .arithmeticOverflow) allocation.amount added
        let left ← checkedSub .trap remaining added
        assignResidual scores rounds (allocations.set best.index { allocation with amount }) left
      else pure allocations

/-- One round of the final pass: empty allocations go, the others get their
projected yield and their weight. -/
def finalizeNext (progress : List Allocation × Nat) (allocation : Allocation) :
    Outcome Error (List Allocation × Nat) :=
  if allocation.amount = 0 then pure progress
  else do
    let strategy ← state.getStrategy allocation.strategyId
    let config := state.poolConfigOrDefault allocation.strategyId
    let baseTvl := state.tvlExcludingUser allocation.strategyId strategy excludedUser
    let projectedTvl ← checkedAdd (.error .arithmeticOverflow) baseTvl allocation.amount
    let projectedApyBps ← calculateDynamicApy strategy config projectedTvl
    let scaled ← checkedMul (.error .arithmeticOverflow) allocation.amount bpsDenom
    let weightBps := min (castU32 (scaled.tdiv totalAmount)) (bpsDenom - progress.2)
    return (progress.1 ++ [{ allocation with projectedApyBps, weightBps }],
      min u32Max (progress.2 + weightBps))

/-- The last allocation takes the weight that rounding left. -/
def completeWeights (allocations : List Allocation) (assigned : Nat) :
    Outcome Error (List Allocation) := do
  let last ← orError allocations.getLast? .insufficientCapacity
  let weightBps := min u32Max (last.weightBps + (bpsDenom - assigned))
  return allocations.dropLast ++ [{ last with weightBps }]

def buildAllocation : Outcome Error (List Allocation) := do
  ensure (0 < totalAmount) .zeroAmount
  ensure (maxRisk ≤ maxRiskScore) .invalidRiskScore
  let scores ← state.strategyIds.mapM (strategyScore state totalAmount maxRisk excludedUser)
  ensure (totalScore scores ≠ 0) .noOptimizableStrategy
  let (allocations, allocated) ← state.strategyIds.foldlM
    (allocateNext state totalAmount excludedUser scores (totalScore scores)) ([], 0)
  let remaining := saturateI128 (totalAmount - allocated)
  let filled ←
    assignResidual state totalAmount excludedUser scores remaining.toNat allocations remaining
  let (finalAllocations, assigned) ←
    filled.foldlM (finalizeNext state totalAmount excludedUser) ([], 0)
  completeWeights finalAllocations assigned

/-- `amount × projected yield`, added up with overflow checks. -/
def weightedYield (allocations : List Allocation) : Outcome Error Int :=
  allocations.foldlM (fun total allocation => do
    let product ←
      checkedMul (.error .arithmeticOverflow) allocation.amount allocation.projectedApyBps
    checkedAdd (.error .arithmeticOverflow) total product) 0

def optimizeAllocation (totalAmount : Int) (maxRisk : Nat) (state : State Address) :
    Outcome Error (List Allocation) :=
  buildAllocation state totalAmount maxRisk none

def getOptimizationPreview (totalAmount : Int) (maxRisk : Nat) (state : State Address) :
    Outcome Error (List Allocation × Nat) := do
  let allocations ← buildAllocation state totalAmount maxRisk none
  let total ← weightedYield allocations
  return (allocations, if 0 < totalAmount then castU32 (total.tdiv totalAmount) else 0)

structure RebalanceResult where
  totalBalance : Int
  previousWeightedApyBps : Nat
  newWeightedApyBps : Nat
  allocations : List Allocation
  deriving DecidableEq, Repr

/-- What a user holds: the balance, the yield weighted by it, and whether there
is any position. -/
structure Portfolio where
  totalBalance : Int
  weightedYield : Int
  found : Bool

/-- One round of adding up a user's portfolio. -/
def portfolioNext (user : Address) (now : Nat) (portfolio : Portfolio) (strategyId : Nat) :
    Outcome Error Portfolio :=
  if state.hasPosition strategyId user = true then do
    let strategy ← state.getStrategy strategyId
    let stored ← state.getPosition strategyId user
    let position := compoundPosition stored strategy now
    let config := state.poolConfigOrDefault strategyId
    let apy ← calculateDynamicApy strategy config strategy.totalDeposited
    let totalBalance ←
      checkedAdd (.error .arithmeticOverflow) portfolio.totalBalance position.compoundedBalance
    let product ← checkedMul (.error .arithmeticOverflow) position.compoundedBalance apy
    let weightedYield ← checkedAdd (.error .arithmeticOverflow) portfolio.weightedYield product
    return { totalBalance, weightedYield, found := true }
  else pure portfolio

def State.portfolio (user : Address) (now : Nat) : Outcome Error Portfolio :=
  state.strategyIds.foldlM (portfolioNext state user now)
    { totalBalance := 0, weightedYield := 0, found := false }

/-- One round of removing the old portfolio: the position goes, and its principal
leaves the strategy's total. -/
def removeNext (user : Address) (now : Nat) (state : State Address) (strategyId : Nat) :
    Outcome Error (State Address) :=
  if state.hasPosition strategyId user = true then do
    let strategy ← state.getStrategy strategyId
    let stored ← state.getPosition strategyId user
    let position := compoundPosition stored strategy now
    let totalDeposited :=
      saturateI128 (strategy.totalDeposited - min position.deposited strategy.totalDeposited)
    return (state.removePosition strategyId user).setStrategy strategyId
      { strategy with totalDeposited }
  else pure state

/-- One round of writing the new portfolio. -/
def openNext (user : Address) (now : Nat) (state : State Address) (allocation : Allocation) :
    Outcome Error (State Address) := do
  let strategy ← state.getStrategy allocation.strategyId
  let totalDeposited ←
    checkedAdd (.error .arithmeticOverflow) strategy.totalDeposited allocation.amount
  return (state.setStrategy allocation.strategyId { strategy with totalDeposited }).setPosition
    allocation.strategyId user
    { deposited := allocation.amount, compoundedBalance := allocation.amount, lastUpdateTs := now }

/-- Replace all positions of a user by the optimizer's allocation. -/
def rebalance (env : Env Address contract) (user : Address) (maxRisk : Nat)
    (state : State Address) : Outcome Error (RebalanceResult × State Address) := do
  assertInitialized state
  requireAuth env user
  ensure (maxRisk ≤ maxRiskScore) .invalidRiskScore
  let portfolio ← state.portfolio user env.timestamp
  ensure (¬ (portfolio.found = false ∨ portfolio.totalBalance ≤ 0)) .noPosition
  let allocations ← buildAllocation state portfolio.totalBalance maxRisk (some user)
  let previousWeightedApyBps := castU32 (portfolio.weightedYield.tdiv portfolio.totalBalance)
  let newWeightedYield ← weightedYield allocations
  let newWeightedApyBps := castU32 (newWeightedYield.tdiv portfolio.totalBalance)
  ensure (previousWeightedApyBps < newWeightedApyBps) .noOptimizableStrategy
  let emptied ← state.strategyIds.foldlM (removeNext user env.timestamp) state
  let opened ← allocations.foldlM (openNext user env.timestamp) emptied
  return ({ totalBalance := portfolio.totalBalance, previousWeightedApyBps, newWeightedApyBps,
            allocations }, opened)

/-- Rebalance when the preview promises enough; says whether it did. -/
def autoRebalanceThreshold (env : Env Address contract) (user : Address)
    (maxRisk minImprovementBps : Nat) (state : State Address) :
    Outcome Error (Bool × State Address) := do
  assertInitialized state
  requireAuth env user
  ensure (maxRisk ≤ maxRiskScore) .invalidRiskScore
  let portfolio ← state.portfolio user env.timestamp
  if portfolio.found = false ∨ portfolio.totalBalance ≤ 0 then return (false, state)
  else
    let currentWeightedApy := castU32 (portfolio.weightedYield.tdiv portfolio.totalBalance)
    let preview ← getOptimizationPreview portfolio.totalBalance maxRisk state
    let proposedApy := preview.2
    if proposedApy - currentWeightedApy < minImprovementBps then return (false, state)
    else
      let rebalanced ← rebalance env user maxRisk state
      return (true, rebalanced.2)

inductive Operation (Address : Type) where
  | initializeVault (admin : Address)
  | addStrategy (admin : Address) (name : String) (apyBps : Nat)
  | updateStrategyApy (admin : Address) (strategyId newApyBps : Nat)
  | setStrategyActive (admin : Address) (strategyId : Nat) (isActive : Bool)
  | configurePool (admin : Address) (strategyId : Nat) (config : PoolConfig)
  | deposit (user : Address) (strategyId : Nat) (amount : Int)
  | withdraw (user : Address) (strategyId : Nat) (amount : Int)
  | compound (user : Address) (strategyId : Nat)
  | compoundAll (user : Address)
  | rebalance (user : Address) (maxRisk : Nat)
  | autoRebalanceThreshold (user : Address) (maxRisk minImprovementBps : Nat)

def dispatch (call : Env Address contract × Operation Address) : Outcome Error (State Address) :=
  match call.2 with
  | .initializeVault admin => initializeVault call.1 admin state
  | .addStrategy admin name apyBps => Prod.snd <$> addStrategy call.1 admin name apyBps state
  | .updateStrategyApy admin strategyId newApyBps =>
      updateStrategyApy call.1 admin strategyId newApyBps state
  | .setStrategyActive admin strategyId isActive =>
      setStrategyActive call.1 admin strategyId isActive state
  | .configurePool admin strategyId config => configurePool call.1 admin strategyId config state
  | .deposit user strategyId amount => deposit call.1 user strategyId amount state
  | .withdraw user strategyId amount => Prod.snd <$> withdraw call.1 user strategyId amount state
  | .compound user strategyId => Prod.snd <$> compound call.1 user strategyId state
  | .compoundAll user => Prod.snd <$> compoundAll call.1 user state
  | .rebalance user maxRisk => Prod.snd <$> rebalance call.1 user maxRisk state
  | .autoRebalanceThreshold user maxRisk minImprovementBps =>
      Prod.snd <$> autoRebalanceThreshold call.1 user maxRisk minImprovementBps state

def machine (contract : Address) :
    CallMachine (State Address) (Env Address contract × Operation Address) (Failure Error) where
  exec := dispatch

end SorobanPlayground.YieldFarming
