import SorobanPlayground.Host

/-! # The swap aggregator

The aggregator keeps the reserves of registered pools. It quotes a swap against
each pool, searches for the best route of one or two hops between two tokens, and
executes a swap along a route that the caller supplies or that it found itself.
-/

namespace SorobanPlayground.DexAggregator

/-- Ten percent. -/
def maxFeeBps : Nat := 1000

/-- Fifty percent. -/
def maxPriceImpactBps : Nat := 5000

inductive Error where
  | alreadyInitialized
  | notInitialized
  | unauthorized
  | poolNotFound
  | emptyRoute
  | zeroAmount
  | slippageExceeded
  | emptyName
  | emptyToken
  | poolInactive
  | invalidHop
  | routeTooLong
  | invalidFee
  | zeroLiquidity
  | noRouteFound
  | priceImpactTooHigh
  deriving DecidableEq, Repr

structure Pool where
  name : String
  tokenA : String
  tokenB : String
  reserveA : Int
  reserveB : Int
  feeBps : Nat
  isActive : Bool
  totalVolume : Int
  swapCount : Nat
  deriving DecidableEq, Repr

structure RouteHop where
  poolId : Nat
  tokenIn : String
  tokenOut : String
  deriving DecidableEq, Repr

/-- A route of one or more hops. -/
structure Route where
  hops : List RouteHop
  estimatedOut : Int
  totalFeeBps : Nat
  priceImpactBps : Nat
  deriving DecidableEq, Repr

structure SwapResult where
  amountIn : Int
  amountOut : Int
  route : Route
  executedAt : Nat
  deriving DecidableEq, Repr

structure PriceQuote where
  poolId : Nat
  tokenIn : String
  tokenOut : String
  amountIn : Int
  amountOut : Int
  feeBps : Nat
  priceImpactBps : Nat
  deriving DecidableEq, Repr

/-- The contract's storage, with the values that absent keys stand for. -/
structure State (Address : Type) where
  admin : Option Address := none
  poolCount : Nat := 0
  maxHops : Nat := 3
  protocolFeeBps : Nat := 0
  protocolFeeAccrued : Int := 0
  pools : FiniteMap Nat Pool := ∅
  userVolume : FiniteMap Address Int := ∅

variable {Address : Type} [DecidableEq Address] {contract : Address}

def assertInitialized (state : State Address) : Outcome Error Unit :=
  ensure (state.admin.isSome = true) .notInitialized

variable (env : Env Address contract)

def assertAdmin (caller : Address) (state : State Address) : Outcome Error Unit := do
  assertInitialized state
  requireAuth env caller
  let admin ← orError state.admin .notInitialized
  ensure (caller = admin) .unauthorized

def initializeAggregator (admin : Address) (maxHops protocolFeeBps : Nat) (state : State Address) :
    Outcome Error (State Address) := do
  ensure (state.admin.isSome = false) .alreadyInitialized
  ensure (¬ maxFeeBps < protocolFeeBps) .invalidFee
  requireAuth env admin
  return { state with
    admin := some admin
    poolCount := 0
    maxHops := min (max maxHops 1) 5
    protocolFeeBps }

/-- Returns the id of the pool. -/
def addPool (admin : Address) (name tokenA tokenB : String) (reserveA reserveB : Int) (feeBps : Nat)
    (state : State Address) : Outcome Error (Nat × State Address) := do
  assertAdmin env admin state
  ensure (¬ name.length = 0) .emptyName
  ensure (¬ (tokenA.length = 0 ∨ tokenB.length = 0)) .emptyToken
  ensure (¬ maxFeeBps < feeBps) .invalidFee
  ensure (¬ (reserveA ≤ 0 ∨ reserveB ≤ 0)) .zeroLiquidity
  let id ← inUnsigned u32Max .trap (state.poolCount + 1)
  let pool : Pool :=
    { name, tokenA, tokenB, reserveA, reserveB, feeBps, isActive := true, totalVolume := 0,
      swapCount := 0 }
  return (id, { state with
    pools := state.pools.set id pool
    poolCount := id })

def updateReserves (admin : Address) (poolId : Nat) (reserveA reserveB : Int)
    (state : State Address) : Outcome Error (State Address) := do
  assertAdmin env admin state
  ensure (¬ (reserveA ≤ 0 ∨ reserveB ≤ 0)) .zeroLiquidity
  let pool ← orError (state.pools.get poolId) .poolNotFound
  return { state with pools := state.pools.set poolId { pool with reserveA, reserveB } }

def setPoolActive (admin : Address) (poolId : Nat) (active : Bool) (state : State Address) :
    Outcome Error (State Address) := do
  assertAdmin env admin state
  let pool ← orError (state.pools.get poolId) .poolNotFound
  return { state with pools := state.pools.set poolId { pool with isActive := active } }

def setProtocolFee (admin : Address) (feeBps : Nat) (state : State Address) :
    Outcome Error (State Address) := do
  assertAdmin env admin state
  ensure (¬ maxFeeBps < feeBps) .invalidFee
  return { state with protocolFeeBps := feeBps }

/-- The output of a constant-product pool and its price impact. -/
def ammOut (amountIn reserveIn reserveOut : Int) (feeBps : Nat) : Int × Nat :=
  if reserveIn ≤ 0 ∨ reserveOut ≤ 0 ∨ amountIn ≤ 0 then (0, 0)
  else
    let feeFactor : Int := max (10000 - feeBps) 0
    let dxWithFee := saturateI128 (amountIn * feeFactor)
    let numerator := saturateI128 (dxWithFee * reserveOut)
    let denominator := saturateI128 (saturateI128 (reserveIn * 10000) + dxWithFee)
    if denominator = 0 then (0, 0)
    else
      let out := numerator.tdiv denominator
      let ideal := (saturateI128 (amountIn * reserveOut)).tdiv reserveIn
      let impactBps :=
        if 0 < ideal ∧ out < ideal then
          castU32 ((saturateI128 ((ideal - out) * 10000)).tdiv ideal)
        else 0
      (out, impactBps)

/-- The reserves of the input and of the output token, for a pool of both. -/
def Pool.reservesFor (pool : Pool) (tokenIn tokenOut : String) : Option (Int × Int) :=
  if pool.tokenA = tokenIn ∧ pool.tokenB = tokenOut then some (pool.reserveA, pool.reserveB)
  else if pool.tokenB = tokenIn ∧ pool.tokenA = tokenOut then some (pool.reserveB, pool.reserveA)
  else none

variable (state : State Address)

/-- The pool of an id, if it exists and is active. -/
def State.activePool (id : Nat) : Option Pool :=
  (state.pools.get id).filter Pool.isActive

/-- The ids `1..=count`. -/
def State.poolIds : List Nat := List.range' 1 state.poolCount

/-- Quotes of every active pool of the pair. -/
def getQuotes (tokenIn tokenOut : String) (amountIn : Int) (state : State Address) :
    Outcome Error (List PriceQuote) := do
  assertInitialized state
  ensure (¬ amountIn ≤ 0) .zeroAmount
  return state.poolIds.filterMap fun id => do
    let pool ← state.activePool id
    let (reserveIn, reserveOut) ← pool.reservesFor tokenIn tokenOut
    let (out, impactBps) := ammOut amountIn reserveIn reserveOut pool.feeBps
    return { poolId := id, tokenIn, tokenOut, amountIn, amountOut := out, feeBps := pool.feeBps,
             priceImpactBps := impactBps }

/-- The best route so far and what it gives. -/
structure Search where
  bestOut : Int := -1
  bestRoute : Option Route := none

/-- Keep a route that gives more than the best so far. -/
def Search.offer (search : Search) (out : Int) (route : Route) : Search :=
  if search.bestOut < out then { bestOut := out, bestRoute := some route } else search

/-- Offer the direct route through a pool. -/
def offerDirect (tokenIn tokenOut : String) (amountIn : Int) (search : Search) (id : Nat) :
    Search :=
  match state.activePool id with
  | none => search
  | some pool =>
      match pool.reservesFor tokenIn tokenOut with
      | none => search
      | some (reserveIn, reserveOut) =>
          let (out, impactBps) := ammOut amountIn reserveIn reserveOut pool.feeBps
          search.offer out
            { hops := [{ poolId := id, tokenIn, tokenOut }], estimatedOut := out,
              totalFeeBps := pool.feeBps, priceImpactBps := impactBps }

variable (pool : Pool)

/-- The token a pool exchanges an input token for, with the reserves of both. -/
def Pool.exchangeOf (tokenIn : String) : Option (String × Int × Int) :=
  if pool.tokenA = tokenIn then some (pool.tokenB, pool.reserveA, pool.reserveB)
  else if pool.tokenB = tokenIn then some (pool.tokenA, pool.reserveB, pool.reserveA)
  else none

structure FirstHop where
  poolId : Nat
  feeBps : Nat
  midToken : String
  out : Int
  impactBps : Nat

/-- Offer the route through a second pool after a first hop. -/
def offerSecond (tokenIn tokenOut : String) (first : FirstHop) (search : Search) (id : Nat) :
    Search :=
  if id = first.poolId then search
  else
    match state.activePool id with
    | none => search
    | some pool =>
        match pool.reservesFor first.midToken tokenOut with
        | none => search
        | some (reserveIn, reserveOut) =>
            let (out, impactBps) := ammOut first.out reserveIn reserveOut pool.feeBps
            search.offer out
              { hops :=
                  [{ poolId := first.poolId, tokenIn, tokenOut := first.midToken },
                   { poolId := id, tokenIn := first.midToken, tokenOut }]
                estimatedOut := out
                totalFeeBps := min u32Max (first.feeBps + pool.feeBps)
                priceImpactBps := min u32Max (first.impactBps + impactBps) }

/-- Offer the routes of two hops that start with a pool. -/
def offerVia (tokenIn tokenOut : String) (amountIn : Int) (search : Search) (midId : Nat) :
    Search :=
  match state.activePool midId with
  | none => search
  | some poolMid =>
      match poolMid.exchangeOf tokenIn with
      | none => search
      | some (midToken, reserveIn, reserveOut) =>
          if midToken = tokenOut then search
          else
            let (out, impactBps) := ammOut amountIn reserveIn reserveOut poolMid.feeBps
            if out ≤ 0 then search
            else
              state.poolIds.foldl
                (offerSecond state tokenIn tokenOut
                  { poolId := midId, feeBps := poolMid.feeBps, midToken, out, impactBps })
                search

/-- The route of one or two hops with the highest output. -/
def findBestRoute (tokenIn tokenOut : String) (amountIn : Int) (state : State Address) :
    Outcome Error Route := do
  assertInitialized state
  ensure (¬ amountIn ≤ 0) .zeroAmount
  let direct := state.poolIds.foldl (offerDirect state tokenIn tokenOut amountIn) {}
  let search :=
    if 2 ≤ state.maxHops then
      state.poolIds.foldl (offerVia state tokenIn tokenOut amountIn) direct
    else direct
  orError search.bestRoute .noRouteFound

/-- Both tokens of a hop are the tokens of a pool. -/
def Pool.Exchanges (tokenIn tokenOut : String) : Prop :=
  (pool.tokenA = tokenIn ∧ pool.tokenB = tokenOut) ∨
    (pool.tokenB = tokenIn ∧ pool.tokenA = tokenOut)

instance (pool : Pool) (tokenIn tokenOut : String) : Decidable (pool.Exchanges tokenIn tokenOut) :=
  inferInstanceAs (Decidable (_ ∨ _))

def validateHop (hop : RouteHop) : Outcome Error Unit := do
  let pool ← orError (state.pools.get hop.poolId) .invalidHop
  ensure (pool.isActive = true) .poolInactive
  ensure (pool.Exchanges hop.tokenIn hop.tokenOut) .invalidHop

/-- What the hops executed so far have led to. -/
structure Progress (Address : Type) where
  state : State Address
  currentAmount : Int
  totalFeeBps : Nat := 0
  totalImpactBps : Nat := 0
  updatedHops : List RouteHop := []

/-- Whether a hop exchanges the first token of its pool for the second. -/
def Pool.aToB (hop : RouteHop) : Bool :=
  decide (pool.tokenA = hop.tokenIn ∧ pool.tokenB = hop.tokenOut)

/-- The reserves a hop pays into and takes from. -/
def Pool.hopReserves (hop : RouteHop) : Int × Int :=
  if pool.aToB hop = true then (pool.reserveA, pool.reserveB) else (pool.reserveB, pool.reserveA)

/-- The pool after a hop. -/
def Pool.exchanged (hop : RouteHop) (amountIn out : Int) (swapCount : Nat) : Pool :=
  { pool with
    reserveA := saturateI128
      (if pool.aToB hop = true then pool.reserveA + amountIn else pool.reserveA - out)
    reserveB := saturateI128
      (if pool.aToB hop = true then pool.reserveB - out else pool.reserveB + amountIn)
    totalVolume := saturateI128 (pool.totalVolume + amountIn)
    swapCount }

def executeHop (progress : Progress Address) (hop : RouteHop) :
    Outcome Error (Progress Address) := do
  let pool ← orError (progress.state.pools.get hop.poolId) .poolNotFound
  let (reserveIn, reserveOut) := pool.hopReserves hop
  let (out, impactBps) := ammOut progress.currentAmount reserveIn reserveOut pool.feeBps
  ensure (¬ maxPriceImpactBps < impactBps) .priceImpactTooHigh
  let swapCount ← inUnsigned u32Max .trap (pool.swapCount + 1)
  let exchanged := pool.exchanged hop progress.currentAmount out swapCount
  return {
    state := { progress.state with pools := progress.state.pools.set hop.poolId exchanged }
    currentAmount := out
    totalFeeBps := min u32Max (progress.totalFeeBps + pool.feeBps)
    totalImpactBps := min u32Max (progress.totalImpactBps + impactBps)
    updatedHops := progress.updatedHops ++ [hop] }

/-- Execute a swap along a route of the caller. -/
def swap (user : Address) (hops : List RouteHop) (amountIn minAmountOut : Int)
    (state : State Address) : Outcome Error (SwapResult × State Address) := do
  assertInitialized state
  requireAuth env user
  ensure (¬ amountIn ≤ 0) .zeroAmount
  ensure (¬ hops = []) .emptyRoute
  ensure (¬ state.maxHops < hops.length) .routeTooLong
  hops.forM (validateHop state)
  let progress ← hops.foldlM executeHop { state, currentAmount := amountIn }
  let state := progress.state
  let scaled ← checkedMul .trap progress.currentAmount state.protocolFeeBps
  let protoFee := scaled.tdiv 10000
  let finalOut ← checkedSub .trap progress.currentAmount protoFee
  let protocolFeeAccrued ←
    if 0 < protoFee then checkedAdd .trap state.protocolFeeAccrued protoFee
    else pure state.protocolFeeAccrued
  ensure (¬ finalOut < minAmountOut) .slippageExceeded
  let volume := saturateI128 ((state.userVolume.get user).getD 0 + amountIn)
  let route : Route :=
    { hops := progress.updatedHops, estimatedOut := finalOut, totalFeeBps := progress.totalFeeBps,
      priceImpactBps := progress.totalImpactBps }
  return ({ amountIn, amountOut := finalOut, route, executedAt := env.timestamp }, { state with
    protocolFeeAccrued
    userVolume := state.userVolume.set user volume })

/-- Find the best route, then execute it. -/
def swapBestRoute (user : Address) (tokenIn tokenOut : String) (amountIn minAmountOut : Int)
    (state : State Address) : Outcome Error (SwapResult × State Address) := do
  let route ← findBestRoute tokenIn tokenOut amountIn state
  swap env user route.hops amountIn minAmountOut state

inductive Operation (Address : Type) where
  | initializeAggregator (admin : Address) (maxHops protocolFeeBps : Nat)
  | addPool (admin : Address) (name tokenA tokenB : String) (reserveA reserveB : Int) (feeBps : Nat)
  | updateReserves (admin : Address) (poolId : Nat) (reserveA reserveB : Int)
  | setPoolActive (admin : Address) (poolId : Nat) (active : Bool)
  | setProtocolFee (admin : Address) (feeBps : Nat)
  | swap (user : Address) (hops : List RouteHop) (amountIn minAmountOut : Int)
  | swapBestRoute (user : Address) (tokenIn tokenOut : String) (amountIn minAmountOut : Int)

def dispatch (call : Env Address contract × Operation Address) : Outcome Error (State Address) :=
  match call.2 with
  | .initializeAggregator admin maxHops protocolFeeBps =>
      initializeAggregator call.1 admin maxHops protocolFeeBps state
  | .addPool admin name tokenA tokenB reserveA reserveB feeBps =>
      Prod.snd <$> addPool call.1 admin name tokenA tokenB reserveA reserveB feeBps state
  | .updateReserves admin poolId reserveA reserveB =>
      updateReserves call.1 admin poolId reserveA reserveB state
  | .setPoolActive admin poolId active => setPoolActive call.1 admin poolId active state
  | .setProtocolFee admin feeBps => setProtocolFee call.1 admin feeBps state
  | .swap user hops amountIn minAmountOut =>
      Prod.snd <$> swap call.1 user hops amountIn minAmountOut state
  | .swapBestRoute user tokenIn tokenOut amountIn minAmountOut =>
      Prod.snd <$> swapBestRoute call.1 user tokenIn tokenOut amountIn minAmountOut state

def machine (contract : Address) :
    CallMachine (State Address) (Env Address contract × Operation Address) (Failure Error) where
  exec := dispatch

end SorobanPlayground.DexAggregator
