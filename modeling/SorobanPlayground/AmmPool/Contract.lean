import SorobanPlayground.Host

/-! # The constant product pool

Providers deposit two tokens for LP tokens, traders swap one token for the other
along `x * y = k`, and a fixed or volatility-adjusted fee stays in the pool. The
first deposit locks a minimum of LP tokens forever.
-/

namespace SorobanPlayground.AmmPool

inductive Error where
  | alreadyInitialized
  | notInitialized
  | unauthorized
  | zeroAmount
  | insufficientLiquidity
  | slippageExceeded
  | insufficientLpBalance
  | invalidToken
  | overflow
  | zeroOutput
  | invalidFee
  | invalidDynamicFeeConfig
  | priceImpactExceeded
  | feeLimitExceeded
  | deadlineExpired
  deriving DecidableEq, Repr

structure CollectionStats where
  floorPrice : Int
  ceilingPrice : Int
  totalVolume : Int
  tradeCount : Nat
  uniqueHolders : Nat
  lastUpdate : Nat
  deriving DecidableEq, Repr

structure DynamicFeeConfig where
  minFeeBps : Int
  maxFeeBps : Int
  volatilityMultiplierBps : Int
  utilizationMultiplierBps : Int
  emaAlphaBps : Int
  volatilityWindow : Nat
  maxPriceImpactBps : Int
  deriving DecidableEq, Repr

structure VolatilityState where
  emaVolatilityBps : Int
  lastPrice : Int
  lastTimestamp : Nat
  deriving DecidableEq, Repr

structure SwapQuote where
  amountOut : Int
  feeBps : Int
  priceImpactBps : Int
  volatilityBps : Int
  utilizationBps : Int
  deriving DecidableEq, Repr

/-- Minimum liquidity permanently locked on first deposit. -/
def minLiquidity : Int := 1000

def twapPrecision : Int := 1000000

def pricePrecision : Int := 10000000

def bps : Int := 10000

structure State (Address : Type) where
  admin : Option Address := none
  tokenA : Option Address := none
  tokenB : Option Address := none
  reserveA : Int := 0
  reserveB : Int := 0
  totalLp : Int := 0
  priceACum : Int := 0
  priceBCum : Int := 0
  lastTimestamp : Nat := 0
  feeBps : Int := 30
  dynamicFeeConfig : Option DynamicFeeConfig := none
  volatilityState : Option VolatilityState := none
  lp : FiniteMap Address Int := ∅
  nftCollection : Option Address := none
  totalVolume : Int := 0
  totalFees : Int := 0
  collectionStats : Option CollectionStats := none
  floorPrice : Int := 0

variable {Address : Type} {contract : Address} (state : State Address)

def State.isInitialized : Bool := state.admin.isSome

def State.getVolatilityState (env : Env Address contract) : VolatilityState :=
  state.volatilityState.getD
    { emaVolatilityBps := 0, lastPrice := 0, lastTimestamp := env.timestamp }

def State.getLp [DecidableEq Address] (address : Address) : Int := (state.lp.get address).getD 0

def State.setLp [DecidableEq Address] (address : Address) (amount : Int) : State Address :=
  { state with lp := state.lp.set address amount }

def State.setReserves (reserveA reserveB : Int) : State Address :=
  { state with reserveA, reserveB }

def State.setVolatilityState (volatilityState : VolatilityState) : State Address :=
  { state with volatilityState := some volatilityState }

def State.setTotalLp (totalLp : Int) : State Address := { state with totalLp }

def ensureInitialized : Outcome Error Unit := ensure (state.isInitialized = true) .notInitialized

def validateFee (feeBps : Int) : Outcome Error Unit :=
  ensure (0 ≤ feeBps ∧ feeBps < bps) .invalidFee

def DynamicFeeConfig.Valid (config : DynamicFeeConfig) : Prop :=
  ¬ (config.minFeeBps < 0 ∨ bps ≤ config.maxFeeBps ∨ config.maxFeeBps < config.minFeeBps ∨
    ¬ (0 ≤ config.volatilityMultiplierBps ∧ config.volatilityMultiplierBps ≤ bps) ∨
    ¬ (0 ≤ config.utilizationMultiplierBps ∧ config.utilizationMultiplierBps ≤ bps) ∨
    ¬ (1 ≤ config.emaAlphaBps ∧ config.emaAlphaBps ≤ bps) ∨
    config.volatilityWindow = 0 ∨
    ¬ (1 ≤ config.maxPriceImpactBps ∧ config.maxPriceImpactBps ≤ bps))

instance (config : DynamicFeeConfig) : Decidable config.Valid :=
  inferInstanceAs (Decidable (¬ _))

def validateDynamicConfig (config : DynamicFeeConfig) : Outcome Error Unit :=
  ensure config.Valid .invalidDynamicFeeConfig

def spotPrice (reserveA reserveB : Int) : Outcome Error Int := do
  ensure (¬ (reserveA ≤ 0 ∨ reserveB ≤ 0)) .insufficientLiquidity
  let value ← checkedMul (.error .overflow) reserveB pricePrecision
  checkedDiv (.error .overflow) value reserveA

variable (env : Env Address contract)

/-- The recent volatility, decaying linearly over the configured window. -/
def decayedVolatility (config : DynamicFeeConfig) (state : State Address) : Outcome Error Int := do
  let volatility := state.getVolatilityState env
  let elapsed := env.timestamp - volatility.lastTimestamp
  if config.volatilityWindow ≤ elapsed then return 0
  else do
    let value ← checkedMul (.error .overflow) volatility.emaVolatilityBps
      (config.volatilityWindow - elapsed : Nat)
    checkedDiv (.error .overflow) value config.volatilityWindow

def utilizationBps (amountIn reserveIn : Int) : Outcome Error Int := do
  let denominator ← checkedAdd (.error .overflow) reserveIn amountIn
  let value ← checkedMul (.error .overflow) amountIn bps
  checkedDiv (.error .overflow) value denominator

/-- `value.clamp(least, greatest)`, which panics on an empty range. -/
def clamp (value least greatest : Int) : Outcome Error Int := do
  assertOrTrap (least ≤ greatest)
  return if value < least then least else if greatest < value then greatest else value

/-- The fee of a swap with the volatility and the utilization behind it. -/
def effectiveFee (amountIn reserveIn : Int) (state : State Address) :
    Outcome Error (Int × Int × Int) := do
  let utilization ← utilizationBps amountIn reserveIn
  match state.dynamicFeeConfig with
  | none => return (state.feeBps, 0, utilization)
  | some config => do
      let volatility ← decayedVolatility env config state
      let scaledVolatility ←
        checkedMul (.error .overflow) volatility config.volatilityMultiplierBps
      let volatilityFee ← checkedDiv (.error .overflow) scaledVolatility bps
      let scaledUtilization ←
        checkedMul (.error .overflow) utilization config.utilizationMultiplierBps
      let utilizationFee ← checkedDiv (.error .overflow) scaledUtilization bps
      let raised ← checkedAdd (.error .overflow) state.feeBps volatilityFee
      let total ← checkedAdd (.error .overflow) raised utilizationFee
      let fee ← clamp total config.minFeeBps config.maxFeeBps
      return (fee, volatility, utilization)

/-- The output that keeps the product of the reserves for the input after fees. -/
def constantProductAmountOut (amountIn ra rb feeBps : Int) : Outcome Error Int := do
  ensure (¬ (ra = 0 ∨ rb = 0)) .insufficientLiquidity
  let feeFactor ← checkedSub .trap 10000 feeBps
  let charged ← checkedMul (.error .overflow) amountIn feeFactor
  let numerator ← checkedMul (.error .overflow) charged rb
  let scaled ← checkedMul (.error .overflow) ra 10000
  let denominator ← checkedAdd (.error .overflow) scaled charged
  checkedDiv .trap numerator denominator

/-- How far an output falls short of the one at the spot price. -/
def priceImpact (idealOut amountOut : Int) : Outcome Error Int :=
  if idealOut = 0 ∨ idealOut ≤ amountOut then .ok 0
  else do
    let difference ← checkedSub (.error .overflow) idealOut amountOut
    let value ← checkedMul (.error .overflow) difference bps
    checkedDiv (.error .overflow) value idealOut

def buildSwapQuote (amountIn reserveIn reserveOut : Int) (state : State Address) :
    Outcome Error SwapQuote := do
  ensure (0 < amountIn) .zeroAmount
  ensure (¬ (reserveIn ≤ 0 ∨ reserveOut ≤ 0)) .insufficientLiquidity
  let (feeBps, volatilityBps, utilizationBps) ← effectiveFee env amountIn reserveIn state
  let amountOut ← constantProductAmountOut amountIn reserveIn reserveOut feeBps
  ensure (amountOut ≠ 0) .zeroOutput
  let idealValue ← checkedMul (.error .overflow) amountIn reserveOut
  let idealOut ← checkedDiv (.error .overflow) idealValue reserveIn
  let priceImpactBps ← priceImpact idealOut amountOut
  return { amountOut, feeBps, priceImpactBps, volatilityBps, utilizationBps }

/-- Update the price accumulators with the time since the last swap. -/
def updateTwap (ra rb : Int) (state : State Address) : Outcome Error (State Address) :=
  if env.timestamp ≤ state.lastTimestamp ∨ ra = 0 ∨ rb = 0 then
    .ok { state with lastTimestamp := env.timestamp }
  else do
    let elapsed : Int := (env.timestamp - state.lastTimestamp : Nat)
    let priceA ← checkedDiv .trap (saturateI128 (rb * twapPrecision)) ra
    let priceB ← checkedDiv .trap (saturateI128 (ra * twapPrecision)) rb
    return { state with
      priceACum := saturateI128 (state.priceACum + saturateI128 (priceA * elapsed))
      priceBCum := saturateI128 (state.priceBCum + saturateI128 (priceB * elapsed))
      lastTimestamp := env.timestamp }

/-- The relative change of a price in basis points, at most all of it. -/
def absoluteReturn (price lastPrice : Int) : Outcome Error Int :=
  if lastPrice = 0 then .ok 0
  else do
    let scaled ← inUnsigned u128Max (.error .overflow) ((price - lastPrice).natAbs * bps.toNat)
    let value ← inUnsigned i128Max.toNat (.error .overflow) (scaled / castU128 lastPrice)
    return min (value : Int) bps

/-- Fold the latest price change into the volatility average. -/
def updateVolatility (reserveA reserveB : Int) (state : State Address) :
    Outcome Error (State Address) :=
  match state.dynamicFeeConfig with
  | none => .ok state
  | some config => do
      let price ← spotPrice reserveA reserveB
      let volatility := state.getVolatilityState env
      let recentVolatility ← decayedVolatility env config state
      let latestReturn ← absoluteReturn price volatility.lastPrice
      let weight ← checkedSub .trap bps config.emaAlphaBps
      let retained ← checkedMul (.error .overflow) recentVolatility weight
      let latest ← checkedMul (.error .overflow) latestReturn config.emaAlphaBps
      let value ← checkedAdd (.error .overflow) retained latest
      let emaVolatilityBps ← checkedDiv (.error .overflow) value bps
      return state.setVolatilityState
        { emaVolatilityBps, lastPrice := price, lastTimestamp := env.timestamp }

def recordSwapMetrics (amountIn feeBps : Int) (state : State Address) :
    Outcome Error (State Address) := do
  let charged ← checkedMul (.error .overflow) amountIn feeBps
  let feeAmount ← checkedDiv .trap charged 10000
  let totalVolume ← checkedAdd (.error .overflow) state.totalVolume amountIn
  let totalFees ← checkedAdd (.error .overflow) state.totalFees feeAmount
  return { state with totalVolume, totalFees }

/-- The Babylonian iteration. The product is positive, so the values of the loop
are as well and no division is by zero. -/
def isqrtLoop (product x y : Nat) : Nat :=
  if y < x then isqrtLoop product y ((y + product / y) / 2) else x
termination_by x

/-- The integer square root of `a * b` for positive amounts. -/
def isqrt (a b : Int) : Outcome Error Int := do
  let product ← checkedMul (.error .overflow) a b
  if product = 0 then return 0
  else do
    let raised ← checkedAdd .trap product 1
    return (isqrtLoop product.toNat product.toNat (raised.tdiv 2).toNat : Int)

variable [DecidableEq Address] (env : Env Address contract)

def ensureAdmin (admin : Address) (state : State Address) : Outcome Error Unit := do
  ensureInitialized state
  requireAuth env admin
  let stored ← orError state.admin .notInitialized
  ensure (stored = admin) .unauthorized

def initializePool (admin tokenA tokenB : Address) (feeBps : Option Int) (state : State Address) :
    Outcome Error (State Address) := do
  ensure (state.isInitialized = false) .alreadyInitialized
  requireAuth env admin
  ensure (tokenA ≠ tokenB) .invalidToken
  let configuredFee := feeBps.getD 30
  validateFee configuredFee
  return { state with
    admin := some admin
    tokenA := some tokenA
    tokenB := some tokenB
    feeBps := configuredFee
    lastTimestamp := env.timestamp }

/-- Start the volatility observations at the current price. -/
def observePrice (state : State Address) : Outcome Error (State Address) :=
  if (state.getVolatilityState env).lastPrice = 0 ∧ 0 < state.reserveA ∧ 0 < state.reserveB then do
    let lastPrice ← spotPrice state.reserveA state.reserveB
    let volatility := state.getVolatilityState env
    return state.setVolatilityState { volatility with lastPrice, lastTimestamp := env.timestamp }
  else .ok state

/-- Enable or update the fee model adjusted by volatility and utilization. -/
def configureDynamicFees (admin : Address) (config : DynamicFeeConfig) (state : State Address) :
    Outcome Error (State Address) := do
  ensureAdmin env admin state
  validateDynamicConfig config
  observePrice env { state with dynamicFeeConfig := some config }

/-- Return to the fixed fee without deleting observations. -/
def disableDynamicFees (admin : Address) (state : State Address) :
    Outcome Error (State Address) := do
  ensureAdmin env admin state
  return { state with dynamicFeeConfig := none }

/-- Initialize the pool if it is not. -/
def ensurePool (admin tokenA tokenB : Address) (feeBps : Option Int) (state : State Address) :
    Outcome Error (State Address) :=
  if state.isInitialized then .ok state else initializePool env admin tokenA tokenB feeBps state

/-- Track an NFT collection, initializing the pool if it is not. -/
def initializeNft (admin tokenA tokenB nftCollection : Address) (feeBps : Option Int)
    (state : State Address) : Outcome Error (State Address) := do
  let ready ← ensurePool env admin tokenA tokenB feeBps state
  let stats : CollectionStats :=
    { floorPrice := 0, ceilingPrice := 0, totalVolume := 0, tradeCount := 0, uniqueHolders := 0,
      lastUpdate := env.timestamp }
  return { ready with nftCollection := some nftCollection, collectionStats := some stats }

def updateFloorPrice (admin : Address) (newFloor : Int) (state : State Address) :
    Outcome Error (State Address) := do
  ensureInitialized state
  requireAuth env admin
  ensure (0 ≤ newFloor) .zeroAmount
  return { state with
    floorPrice := newFloor
    collectionStats := state.collectionStats.map fun stats =>
      { stats with floorPrice := newFloor, lastUpdate := env.timestamp } }

/-- The LP tokens that the first deposit mints and the total they are added to,
which locks the minimum. -/
def firstMint (amountA amountB : Int) : Outcome Error (Int × Int) := do
  let lp ← isqrt amountA amountB
  ensure (minLiquidity < lp) .insufficientLiquidity
  let minted ← checkedSub .trap lp minLiquidity
  return (minted, minLiquidity)

/-- The LP tokens that a later deposit mints and the total they are added to. -/
def proportionalMint (amountA amountB ra rb totalLp : Int) : Outcome Error (Int × Int) := do
  let scaledA ← checkedMul (.error .overflow) amountA totalLp
  let lpA ← checkedDiv .trap scaledA ra
  let scaledB ← checkedMul (.error .overflow) amountB totalLp
  let lpB ← checkedDiv .trap scaledB rb
  return (min lpA lpB, totalLp)

/-- The LP tokens that a deposit mints and the total they are added to. -/
def mintShares (amountA amountB : Int) (state : State Address) : Outcome Error (Int × Int) :=
  if state.totalLp = 0 then firstMint amountA amountB
  else proportionalMint amountA amountB state.reserveA state.reserveB state.totalLp

/-- Returns the LP tokens minted. -/
def addLiquidity (provider : Address) (amountA amountB minLp : Int) (state : State Address) :
    Outcome Error (Int × State Address) := do
  ensureInitialized state
  requireAuth env provider
  ensure (¬ (amountA ≤ 0 ∨ amountB ≤ 0)) .zeroAmount
  let (lpMinted, total) ← mintShares amountA amountB state
  ensure (minLp ≤ lpMinted) .slippageExceeded
  let reserveA ← checkedAdd .trap state.reserveA amountA
  let reserveB ← checkedAdd .trap state.reserveB amountB
  let newTotal ← checkedAdd .trap total lpMinted
  let balance ← checkedAdd .trap (state.getLp provider) lpMinted
  return (lpMinted, ((state.setReserves reserveA reserveB).setTotalLp newTotal).setLp provider
    balance)

/-- Returns the amounts of both tokens paid out. -/
def removeLiquidity (provider : Address) (lpAmount minA minB : Int) (state : State Address) :
    Outcome Error ((Int × Int) × State Address) := do
  ensureInitialized state
  requireAuth env provider
  ensure (0 < lpAmount) .zeroAmount
  let lpBal := state.getLp provider
  ensure (lpAmount ≤ lpBal) .insufficientLpBalance
  let totalLp := state.totalLp
  let ra := state.reserveA
  let rb := state.reserveB
  let scaledA ← checkedMul (.error .overflow) lpAmount ra
  let outA ← checkedDiv .trap scaledA totalLp
  let scaledB ← checkedMul (.error .overflow) lpAmount rb
  let outB ← checkedDiv .trap scaledB totalLp
  ensure (¬ (outA < minA ∨ outB < minB)) .slippageExceeded
  let balance ← checkedSub .trap lpBal lpAmount
  let newTotal ← checkedSub .trap totalLp lpAmount
  let reserveA ← checkedSub .trap ra outA
  let reserveB ← checkedSub .trap rb outB
  return ((outA, outB), ((state.setLp provider balance).setTotalLp newTotal).setReserves reserveA
    reserveB)

/-- The reserves on the input and the output side, and whether the input is token A. -/
def reservesForTokenIn (tokenIn : Address) (state : State Address) :
    Outcome Error (Int × Int × Bool) := do
  let tokenA ← orError state.tokenA .notInitialized
  let tokenB ← orError state.tokenB .notInitialized
  if tokenIn = tokenA then return (state.reserveA, state.reserveB, true)
  else if tokenIn = tokenB then return (state.reserveB, state.reserveA, false)
  else .error (.error .invalidToken)

/-- The reserves of both tokens after a swap. -/
def swappedReserves (reserveIn reserveOut amountIn amountOut : Int) (aToB : Bool) :
    Outcome Error (Int × Int) := do
  let newIn ← checkedAdd (.error .overflow) reserveIn amountIn
  let newOut ← checkedSub (.error .overflow) reserveOut amountOut
  return if aToB then (newIn, newOut) else (newOut, newIn)

/-- Returns the output amount. -/
def executeSwap (tokenIn : Address) (amountIn minOut : Int) (maxFeeBps : Option Int)
    (deadline : Option Nat) (state : State Address) : Outcome Error (Int × State Address) := do
  ensure (deadline.any (fun value => decide (value < env.timestamp)) = false) .deadlineExpired
  let (reserveIn, reserveOut, aToB) ← reservesForTokenIn tokenIn state
  let quote ← buildSwapQuote env amountIn reserveIn reserveOut state
  ensure (maxFeeBps.any (fun limit => decide (limit < quote.feeBps)) = false) .feeLimitExceeded
  ensure (minOut ≤ quote.amountOut) .slippageExceeded
  ensure (state.dynamicFeeConfig.any
    (fun config => decide (config.maxPriceImpactBps < quote.priceImpactBps)) = false)
    .priceImpactExceeded
  let (newReserveA, newReserveB) ←
    swappedReserves reserveIn reserveOut amountIn quote.amountOut aToB
  let swapped := state.setReserves newReserveA newReserveB
  let timed ← updateTwap env state.reserveA state.reserveB swapped
  let observed ← updateVolatility env newReserveA newReserveB timed
  let recorded ← recordSwapMetrics amountIn quote.feeBps observed
  return (quote.amountOut, recorded)

def swap (trader tokenIn : Address) (amountIn minOut : Int) (state : State Address) :
    Outcome Error (Int × State Address) := do
  ensureInitialized state
  requireAuth env trader
  executeSwap env tokenIn amountIn minOut none none state

def swapWithLimits (trader tokenIn : Address) (amountIn minOut maxFeeBps : Int) (deadline : Nat)
    (state : State Address) : Outcome Error (Int × State Address) := do
  ensureInitialized state
  requireAuth env trader
  executeSwap env tokenIn amountIn minOut (some maxFeeBps) (some deadline) state

inductive Operation (Address : Type) where
  | initializePool (admin tokenA tokenB : Address) (feeBps : Option Int)
  | configureDynamicFees (admin : Address) (config : DynamicFeeConfig)
  | disableDynamicFees (admin : Address)
  | initializeNft (admin tokenA tokenB nftCollection : Address) (feeBps : Option Int)
  | addLiquidity (provider : Address) (amountA amountB minLp : Int)
  | removeLiquidity (provider : Address) (lpAmount minA minB : Int)
  | swap (trader tokenIn : Address) (amountIn minOut : Int)
  | swapWithLimits (trader tokenIn : Address) (amountIn minOut maxFeeBps : Int) (deadline : Nat)
  | updateFloorPrice (admin : Address) (newFloor : Int)

def dispatch (state : State Address) (call : Env Address contract × Operation Address) :
    Outcome Error (State Address) :=
  match call.2 with
  | .initializePool admin tokenA tokenB feeBps =>
      initializePool call.1 admin tokenA tokenB feeBps state
  | .configureDynamicFees admin config => configureDynamicFees call.1 admin config state
  | .disableDynamicFees admin => disableDynamicFees call.1 admin state
  | .initializeNft admin tokenA tokenB nftCollection feeBps =>
      initializeNft call.1 admin tokenA tokenB nftCollection feeBps state
  | .addLiquidity provider amountA amountB minLp =>
      Prod.snd <$> addLiquidity call.1 provider amountA amountB minLp state
  | .removeLiquidity provider lpAmount minA minB =>
      Prod.snd <$> removeLiquidity call.1 provider lpAmount minA minB state
  | .swap trader tokenIn amountIn minOut =>
      Prod.snd <$> swap call.1 trader tokenIn amountIn minOut state
  | .swapWithLimits trader tokenIn amountIn minOut maxFeeBps deadline =>
      Prod.snd <$> swapWithLimits call.1 trader tokenIn amountIn minOut maxFeeBps deadline state
  | .updateFloorPrice admin newFloor => updateFloorPrice call.1 admin newFloor state

def machine (contract : Address) :
    CallMachine (State Address) (Env Address contract × Operation Address) (Failure Error) where
  exec := dispatch

end SorobanPlayground.AmmPool
