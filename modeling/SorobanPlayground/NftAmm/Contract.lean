import SorobanPlayground.Host

/-! # The NFT market maker

A pool of one collection buys and sells NFTs against a payment token. A trade is
made at the spot price, with a pool fee and a protocol fee, and moves the spot
price along a linear or exponential curve: up after a sale to a buyer, down after
a purchase from a seller. NFTs are moved as single units of their collection.
-/

namespace SorobanPlayground.NftAmm

inductive CurveType where
  | linear
  | exponential
  deriving DecidableEq, Repr

inductive PoolType where
  | buy
  | sell
  | trade
  deriving DecidableEq, Repr

structure Pool (Address : Type) where
  id : Nat
  owner : Address
  nftCollection : Address
  paymentToken : Address
  curve : CurveType
  poolType : PoolType
  spotPrice : Int
  delta : Int
  feeBps : Int
  nftCount : Nat
  tokenBalance : Int
  totalVolume : Int
  tradeCount : Nat
  active : Bool
  deriving DecidableEq, Repr

inductive Error where
  | alreadyInitialized
  | notInitialized
  | unauthorized
  | poolNotFound
  | poolNotActive
  | contractPaused
  | insufficientNfts
  | insufficientTokens
  | zeroAmount
  | invalidDelta
  | invalidFee
  | invalidSpotPrice
  | wrongPoolType
  | overflow
  | nftNotInPool
  deriving DecidableEq, Repr

/-- Maximum fee a pool can charge. -/
def maxFeeBps : Int := 5000

def maxProtocolFeeBps : Int := 1000

/-- Basis points denominator. -/
def bpsDenom : Int := 10000

/-- The contract's storage and the token balances. -/
structure State (Address : Type) where
  admin : Option Address := none
  poolCount : Nat := 0
  paused : Bool := false
  protocolFeeBps : Int := 50
  protocolFeeBalance : Int := 0
  pools : FiniteMap Nat (Pool Address) := ∅
  poolNfts : FiniteMap (Nat × Nat) Nat := ∅
  ledger : TokenLedger Address

variable {Address : Type} {contract : Address} (state : State Address)

def State.getPool (id : Nat) : Outcome Error (Pool Address) :=
  orError (state.pools.get id) .poolNotFound

def State.setPool (pool : Pool Address) : State Address :=
  { state with pools := state.pools.set pool.id pool }

def State.getPoolNft (poolId slot : Nat) : Option Nat := state.poolNfts.get (poolId, slot)

def State.setPoolNft (poolId slot nftId : Nat) : State Address :=
  { state with poolNfts := state.poolNfts.set (poolId, slot) nftId }

def State.removePoolNft (poolId slot : Nat) : State Address :=
  { state with poolNfts := state.poolNfts.remove (poolId, slot) }

def State.setProtocolFeeBalance (protocolFeeBalance : Int) : State Address :=
  { state with protocolFeeBalance }

def State.withLedger (ledger : TokenLedger Address) : State Address := { state with ledger }

def ensureInitialized : Outcome Error Unit := ensure (state.admin.isSome = true) .notInitialized

def ensureNotPaused : Outcome Error Unit := ensure (state.paused = false) .contractPaused

def assertPoolActive (pool : Pool Address) : Outcome Error Unit :=
  ensure (pool.active = true) .poolNotActive

/-- A share of a price in basis points, truncated. -/
def shareOf (price shareBps : Int) : Outcome Error Int := do
  let scaled ← checkedMul (.error .overflow) price shareBps
  checkedDiv .trap scaled bpsDenom

/-- The spot price after a buy. -/
def nextPriceUp (pool : Pool Address) : Outcome Error Int :=
  match pool.curve with
  | .linear => checkedAdd .trap pool.spotPrice pool.delta
  | .exponential => do
      let increase ← shareOf pool.spotPrice pool.delta
      checkedAdd .trap pool.spotPrice increase

/-- A price that is kept at one or above. -/
def atLeastOne (price : Int) : Int := if 0 < price then price else 1

/-- The spot price after a sell. -/
def nextPriceDown (pool : Pool Address) : Outcome Error Int :=
  match pool.curve with
  | .linear => do
      let newPrice ← checkedSub .trap pool.spotPrice pool.delta
      return atLeastOne newPrice
  | .exponential => do
      let decrease ← shareOf pool.spotPrice pool.delta
      let newPrice ← checkedSub .trap pool.spotPrice decrease
      return atLeastOne newPrice

variable [DecidableEq Address] (tokens : TokenHost Address) (env : Env Address contract)

def assertAdmin (caller : Address) (state : State Address) : Outcome Error Unit := do
  ensureInitialized state
  requireAuth env caller
  let admin ← orError state.admin .notInitialized
  ensure (admin = caller) .unauthorized

def assertPoolOwner (pool : Pool Address) (caller : Address) : Outcome Error Unit :=
  ensure (pool.owner = caller) .unauthorized

def initializeAmm (admin : Address) (protocolFeeBps : Option Int) (state : State Address) :
    Outcome Error (State Address) := do
  ensure (state.admin.isSome = false) .alreadyInitialized
  requireAuth env admin
  ensure (protocolFeeBps.any (fun fee => decide (maxProtocolFeeBps < fee)) = false) .invalidFee
  return { state with
    admin := some admin
    paused := false
    poolCount := 0
    protocolFeeBps := protocolFeeBps.getD state.protocolFeeBps }

/-- Returns the id of the new pool. -/
def createPool (owner nftCollection paymentToken : Address) (curve : CurveType)
    (poolType : PoolType) (spotPrice delta feeBps : Int) (state : State Address) :
    Outcome Error (Nat × State Address) := do
  ensureInitialized state
  ensureNotPaused state
  requireAuth env owner
  ensure (0 < spotPrice) .invalidSpotPrice
  ensure (0 ≤ delta) .invalidDelta
  ensure (¬ (feeBps < 0 ∨ maxFeeBps < feeBps)) .invalidFee
  ensure (¬ (poolType ≠ .trade ∧ 0 < feeBps)) .invalidFee
  let id ← inUnsigned u32Max .trap (state.poolCount + 1)
  let pool : Pool Address :=
    { id, owner, nftCollection, paymentToken, curve, poolType, spotPrice, delta, feeBps,
      nftCount := 0, tokenBalance := 0, totalVolume := 0, tradeCount := 0, active := true }
  return (id, { state.setPool pool with poolCount := id })

def depositTokens (owner : Address) (poolId : Nat) (amount : Int) (state : State Address) :
    Outcome Error (State Address) := do
  ensureInitialized state
  ensureNotPaused state
  requireAuth env owner
  ensure (0 < amount) .zeroAmount
  let pool ← state.getPool poolId
  assertPoolOwner pool owner
  assertPoolActive pool
  ensure (pool.poolType ≠ .sell) .wrongPoolType
  let ledger ← tokens.pay state.ledger pool.paymentToken owner contract amount
  let tokenBalance ← checkedAdd .trap pool.tokenBalance amount
  return (state.setPool { pool with tokenBalance }).withLedger ledger

/-- One round of a deposit: the NFT at an index goes to the slot that far after
the first free one. -/
def depositNft (contract owner : Address) (pool : Pool Address) (state : State Address)
    (entry : Nat × Nat) : Outcome Error (State Address) := do
  let ledger ← tokens.pay state.ledger pool.nftCollection owner contract 1
  let slot ← inUnsigned u32Max .trap (pool.nftCount + entry.2)
  return (state.setPoolNft pool.id slot entry.1).withLedger ledger

def depositNfts (owner : Address) (poolId : Nat) (nftIds : List Nat) (state : State Address) :
    Outcome Error (State Address) := do
  ensureInitialized state
  ensureNotPaused state
  requireAuth env owner
  ensure (nftIds ≠ []) .zeroAmount
  let pool ← state.getPool poolId
  assertPoolOwner pool owner
  assertPoolActive pool
  ensure (pool.poolType ≠ .buy) .wrongPoolType
  let deposited ← nftIds.zipIdx.foldlM (depositNft tokens contract owner pool) state
  let nftCount ← inUnsigned u32Max .trap (pool.nftCount + nftIds.length)
  return deposited.setPool { pool with nftCount }

def withdrawTokens (owner : Address) (poolId : Nat) (amount : Int) (state : State Address) :
    Outcome Error (State Address) := do
  ensureInitialized state
  requireAuth env owner
  let pool ← state.getPool poolId
  assertPoolOwner pool owner
  ensure (¬ (amount ≤ 0 ∨ pool.tokenBalance < amount)) .insufficientTokens
  let tokenBalance ← checkedSub .trap pool.tokenBalance amount
  let ledger ← tokens.pay state.ledger pool.paymentToken contract owner amount
  return (state.setPool { pool with tokenBalance }).withLedger ledger

/-- One round of a withdrawal, from the last slot on. -/
def withdrawNft (contract owner : Address) (pool : Pool Address) (state : State Address)
    (index : Nat) : Outcome Error (State Address) := do
  let slot := pool.nftCount - 1 - index
  let ledger ← tokens.pay state.ledger pool.nftCollection contract owner 1
  return (state.removePoolNft pool.id slot).withLedger ledger

def withdrawNfts (owner : Address) (poolId count : Nat) (state : State Address) :
    Outcome Error (State Address) := do
  ensureInitialized state
  requireAuth env owner
  let pool ← state.getPool poolId
  assertPoolOwner pool owner
  ensure (¬ (count = 0 ∨ pool.nftCount < count)) .insufficientNfts
  let withdrawn ← (List.range count).foldlM (withdrawNft tokens contract owner pool) state
  return withdrawn.setPool { pool with nftCount := pool.nftCount - count }

/-- The pool fee and the protocol fee of a trade at the spot price. -/
def tradeFees (pool : Pool Address) (state : State Address) : Outcome Error (Int × Int) := do
  let fee ← shareOf pool.spotPrice pool.feeBps
  let protocolFee ← shareOf pool.spotPrice state.protocolFeeBps
  return (fee, protocolFee)

/-- Buy the last NFT of a pool. Returns its id and the price paid. -/
def buyNft (buyer : Address) (poolId : Nat) (maxPrice : Int) (state : State Address) :
    Outcome Error ((Nat × Int) × State Address) := do
  ensureInitialized state
  ensureNotPaused state
  requireAuth env buyer
  let pool ← state.getPool poolId
  assertPoolActive pool
  ensure (pool.poolType ≠ .buy) .wrongPoolType
  ensure (pool.nftCount ≠ 0) .insufficientNfts
  let (fee, protocolFee) ← tradeFees pool state
  let poolPrice ← checkedAdd .trap pool.spotPrice fee
  let totalPrice ← checkedAdd .trap poolPrice protocolFee
  ensure (totalPrice ≤ maxPrice) .insufficientTokens
  let slot := pool.nftCount - 1
  let nftId ← orError (state.getPoolNft poolId slot) .nftNotInPool
  let tokenBalance ← checkedAdd .trap pool.tokenBalance poolPrice
  let totalVolume ← checkedAdd .trap pool.totalVolume totalPrice
  let tradeCount ← inUnsigned u32Max .trap (pool.tradeCount + 1)
  let protocolFeeBalance ← checkedAdd .trap state.protocolFeeBalance protocolFee
  let spotPrice ← nextPriceUp pool
  let sold : Pool Address :=
    { pool with nftCount := pool.nftCount - 1, tokenBalance, totalVolume, tradeCount, spotPrice }
  let paid ← tokens.pay state.ledger pool.paymentToken buyer contract totalPrice
  let ledger ← tokens.pay paid pool.nftCollection contract buyer 1
  return ((nftId, totalPrice), (((state.removePoolNft poolId slot).setProtocolFeeBalance
    protocolFeeBalance).setPool sold).withLedger ledger)

/-- Sell an NFT to a pool. Returns the price received. -/
def sellNft (seller : Address) (poolId nftId : Nat) (minPrice : Int) (state : State Address) :
    Outcome Error (Int × State Address) := do
  ensureInitialized state
  ensureNotPaused state
  requireAuth env seller
  let pool ← state.getPool poolId
  assertPoolActive pool
  ensure (pool.poolType ≠ .sell) .wrongPoolType
  let (fee, protocolFee) ← tradeFees pool state
  let poolPayout ← checkedSub .trap pool.spotPrice fee
  let payout ← checkedSub .trap poolPayout protocolFee
  ensure (minPrice ≤ payout) .insufficientTokens
  let spent ← checkedAdd .trap payout protocolFee
  ensure (spent ≤ pool.tokenBalance) .insufficientTokens
  let slot := pool.nftCount
  let nftCount ← inUnsigned u32Max .trap (pool.nftCount + 1)
  let tokenBalance ← checkedSub .trap pool.tokenBalance spent
  let totalVolume ← checkedAdd .trap pool.totalVolume pool.spotPrice
  let tradeCount ← inUnsigned u32Max .trap (pool.tradeCount + 1)
  let protocolFeeBalance ← checkedAdd .trap state.protocolFeeBalance protocolFee
  let spotPrice ← nextPriceDown pool
  let bought : Pool Address :=
    { pool with nftCount, tokenBalance, totalVolume, tradeCount, spotPrice }
  let received ← tokens.pay state.ledger pool.nftCollection seller contract 1
  let ledger ← tokens.pay received pool.paymentToken contract seller payout
  return (payout, (((state.setPoolNft poolId slot nftId).setProtocolFeeBalance
    protocolFeeBalance).setPool bought).withLedger ledger)

def deactivatePool (owner : Address) (poolId : Nat) (state : State Address) :
    Outcome Error (State Address) := do
  ensureInitialized state
  requireAuth env owner
  let pool ← state.getPool poolId
  assertPoolOwner pool owner
  return state.setPool { pool with active := false }

def updatePoolParams (owner : Address) (poolId : Nat) (newSpotPrice newDelta : Int)
    (state : State Address) : Outcome Error (State Address) := do
  ensureInitialized state
  ensureNotPaused state
  requireAuth env owner
  let pool ← state.getPool poolId
  assertPoolOwner pool owner
  assertPoolActive pool
  ensure (0 < newSpotPrice) .invalidSpotPrice
  ensure (0 ≤ newDelta) .invalidDelta
  return state.setPool { pool with spotPrice := newSpotPrice, delta := newDelta }

def setPaused (admin : Address) (paused : Bool) (state : State Address) :
    Outcome Error (State Address) := do
  assertAdmin env admin state
  return { state with paused }

def collectProtocolFees (admin tokenAddress : Address) (amount : Int) (state : State Address) :
    Outcome Error (State Address) := do
  assertAdmin env admin state
  let balance := state.protocolFeeBalance
  ensure (amount ≤ balance) .insufficientTokens
  let left ← checkedSub .trap balance amount
  let ledger ← tokens.pay state.ledger tokenAddress contract admin amount
  return (state.setProtocolFeeBalance left).withLedger ledger

def setProtocolFee (admin : Address) (feeBps : Int) (state : State Address) :
    Outcome Error (State Address) := do
  assertAdmin env admin state
  ensure (feeBps ≤ maxProtocolFeeBps) .invalidFee
  return { state with protocolFeeBps := feeBps }

/-- The calls of the contract that write its storage, and the transfers that
holders make outside it. -/
inductive Operation (Address : Type) where
  | initializeAmm (admin : Address) (protocolFeeBps : Option Int)
  | createPool (owner nftCollection paymentToken : Address) (curve : CurveType)
      (poolType : PoolType) (spotPrice delta feeBps : Int)
  | depositTokens (owner : Address) (poolId : Nat) (amount : Int)
  | depositNfts (owner : Address) (poolId : Nat) (nftIds : List Nat)
  | buyNft (buyer : Address) (poolId : Nat) (maxPrice : Int)
  | sellNft (seller : Address) (poolId nftId : Nat) (minPrice : Int)
  | withdrawTokens (owner : Address) (poolId : Nat) (amount : Int)
  | withdrawNfts (owner : Address) (poolId count : Nat)
  | deactivatePool (owner : Address) (poolId : Nat)
  | updatePoolParams (owner : Address) (poolId : Nat) (newSpotPrice newDelta : Int)
  | setPaused (admin : Address) (paused : Bool)
  | collectProtocolFees (admin tokenAddress : Address) (amount : Int)
  | setProtocolFee (admin : Address) (feeBps : Int)
  | transfer (token source destination : Address) (amount : Int)

def dispatch (state : State Address) (call : Env Address contract × Operation Address) :
    Outcome Error (State Address) :=
  match call.2 with
  | .initializeAmm admin protocolFeeBps => initializeAmm call.1 admin protocolFeeBps state
  | .createPool owner nftCollection paymentToken curve poolType spotPrice delta feeBps =>
      Prod.snd <$> createPool call.1 owner nftCollection paymentToken curve poolType spotPrice
        delta feeBps state
  | .depositTokens owner poolId amount => depositTokens tokens call.1 owner poolId amount state
  | .depositNfts owner poolId nftIds => depositNfts tokens call.1 owner poolId nftIds state
  | .buyNft buyer poolId maxPrice => Prod.snd <$> buyNft tokens call.1 buyer poolId maxPrice state
  | .sellNft seller poolId nftId minPrice =>
      Prod.snd <$> sellNft tokens call.1 seller poolId nftId minPrice state
  | .withdrawTokens owner poolId amount => withdrawTokens tokens call.1 owner poolId amount state
  | .withdrawNfts owner poolId count => withdrawNfts tokens call.1 owner poolId count state
  | .deactivatePool owner poolId => deactivatePool call.1 owner poolId state
  | .updatePoolParams owner poolId newSpotPrice newDelta =>
      updatePoolParams call.1 owner poolId newSpotPrice newDelta state
  | .setPaused admin paused => setPaused call.1 admin paused state
  | .collectProtocolFees admin tokenAddress amount =>
      collectProtocolFees tokens call.1 admin tokenAddress amount state
  | .setProtocolFee admin feeBps => setProtocolFee call.1 admin feeBps state
  | .transfer token source destination amount => do
      let ledger ← tokens.payAs call.1 state.ledger token source destination amount
      return state.withLedger ledger

/-- The market maker as a machine. -/
def machine (contract : Address) :
    CallMachine (State Address) (Env Address contract × Operation Address) (Failure Error) where
  exec := dispatch tokens

end SorobanPlayground.NftAmm
