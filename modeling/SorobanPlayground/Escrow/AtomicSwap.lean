import Mathlib.Data.BitVec
import SorobanPlayground.Host

/-! # Atomic swaps of the escrow contract

A maker locks an offered asset under a hash and an expiry, the designated taker
locks the requested one, and whoever reveals a preimage of the hash before the
expiry exchanges both. From the expiry on anyone can return what is locked, and
before the taker has funded the swap the maker can cancel it.
-/

namespace SorobanPlayground.Escrow

inductive Error where
  | alreadyInitialized
  | notInitialized
  | unauthorized
  | escrowNotFound
  | invalidState
  | milestoneNotFound
  | invalidAmount
  | noMilestones
  | tooManyMilestones
  | alreadyDisputed
  | invalidRuling
  | invalidFeeBps
  | atomicSwapNotFound
  | invalidSwap
  | swapExpired
  | swapNotExpired
  | invalidHashlock
  | invalidPreimage
  | timelockOutOfRange
  | sameAsset
  | overflow
  deriving DecidableEq, Repr

inductive AtomicSwapStatus where
  | awaitingCounterparty
  | funded
  | claimed
  | refunded
  | cancelled
  deriving DecidableEq, Repr

/-- A byte string. -/
abbrev Bytes := List UInt8

structure AtomicSwap (Address : Type) where
  id : Nat
  maker : Address
  taker : Address
  offeredToken : Address
  offeredAmount : Int
  requestedToken : Address
  requestedAmount : Int
  hashlock : BitVec 256
  expiresAt : Nat
  status : AtomicSwapStatus
  revealedPreimage : Option Bytes
  createdAt : Nat
  fundedAt : Option Nat
  settledAt : Option Nat
  deriving DecidableEq, Repr

structure AtomicSwapStats where
  total : Nat := 0
  active : Nat := 0
  claimed : Nat := 0
  refunded : Nat := 0
  cancelled : Nat := 0
  deriving DecidableEq, Repr

/-- The storage that atomic swaps use and the token balances. -/
structure State (Address : Type) where
  admin : Option Address := none
  arbiterFeeBps : Nat := 200
  initialized : Bool := false
  atomicSwapCount : Nat := 0
  atomicSwapStats : AtomicSwapStats := {}
  atomicSwaps : FiniteMap Nat (AtomicSwap Address) := ∅
  ledger : TokenLedger Address

variable {Address : Type} {contract : Address} (state : State Address)

def State.nextAtomicSwapId : Outcome Error (Nat × State Address) := do
  let next ← inUnsigned u64Max (.error .overflow) (state.atomicSwapCount + 1)
  return (next, { state with atomicSwapCount := next })

def State.getAtomicSwap (id : Nat) : Outcome Error (AtomicSwap Address) :=
  orError (state.atomicSwaps.get id) .atomicSwapNotFound

def State.setAtomicSwap (swap : AtomicSwap Address) : State Address :=
  { state with atomicSwaps := state.atomicSwaps.set swap.id swap }

def State.setAtomicSwapStats (atomicSwapStats : AtomicSwapStats) : State Address :=
  { state with atomicSwapStats }

def State.withLedger (ledger : TokenLedger Address) : State Address := { state with ledger }

def ensureInitialized : Outcome Error Unit := ensure (state.initialized = true) .notInitialized

def minTimelockSeconds : Nat := 60

/-- Thirty days. -/
def maxTimelockSeconds : Nat := 2592000

def maxPreimageBytes : Nat := 64

variable [DecidableEq Address] (tokens : TokenHost Address) (sha256 : Bytes → BitVec 256)
  (env : Env Address contract)

def initializeEscrow (admin : Address) (arbiterFeeBps : Nat) (state : State Address) :
    Outcome Error (State Address) := do
  ensure (state.initialized = false) .alreadyInitialized
  requireAuth env admin
  ensure (arbiterFeeBps ≤ 10000) .invalidFeeBps
  return { state with admin := some admin, arbiterFeeBps, initialized := true }

/-- Lock the maker's offered asset. Returns the id of the new swap. -/
def createAtomicSwap (maker taker offeredToken : Address) (offeredAmount : Int)
    (requestedToken : Address) (requestedAmount : Int) (hashlock : BitVec 256) (expiresAt : Nat)
    (state : State Address) : Outcome Error (Nat × State Address) := do
  ensureInitialized state
  requireAuth env maker
  ensure (maker ≠ taker) .invalidSwap
  ensure (offeredToken ≠ requestedToken) .sameAsset
  ensure (¬ (offeredAmount ≤ 0 ∨ requestedAmount ≤ 0)) .invalidAmount
  let now := env.timestamp
  let minExpiry ← inUnsigned u64Max (.error .overflow) (now + minTimelockSeconds)
  let maxExpiry ← inUnsigned u64Max (.error .overflow) (now + maxTimelockSeconds)
  ensure (¬ (expiresAt < minExpiry ∨ maxExpiry < expiresAt)) .timelockOutOfRange
  ensure (hashlock ≠ 0) .invalidHashlock
  let (id, counted) ← state.nextAtomicSwapId
  let swap : AtomicSwap Address :=
    { id, maker, taker, offeredToken, offeredAmount, requestedToken, requestedAmount, hashlock,
      expiresAt, status := .awaitingCounterparty, revealedPreimage := none, createdAt := now,
      fundedAt := none, settledAt := none }
  let stats := state.atomicSwapStats
  let total ← inUnsigned u64Max (.error .overflow) (stats.total + 1)
  let active ← inUnsigned u64Max (.error .overflow) (stats.active + 1)
  let recorded := (counted.setAtomicSwap swap).setAtomicSwapStats { stats with total, active }
  let ledger ← tokens.pay state.ledger offeredToken maker contract offeredAmount
  return (id, recorded.withLedger ledger)

/-- Lock the requested asset; only the designated taker can. -/
def fundAtomicSwap (swapId : Nat) (taker : Address) (state : State Address) :
    Outcome Error (State Address) := do
  ensureInitialized state
  requireAuth env taker
  let swap ← state.getAtomicSwap swapId
  ensure (swap.taker = taker) .unauthorized
  ensure (swap.status = .awaitingCounterparty) .invalidState
  ensure (env.timestamp < swap.expiresAt) .swapExpired
  let funded := { swap with status := .funded, fundedAt := some env.timestamp }
  let ledger ← tokens.pay state.ledger swap.requestedToken taker contract swap.requestedAmount
  return (state.setAtomicSwap funded).withLedger ledger

/-- Reveal the preimage and exchange both assets; anyone can. -/
def claimAtomicSwap (swapId : Nat) (preimage : Bytes) (state : State Address) :
    Outcome Error (State Address) := do
  ensureInitialized state
  ensure (¬ (preimage.length = 0 ∨ maxPreimageBytes < preimage.length)) .invalidPreimage
  let swap ← state.getAtomicSwap swapId
  ensure (swap.status = .funded) .invalidState
  let now := env.timestamp
  ensure (now < swap.expiresAt) .swapExpired
  ensure (sha256 preimage = swap.hashlock) .invalidPreimage
  let settled :=
    { swap with status := .claimed, revealedPreimage := some preimage, settledAt := some now }
  let stats := state.atomicSwapStats
  let active ← checkedSubUnsigned (.error .overflow) stats.active 1
  let claimed ← inUnsigned u64Max (.error .overflow) (stats.claimed + 1)
  let recorded := (state.setAtomicSwap settled).setAtomicSwapStats { stats with active, claimed }
  let paid ← tokens.pay state.ledger swap.offeredToken contract swap.taker swap.offeredAmount
  let ledger ← tokens.pay paid swap.requestedToken contract swap.maker swap.requestedAmount
  return recorded.withLedger ledger

/-- Return the taker's asset if it was funded. -/
def returnFunded (contract : Address) (swap : AtomicSwap Address) (wasFunded : Bool)
    (ledger : TokenLedger Address) : Outcome Error (TokenLedger Address) :=
  if wasFunded then tokens.pay ledger swap.requestedToken contract swap.taker swap.requestedAmount
  else .ok ledger

/-- Return what is locked after expiry; anyone can. -/
def refundAtomicSwap (swapId : Nat) (state : State Address) : Outcome Error (State Address) := do
  ensureInitialized state
  let swap ← state.getAtomicSwap swapId
  let wasFunded := decide (swap.status = .funded)
  ensure (¬ (wasFunded = false ∧ swap.status ≠ .awaitingCounterparty)) .invalidState
  let now := env.timestamp
  ensure (swap.expiresAt ≤ now) .swapNotExpired
  let settled := { swap with status := .refunded, settledAt := some now }
  let stats := state.atomicSwapStats
  let active ← checkedSubUnsigned (.error .overflow) stats.active 1
  let refunded ← inUnsigned u64Max (.error .overflow) (stats.refunded + 1)
  let recorded := (state.setAtomicSwap settled).setAtomicSwapStats { stats with active, refunded }
  let paid ← tokens.pay state.ledger swap.offeredToken contract swap.maker swap.offeredAmount
  let ledger ← returnFunded tokens contract swap wasFunded paid
  return recorded.withLedger ledger

/-- The maker cancels a swap that the taker has not funded. -/
def cancelAtomicSwap (swapId : Nat) (maker : Address) (state : State Address) :
    Outcome Error (State Address) := do
  ensureInitialized state
  requireAuth env maker
  let swap ← state.getAtomicSwap swapId
  ensure (swap.maker = maker) .unauthorized
  ensure (swap.status = .awaitingCounterparty) .invalidState
  ensure (env.timestamp < swap.expiresAt) .swapExpired
  let settled := { swap with status := .cancelled, settledAt := some env.timestamp }
  let stats := state.atomicSwapStats
  let active ← checkedSubUnsigned (.error .overflow) stats.active 1
  let cancelled ← inUnsigned u64Max (.error .overflow) (stats.cancelled + 1)
  let recorded := (state.setAtomicSwap settled).setAtomicSwapStats { stats with active, cancelled }
  let ledger ← tokens.pay state.ledger swap.offeredToken contract maker swap.offeredAmount
  return recorded.withLedger ledger

/-- The calls that write the storage of atomic swaps, and the transfers that
holders make outside the contract. -/
inductive Operation (Address : Type) where
  | initializeEscrow (admin : Address) (arbiterFeeBps : Nat)
  | createAtomicSwap (maker taker offeredToken : Address) (offeredAmount : Int)
      (requestedToken : Address) (requestedAmount : Int) (hashlock : BitVec 256) (expiresAt : Nat)
  | fundAtomicSwap (swapId : Nat) (taker : Address)
  | claimAtomicSwap (swapId : Nat) (preimage : Bytes)
  | refundAtomicSwap (swapId : Nat)
  | cancelAtomicSwap (swapId : Nat) (maker : Address)
  | transfer (token source destination : Address) (amount : Int)

def dispatch (state : State Address) (call : Env Address contract × Operation Address) :
    Outcome Error (State Address) :=
  match call.2 with
  | .initializeEscrow admin arbiterFeeBps => initializeEscrow call.1 admin arbiterFeeBps state
  | .createAtomicSwap maker taker offeredToken offeredAmount requestedToken requestedAmount hashlock
      expiresAt =>
      Prod.snd <$> createAtomicSwap tokens call.1 maker taker offeredToken offeredAmount
        requestedToken requestedAmount hashlock expiresAt state
  | .fundAtomicSwap swapId taker => fundAtomicSwap tokens call.1 swapId taker state
  | .claimAtomicSwap swapId preimage => claimAtomicSwap tokens sha256 call.1 swapId preimage state
  | .refundAtomicSwap swapId => refundAtomicSwap tokens call.1 swapId state
  | .cancelAtomicSwap swapId maker => cancelAtomicSwap tokens call.1 swapId maker state
  | .transfer token source destination amount => do
      let ledger ← tokens.payAs call.1 state.ledger token source destination amount
      return state.withLedger ledger

def machine (contract : Address) :
    CallMachine (State Address) (Env Address contract × Operation Address) (Failure Error) where
  exec := dispatch tokens sha256

end SorobanPlayground.Escrow
