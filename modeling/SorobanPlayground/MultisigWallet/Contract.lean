import SorobanPlayground.Host

/-! # The multisig wallet

Owners queue transactions, confirm them and execute them after a delay. A
transaction becomes ready when its confirmations reach the threshold of that
moment. The owner set is stored twice, as an indexed list and as a flag for each
address, and the number of confirmations is cached on the transaction next to a
flag for each confirming address.
-/

namespace SorobanPlayground.MultisigWallet

/-- The longest calldata, in bytes. -/
def maxDataLength : Nat := 256

inductive Error where
  | alreadyInitialized
  | notInitialized
  | unauthorized
  | ownerRequired
  | ownerExists
  | ownerNotFound
  | duplicateOwner
  | selfRemoval
  | invalidThreshold
  | invalidDelay
  | invalidValue
  | emptyData
  | dataTooLong
  | transactionNotFound
  | alreadyConfirmed
  | notConfirmed
  | wrongStatus
  | delayNotElapsed
  deriving DecidableEq, Repr

inductive TxStatus where
  | pending
  | ready
  | executed
  | cancelled
  deriving DecidableEq, Repr

structure Transaction (Address : Type) where
  id : Nat
  proposer : Address
  target : Address
  value : Int
  data : String
  status : TxStatus
  confirmations : Nat
  createdAt : Nat
  delay : Nat
  executeAfter : Nat
  deriving DecidableEq, Repr

/-- The contract's storage; the flags are stored as the value `true`. -/
structure State (Address : Type) where
  initialized : Bool := false
  threshold : Nat := 1
  minDelay : Nat := 0
  maxDelay : Nat := 0
  ownerCount : Nat := 0
  txCount : Nat := 0
  ownerAt : FiniteMap Nat Address := ∅
  isOwner : FiniteMap Address Bool := ∅
  transactions : FiniteMap Nat (Transaction Address) := ∅
  confirmations : FiniteMap (Nat × Address) Bool := ∅

variable {Address : Type} {contract : Address}

section Storage

variable (state : State Address)

def State.getTx (id : Nat) : Outcome Error (Transaction Address) :=
  orError (state.transactions.get id) .transactionNotFound

def State.setTx (tx : Transaction Address) : State Address :=
  { state with transactions := state.transactions.set tx.id tx }

def State.setTxCount (txCount : Nat) : State Address :=
  { state with txCount }

def State.setThreshold (threshold : Nat) : State Address :=
  { state with threshold }

def State.setOwnerCount (ownerCount : Nat) : State Address :=
  { state with ownerCount }

def State.setOwnerAt (index : Nat) (owner : Address) : State Address :=
  { state with ownerAt := state.ownerAt.set index owner }

def State.removeOwnerAt (index : Nat) : State Address :=
  { state with ownerAt := state.ownerAt.remove index }

variable [DecidableEq Address] (state : State Address)

def State.hasOwner (address : Address) : Bool := state.isOwner.has address

def State.setIsOwner (address : Address) : State Address :=
  { state with isOwner := state.isOwner.set address true }

def State.removeIsOwner (address : Address) : State Address :=
  { state with isOwner := state.isOwner.remove address }

def State.isConfirmed (txId : Nat) (owner : Address) : Bool :=
  state.confirmations.has (txId, owner)

def State.recordConfirmation (txId : Nat) (owner : Address) : State Address :=
  { state with confirmations := state.confirmations.set (txId, owner) true }

def State.removeConfirmation (txId : Nat) (owner : Address) : State Address :=
  { state with confirmations := state.confirmations.remove (txId, owner) }

end Storage

def ensureInitialized (state : State Address) : Outcome Error Unit :=
  ensure (state.initialized = true) .notInitialized

variable [DecidableEq Address] (env : Env Address contract)

/-- The checks that open every owner call: initialized, authorized, an owner. -/
def requireOwner (caller : Address) (state : State Address) : Outcome Error Unit := do
  ensureInitialized state
  requireAuth env caller
  ensure (state.hasOwner caller = true) .unauthorized

theorem requireOwner_eq_ok {env : Env Address contract} {caller : Address} {state : State Address}
    {result : Unit} : requireOwner env caller state = .ok result ↔
      state.initialized = true ∧ caller ∈ env.auths ∧ state.hasOwner caller = true := by
  simp [requireOwner, ensureInitialized]

/-- The owners without repetition; a repeated one is an error. -/
def deduplicate (owners : List Address) : Outcome Error (List Address) :=
  owners.foldlM (fun seen owner => do
    ensure (owner ∉ seen) .duplicateOwner
    return seen ++ [owner]) []

/-- Store the owners with their indices. -/
def persistOwners (owners : List Address) (state : State Address) : State Address :=
  owners.zipIdx.foldl (fun stored entry => (stored.setOwnerAt entry.2 entry.1).setIsOwner entry.1)
    (state.setOwnerCount owners.length)

def initializeWallet (owners : List Address) (threshold minDelay maxDelay : Nat)
    (state : State Address) : Outcome Error (State Address) := do
  ensure (state.initialized = false) .alreadyInitialized
  ensure (owners ≠ []) .ownerRequired
  ensure (threshold ≠ 0) .invalidThreshold
  ensure (threshold ≤ owners.length) .invalidThreshold
  ensure (minDelay ≤ maxDelay) .invalidDelay
  let seen ← deduplicate owners
  let persisted := persistOwners seen state
  return { persisted with threshold, minDelay, maxDelay, txCount := 0, initialized := true }

def addOwner (caller newOwner : Address) (state : State Address) :
    Outcome Error (State Address) := do
  requireOwner env caller state
  ensure (state.hasOwner newOwner = false) .ownerExists
  let count ← inUnsigned u32Max .trap (state.ownerCount + 1)
  return ((state.setOwnerAt state.ownerCount newOwner).setIsOwner newOwner).setOwnerCount count

variable (state : State Address)

def State.ownerIndex (owner : Address) : Option Nat :=
  (List.range state.ownerCount).find? fun index => state.ownerAt.get index == some owner

/-- The owner list with an index filled by the last owner. -/
def State.swapWithLast (index lastIndex : Nat) : State Address :=
  if index = lastIndex then state
  else match state.ownerAt.get lastIndex with
    | some last => state.setOwnerAt index last
    | none => state

def State.dropOwner (owner : Address) (lastIndex : Nat) : State Address :=
  match state.ownerIndex owner with
  | some index => (state.swapWithLast index lastIndex).removeOwnerAt lastIndex
  | none => state

def removeOwner (caller owner : Address) (state : State Address) :
    Outcome Error (State Address) := do
  requireOwner env caller state
  ensure (state.hasOwner owner = true) .ownerNotFound
  ensure (caller ≠ owner) .selfRemoval
  let lastIndex ← checkedSubUnsigned .trap state.ownerCount 1
  ensure (state.threshold ≤ lastIndex) .invalidThreshold
  return ((state.dropOwner owner lastIndex).removeIsOwner owner).setOwnerCount lastIndex

def changeThreshold (caller : Address) (newThreshold : Nat) (state : State Address) :
    Outcome Error (State Address) := do
  requireOwner env caller state
  ensure (newThreshold ≠ 0) .invalidThreshold
  ensure (newThreshold ≤ state.ownerCount) .invalidThreshold
  return state.setThreshold newThreshold

def updateDelays (caller : Address) (minDelay maxDelay : Nat) (state : State Address) :
    Outcome Error (State Address) := do
  requireOwner env caller state
  ensure (minDelay ≤ maxDelay) .invalidDelay
  return { state with minDelay, maxDelay }

/-- Returns the id of the new transaction. -/
def submitTransaction (proposer target : Address) (value : Int) (data : String) (delay : Nat)
    (state : State Address) : Outcome Error (Nat × State Address) := do
  requireOwner env proposer state
  ensure (0 ≤ value) .invalidValue
  ensure (data ≠ "") .emptyData
  ensure (data.utf8ByteSize ≤ maxDataLength) .dataTooLong
  ensure (¬ (delay < state.minDelay ∨ state.maxDelay < delay)) .invalidDelay
  let id := state.txCount
  let tx : Transaction Address :=
    { id, proposer, target, value, data, status := .pending, confirmations := 0,
      createdAt := env.timestamp, delay, executeAfter := 0 }
  let nextId ← inUnsigned u32Max .trap (id + 1)
  return (id, (state.setTx tx).setTxCount nextId)

/-- The transaction after its confirmations were raised to a number. -/
def Transaction.confirmed (tx : Transaction Address) (confirmations threshold now : Nat) :
    Outcome Error (Transaction Address) :=
  if threshold ≤ confirmations then do
    let executeAfter ← inUnsigned u64Max .trap (now + tx.delay)
    return { tx with confirmations, status := .ready, executeAfter }
  else pure { tx with confirmations }

def confirmTransaction (owner : Address) (txId : Nat) (state : State Address) :
    Outcome Error (State Address) := do
  requireOwner env owner state
  let tx ← state.getTx txId
  ensure (tx.status = .pending) .wrongStatus
  ensure (state.isConfirmed txId owner = false) .alreadyConfirmed
  let confirmations ← inUnsigned u32Max .trap (tx.confirmations + 1)
  let updated ← tx.confirmed confirmations state.threshold env.timestamp
  return (state.recordConfirmation txId owner).setTx updated

/-- The transaction after its confirmations were lowered to a number. -/
def Transaction.revoked (tx : Transaction Address) (confirmations threshold : Nat) :
    Transaction Address :=
  if tx.status = .ready ∧ confirmations < threshold then
    { tx with confirmations, status := .pending, executeAfter := 0 }
  else { tx with confirmations }

def revokeConfirmation (owner : Address) (txId : Nat) (state : State Address) :
    Outcome Error (State Address) := do
  requireOwner env owner state
  let tx ← state.getTx txId
  ensure (tx.status = .pending ∨ tx.status = .ready) .wrongStatus
  ensure (state.isConfirmed txId owner = true) .notConfirmed
  let confirmations ← checkedSubUnsigned .trap tx.confirmations 1
  return (state.removeConfirmation txId owner).setTx (tx.revoked confirmations state.threshold)

def executeTransaction (caller : Address) (txId : Nat) (state : State Address) :
    Outcome Error (State Address) := do
  requireOwner env caller state
  let tx ← state.getTx txId
  ensure (tx.status = .ready) .wrongStatus
  ensure (tx.executeAfter ≤ env.timestamp) .delayNotElapsed
  return state.setTx { tx with status := .executed }

def cancelTransaction (caller : Address) (txId : Nat) (state : State Address) :
    Outcome Error (State Address) := do
  requireOwner env caller state
  let tx ← state.getTx txId
  ensure (¬ (tx.status = .executed ∨ tx.status = .cancelled)) .wrongStatus
  return state.setTx { tx with status := .cancelled }

inductive Operation (Address : Type) where
  | initializeWallet (owners : List Address) (threshold minDelay maxDelay : Nat)
  | addOwner (caller newOwner : Address)
  | removeOwner (caller owner : Address)
  | changeThreshold (caller : Address) (newThreshold : Nat)
  | updateDelays (caller : Address) (minDelay maxDelay : Nat)
  | submitTransaction (proposer target : Address) (value : Int) (data : String) (delay : Nat)
  | confirmTransaction (owner : Address) (txId : Nat)
  | revokeConfirmation (owner : Address) (txId : Nat)
  | executeTransaction (caller : Address) (txId : Nat)
  | cancelTransaction (caller : Address) (txId : Nat)

def dispatch (call : Env Address contract × Operation Address) : Outcome Error (State Address) :=
  match call.2 with
  | .initializeWallet owners threshold minDelay maxDelay =>
      initializeWallet owners threshold minDelay maxDelay state
  | .addOwner caller newOwner => addOwner call.1 caller newOwner state
  | .removeOwner caller owner => removeOwner call.1 caller owner state
  | .changeThreshold caller newThreshold => changeThreshold call.1 caller newThreshold state
  | .updateDelays caller minDelay maxDelay => updateDelays call.1 caller minDelay maxDelay state
  | .submitTransaction proposer target value data delay =>
      Prod.snd <$> submitTransaction call.1 proposer target value data delay state
  | .confirmTransaction owner txId => confirmTransaction call.1 owner txId state
  | .revokeConfirmation owner txId => revokeConfirmation call.1 owner txId state
  | .executeTransaction caller txId => executeTransaction call.1 caller txId state
  | .cancelTransaction caller txId => cancelTransaction call.1 caller txId state

def machine (contract : Address) :
    CallMachine (State Address) (Env Address contract × Operation Address) (Failure Error) where
  exec := dispatch

end SorobanPlayground.MultisigWallet
