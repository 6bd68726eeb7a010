import SorobanPlayground.Host

/-! # DAO treasury

Signers with roles propose and approve transactions. A transaction that the threshold of
signers has approved is queued, and an admin executes it when its timelock is over. The
admin names the token in which its amount is transferred.
-/

namespace SorobanPlayground.DaoTreasury

inductive Role where
  | viewer
  | operator
  | admin
  | owner
  deriving DecidableEq, Repr

/-- A higher value is a higher privilege. -/
def Role.value : Role → Nat
  | viewer => 0
  | operator => 1
  | admin => 2
  | owner => 3

structure Signer (Address : Type) where
  address : Address
  role : Role
  deriving DecidableEq, Repr

inductive TxStatus where
  | pending
  | queued
  | executed
  | cancelled
  | expired
  deriving DecidableEq, Repr

structure Transaction (Address : Type) where
  id : Nat
  proposer : Address
  description : String
  amount : Int
  recipient : Option Address
  status : TxStatus
  approvals : Nat
  createdAt : Nat
  executeAfter : Nat
  expiresAt : Nat
  deriving DecidableEq, Repr

inductive Error where
  | alreadyInitialized
  | notInitialized
  | unauthorized
  | invalidThreshold
  | signerAlreadyExists
  | signerNotFound
  | emptyDescription
  | transactionNotPending
  | transactionNotQueued
  | transactionExpired
  | alreadyApproved
  | timelockActive
  | contractPaused
  | insufficientBalance
  | transactionNotFound
  deriving DecidableEq, Repr

/-- 24 hours in seconds. -/
def timelockSecs : Nat := 86400

/-- 7 days in seconds. -/
def expirySecs : Nat := 604800

structure State (Address : Type) where
  admin : Option Address := none
  threshold : Option Nat := none
  signerCount : Nat := 0
  signers : FiniteMap Address (Signer Address) := ∅
  txCount : Nat := 0
  txs : FiniteMap Nat (Transaction Address) := ∅
  approvals : FiniteMap (Nat × Address) Bool := ∅
  isPaused : Bool := false
  ledger : TokenLedger Address

variable {Address : Type} [DecidableEq Address] {contract : Address} (state : State Address)

def State.getThreshold : Nat := state.threshold.getD 1

def ensureInitialized : Outcome Error Unit :=
  ensure (state.admin.isSome = true) .notInitialized

def ensureNotPaused : Outcome Error Unit :=
  ensure (¬ state.isPaused = true) .contractPaused

def roleOf (address : Address) : Outcome Error Role := do
  let signer ← orError (state.signers.get address) .signerNotFound
  return signer.role

def requireMinRole (address : Address) (least : Role) : Outcome Error Unit := do
  let role ← roleOf state address
  ensure (¬ role.value < least.value) .unauthorized

variable (tokens : TokenHost Address) (env : Env Address contract)

def initializeTreasury (owner : Address) (threshold : Nat) (state : State Address) :
    Outcome Error (State Address) := do
  ensure (¬ state.admin.isSome = true) .alreadyInitialized
  requireAuth env owner
  ensure (¬ threshold = 0) .invalidThreshold
  return { state with
    admin := some owner
    threshold := some threshold
    signers := state.signers.set owner { address := owner, role := .owner }
    signerCount := 1 }

/-- `pause` and `unpause`. -/
def setPaused (caller : Address) (paused : Bool) (state : State Address) :
    Outcome Error (State Address) := do
  ensureInitialized state
  requireAuth env caller
  requireMinRole state caller .admin
  return { state with isPaused := paused }

def pause (caller : Address) (state : State Address) : Outcome Error (State Address) :=
  setPaused env caller true state

def unpause (caller : Address) (state : State Address) : Outcome Error (State Address) :=
  setPaused env caller false state

def deposit (source token : Address) (amount : Int) (state : State Address) :
    Outcome Error (State Address) := do
  ensureInitialized state
  ensureNotPaused state
  requireAuth env source
  let ledger ← tokens.pay state.ledger token source contract amount
  return { state with ledger }

def addSigner (caller newSigner : Address) (role : Role) (state : State Address) :
    Outcome Error (State Address) := do
  ensureInitialized state
  requireAuth env caller
  requireMinRole state caller .admin
  ensure (¬ state.signers.has newSigner = true) .signerAlreadyExists
  let own ← roleOf state caller
  ensure (¬ own.value < role.value) .unauthorized
  let signerCount ← inUnsigned u32Max .trap (state.signerCount + 1)
  return { state with
    signers := state.signers.set newSigner { address := newSigner, role }
    signerCount }

def removeSigner (caller target : Address) (state : State Address) :
    Outcome Error (State Address) := do
  ensureInitialized state
  requireAuth env caller
  requireMinRole state caller .owner
  ensure (state.signers.has target = true) .signerNotFound
  let signerCount ← checkedSubUnsigned .trap state.signerCount 1
  ensure (¬ signerCount < state.getThreshold) .invalidThreshold
  return { state with
    signers := state.signers.remove target
    signerCount }

def changeThreshold (caller : Address) (newThreshold : Nat) (state : State Address) :
    Outcome Error (State Address) := do
  ensureInitialized state
  requireAuth env caller
  requireMinRole state caller .owner
  ensure (¬ (newThreshold = 0 ∨ state.signerCount < newThreshold)) .invalidThreshold
  return { state with threshold := some newThreshold }

/-- Propose a transaction; returns its id. -/
def propose (proposer : Address) (description : String) (amount : Int)
    (recipient : Option Address) (state : State Address) :
    Outcome Error (Nat × State Address) := do
  ensureInitialized state
  ensureNotPaused state
  requireAuth env proposer
  requireMinRole state proposer .operator
  ensure (¬ description.isEmpty = true) .emptyDescription
  let now := env.timestamp
  let id := state.txCount
  let executeAfter ← inUnsigned u64Max .trap (now + timelockSecs)
  let expiresAt ← inUnsigned u64Max .trap (now + expirySecs)
  let txCount ← inUnsigned u32Max .trap (id + 1)
  return (id, { state with
    txs := state.txs.set id {
      id, proposer, description, amount, recipient, executeAfter, expiresAt
      status := .pending
      approvals := 0
      createdAt := now }
    txCount })

def statusAfter (approvals threshold : Nat) (status : TxStatus) : TxStatus :=
  if threshold ≤ approvals then .queued else status

def approve (signer : Address) (txId : Nat) (state : State Address) :
    Outcome Error (State Address) := do
  ensureInitialized state
  ensureNotPaused state
  requireAuth env signer
  requireMinRole state signer .operator
  let tx ← orError (state.txs.get txId) .transactionNotFound
  ensure (tx.status = .pending) .transactionNotPending
  -- the expired status is written before the error is returned, and rolled back with it
  ensure (¬ tx.expiresAt < env.timestamp) .transactionExpired
  ensure (¬ state.approvals.has (txId, signer) = true) .alreadyApproved
  let approvals ← inUnsigned u32Max .trap (tx.approvals + 1)
  return { state with
    approvals := state.approvals.set (txId, signer) true
    txs := state.txs.set tx.id { tx with
      approvals
      status := statusAfter approvals state.getThreshold tx.status } }

variable (contract) in
/-- The transfer when the transaction has a recipient and the caller names a token. -/
def payRecipient (tx : Transaction Address) (token : Option Address)
    (ledger : TokenLedger Address) : Outcome Error (TokenLedger Address) :=
  match tx.recipient, token with
  | some recipient, some tokenAddr => do
      ensure (¬ (ledger tokenAddr contract : Int) < tx.amount) .insufficientBalance
      tokens.pay ledger tokenAddr contract recipient tx.amount
  | _, _ => pure ledger

def execute (caller : Address) (txId : Nat) (token : Option Address) (state : State Address) :
    Outcome Error (State Address) := do
  ensureInitialized state
  ensureNotPaused state
  requireAuth env caller
  requireMinRole state caller .admin
  let tx ← orError (state.txs.get txId) .transactionNotFound
  ensure (tx.status = .queued) .transactionNotQueued
  ensure (¬ env.timestamp < tx.executeAfter) .timelockActive
  ensure (¬ tx.expiresAt < env.timestamp) .transactionExpired
  let ledger ← payRecipient contract tokens tx token state.ledger
  return { state with
    txs := state.txs.set tx.id { tx with status := .executed }
    ledger }

def cancel (caller : Address) (txId : Nat) (state : State Address) :
    Outcome Error (State Address) := do
  ensureInitialized state
  requireAuth env caller
  requireMinRole state caller .admin
  let tx ← orError (state.txs.get txId) .transactionNotFound
  ensure (¬ (tx.status ≠ .pending ∧ tx.status ≠ .queued)) .transactionNotPending
  return { state with txs := state.txs.set tx.id { tx with status := .cancelled } }

inductive Operation (Address : Type) where
  | initializeTreasury (owner : Address) (threshold : Nat)
  | pause (caller : Address)
  | unpause (caller : Address)
  | deposit (source token : Address) (amount : Int)
  | addSigner (caller newSigner : Address) (role : Role)
  | removeSigner (caller target : Address)
  | changeThreshold (caller : Address) (newThreshold : Nat)
  | propose (proposer : Address) (description : String) (amount : Int) (recipient : Option Address)
  | approve (signer : Address) (txId : Nat)
  | execute (caller : Address) (txId : Nat) (token : Option Address)
  | cancel (caller : Address) (txId : Nat)
  | transferTokens (token source destination : Address) (amount : Int)

def dispatch (tokens : TokenHost Address) (state : State Address)
    (call : Env Address contract × Operation Address) : Outcome Error (State Address) :=
  match call.2 with
  | .initializeTreasury owner threshold => initializeTreasury call.1 owner threshold state
  | .pause caller => pause call.1 caller state
  | .unpause caller => unpause call.1 caller state
  | .deposit source token amount => deposit tokens call.1 source token amount state
  | .addSigner caller newSigner role => addSigner call.1 caller newSigner role state
  | .removeSigner caller target => removeSigner call.1 caller target state
  | .changeThreshold caller newThreshold => changeThreshold call.1 caller newThreshold state
  | .propose proposer description amount recipient =>
      Prod.snd <$> propose call.1 proposer description amount recipient state
  | .approve signer txId => approve call.1 signer txId state
  | .execute caller txId token => execute tokens call.1 caller txId token state
  | .cancel caller txId => cancel call.1 caller txId state
  | .transferTokens token source destination amount => do
      let ledger ← tokens.payAs call.1 state.ledger token source destination amount
      return { state with ledger }

def machine (tokens : TokenHost Address) (contract : Address) :
    CallMachine (State Address) (Env Address contract × Operation Address) (Failure Error) where
  exec := dispatch tokens

end SorobanPlayground.DaoTreasury
