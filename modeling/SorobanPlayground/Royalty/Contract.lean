import SorobanPlayground.Host

/-! # Royalty waterfalls

An agreement splits every deposit down an ordered tree of accounts. The parts are held for
the accounts, which claim them one by one or in batches.
-/

namespace SorobanPlayground.Royalty

def maxNodes : Nat := 64

def maxDepth : Nat := 8

def maxBatch : Nat := 20

/-- A node of a royalty tree; its share is a part of what its parent gets. -/
structure RoyaltyNode (Address : Type) where
  account : Address
  parent : Option Nat
  shareBps : Nat
  deriving DecidableEq, Repr

structure Agreement (Address : Type) where
  id : Nat
  owner : Address
  token : Address
  reference : String
  nodes : List (RoyaltyNode Address)
  active : Bool
  totalReceived : Int
  totalClaimed : Int
  deriving DecidableEq, Repr

inductive Error where
  | alreadyInitialized
  | notInitialized
  | unauthorized
  | paused
  | invalidReference
  | invalidTree
  | tooManyNodes
  | treeTooDeep
  | duplicateAccount
  | invalidShare
  | agreementNotFound
  | agreementInactive
  | invalidAmount
  | arithmeticError
  | nothingToClaim
  | emptyBatch
  | batchTooLarge
  deriving DecidableEq, Repr

structure State (Address : Type) [DecidableEq Address] where
  admin : Option Address := none
  paused : Bool := false
  agreementCount : Nat := 0
  agreements : FiniteMap Nat (Agreement Address) := ∅
  pending : FiniteMap (Nat × Address) Int := ∅
  ledger : TokenLedger Address

variable {Address : Type} [DecidableEq Address] {contract : Address}
  (nodes : List (RoyaltyNode Address))

/-- The depths of the checked nodes and the shares of their children. -/
structure Audit where
  depths : List Nat
  childTotals : List Nat

/-- The checks of a node's place under its parent. -/
def auditParent (audit : Audit) (i : Nat) (node : RoyaltyNode Address) : Outcome Error Audit := do
  let parent ← orError node.parent .invalidTree
  ensure (¬ i ≤ parent) .invalidTree
  let above ← orTrap audit.depths[parent]?
  ensure (¬ maxDepth < above + 1) .treeTooDeep
  let before ← orTrap audit.childTotals[parent]?
  let total ← inUnsigned u32Max (.error .arithmeticError) (before + node.shareBps)
  ensure (¬ 10000 < total) .invalidShare
  return {
    depths := audit.depths.set i (above + 1)
    childTotals := audit.childTotals.set parent total }

def auditNode (audit : Audit) (i : Nat) : Outcome Error Audit := do
  let node ← orTrap nodes[i]?
  ensure (¬ (node.shareBps = 0 ∨ 10000 < node.shareBps)) .invalidShare
  ensure (node.account ∉ (nodes.take i).map RoyaltyNode.account) .duplicateAccount
  if 0 < i then auditParent audit i node else return audit

def validateTree : Outcome Error Unit := do
  ensure (nodes ≠ []) .invalidTree
  ensure (¬ maxNodes < nodes.length) .tooManyNodes
  let root ← orTrap nodes[0]?
  ensure (¬ (root.parent.isSome = true ∨ root.shareBps ≠ 10000)) .invalidTree
  let _ ← (List.range nodes.length).foldlM (auditNode nodes)
    ⟨List.replicate nodes.length 0, List.replicate nodes.length 0⟩
  return ()

/-- `a * b / divisor` in `i128`. -/
def checkedMulDiv (a b divisor : Int) : Outcome Error Int := do
  let product ← checkedMul (.error .arithmeticError) a b
  checkedDiv (.error .arithmeticError) product divisor

/-- Give a node its part, if it is a child; returns what flows into the nodes and the sum of
the parts given. -/
def distribute (parentIndex : Nat) (parentAmount : Int) (progress : List Int × Int)
    (childIndex : Nat) : Outcome Error (List Int × Int) := do
  let child ← orTrap nodes[childIndex]?
  if child.parent = some parentIndex then do
    let share ← checkedMulDiv parentAmount child.shareBps 10000
    let distributed ← checkedAdd (.error .arithmeticError) progress.2 share
    return (progress.1.set childIndex share, distributed)
  else return progress

/-- Give the children of a node their parts and the node the rest; returns what flows into
the nodes and the credits. -/
def allocateNode (progress : List Int × List Int) (parentIndex : Nat) :
    Outcome Error (List Int × List Int) := do
  let parentAmount ← orTrap progress.1[parentIndex]?
  let (incoming, distributed) ←
    (List.range' (parentIndex + 1) (nodes.length - (parentIndex + 1))).foldlM
      (distribute nodes parentIndex parentAmount) (progress.1, 0)
  let rest ← checkedSub (.error .arithmeticError) parentAmount distributed
  return (incoming, progress.2.set parentIndex rest)

/-- The credits of the nodes; the vectors have room for 64 nodes, and a root at least. -/
def allocate (amount : Int) : Outcome Error (List Int) := do
  assertOrTrap (nodes ≠ [] ∧ nodes.length ≤ maxNodes)
  let (_, credits) ← (List.range nodes.length).foldlM (allocateNode nodes)
    ((List.replicate nodes.length 0).set 0 amount, List.replicate nodes.length 0)
  return credits

variable (state : State Address)

def ensureInitialized : Outcome Error Unit :=
  ensure (state.admin.isSome = true) .notInitialized

def ensureNotPaused : Outcome Error Unit :=
  ensure (¬ state.paused = true) .paused

def loadAgreement (id : Nat) : Outcome Error (Agreement Address) := do
  ensureInitialized state
  orError (state.agreements.get id) .agreementNotFound

/-- What is held for an account of an agreement. -/
def State.pendingOf (key : Nat × Address) : Int :=
  (state.pending.get key).getD 0

variable (tokens : TokenHost Address) (env : Env Address contract)

def initializeRoyalty (admin : Address) (state : State Address) :
    Outcome Error (State Address) := do
  ensure (¬ state.admin.isSome = true) .alreadyInitialized
  requireAuth env admin
  return { state with admin := some admin, paused := false, agreementCount := 0 }

def setPaused (paused : Bool) (state : State Address) : Outcome Error (State Address) := do
  let admin ← orError state.admin .notInitialized
  requireAuth env admin
  return { state with paused }

def createAgreement (owner token : Address) (reference : String)
    (nodes : List (RoyaltyNode Address)) (state : State Address) :
    Outcome Error (Nat × State Address) := do
  ensureInitialized state
  ensureNotPaused state
  requireAuth env owner
  ensure (¬ (reference.utf8ByteSize = 0 ∨ 128 < reference.utf8ByteSize)) .invalidReference
  validateTree nodes
  let next ← inUnsigned u64Max .trap (state.agreementCount + 1)
  return (state.agreementCount, { state with
    agreements := state.agreements.set state.agreementCount {
      id := state.agreementCount
      owner, token, reference, nodes
      active := true
      totalReceived := 0
      totalClaimed := 0 }
    agreementCount := next })

def closeAgreement (agreementId : Nat) (state : State Address) :
    Outcome Error (State Address) := do
  ensureInitialized state
  let agreement ← loadAgreement state agreementId
  requireAuth env agreement.owner
  return { state with
    agreements := state.agreements.set agreement.id { agreement with active := false } }

/-- The pending balance of a node after a credit. -/
def creditPending (state : State Address) (agreementId : Nat)
    (credited : RoyaltyNode Address × Int) : Outcome Error Int :=
  checkedAdd (.error .arithmeticError) (state.pendingOf (agreementId, credited.1.account))
    credited.2

/-- Write the pending balances of nodes. -/
def putPending (pending : FiniteMap (Nat × Address) Int) (agreementId : Nat)
    (balances : List (RoyaltyNode Address × Int)) : FiniteMap (Nat × Address) Int :=
  balances.foldl (fun pending entry => pending.set (agreementId, entry.1.account) entry.2) pending

def deposit (payer : Address) (agreementId : Nat) (amount : Int) (state : State Address) :
    Outcome Error (State Address) := do
  ensureInitialized state
  ensureNotPaused state
  requireAuth env payer
  ensure (¬ amount ≤ 0) .invalidAmount
  let agreement ← loadAgreement state agreementId
  ensure (agreement.active = true) .agreementInactive
  let credits ← allocate agreement.nodes amount
  let newPending ← (agreement.nodes.zip credits).mapM (creditPending state agreementId)
  let totalReceived ← checkedAdd (.error .arithmeticError) agreement.totalReceived amount
  let ledger ← tokens.pay state.ledger agreement.token payer contract amount
  return { state with
    pending := putPending state.pending agreementId (agreement.nodes.zip newPending)
    agreements := state.agreements.set agreement.id { agreement with totalReceived }
    ledger }

variable (contract) in
/-- Pay an account what is pending for it; returns the amount. -/
def claimOne (agreementId : Nat) (recipient : Address) (state : State Address) :
    Outcome Error (Int × State Address) := do
  let agreement ← loadAgreement state agreementId
  let amount := state.pendingOf (agreementId, recipient)
  ensure (¬ amount ≤ 0) .nothingToClaim
  let totalClaimed ← checkedAdd (.error .arithmeticError) agreement.totalClaimed amount
  let ledger ← tokens.pay state.ledger agreement.token contract recipient amount
  return (amount, { state with
    pending := state.pending.set (agreementId, recipient) 0
    agreements := state.agreements.set agreement.id { agreement with totalClaimed }
    ledger })

def claim (agreementId : Nat) (recipient : Address) (state : State Address) :
    Outcome Error (Int × State Address) := do
  ensureInitialized state
  requireAuth env recipient
  claimOne contract tokens agreementId recipient state

variable (contract) in
/-- The claim of one recipient in a batch, unless there is nothing pending; returns the sum
of the claims. -/
def claimNext (agreementId : Nat) (progress : Int × State Address) (recipient : Address) :
    Outcome Error (Int × State Address) :=
  if 0 < progress.2.pendingOf (agreementId, recipient) then do
    let total ← checkedAdd (.error .arithmeticError) progress.1
      (progress.2.pendingOf (agreementId, recipient))
    let (_, state) ← claimOne contract tokens agreementId recipient progress.2
    return (total, state)
  else return progress

/-- Claim for several recipients; returns the sum. The two loops of the source that compare
the recipients find a duplicate unless there is none. -/
def claimBatch (operator : Address) (agreementId : Nat) (recipients : List Address)
    (state : State Address) : Outcome Error (Int × State Address) := do
  ensureInitialized state
  requireAuth env operator
  ensure (recipients ≠ []) .emptyBatch
  ensure (¬ maxBatch < recipients.length) .batchTooLarge
  ensure recipients.Nodup .duplicateAccount
  let (total, state) ← recipients.foldlM (claimNext contract tokens agreementId) (0, state)
  ensure (¬ total = 0) .nothingToClaim
  return (total, state)

inductive Operation (Address : Type) where
  | initializeRoyalty (admin : Address)
  | setPaused (paused : Bool)
  | createAgreement (owner token : Address) (reference : String)
      (nodes : List (RoyaltyNode Address))
  | closeAgreement (agreementId : Nat)
  | deposit (payer : Address) (agreementId : Nat) (amount : Int)
  | claim (agreementId : Nat) (recipient : Address)
  | claimBatch (operator : Address) (agreementId : Nat) (recipients : List Address)
  | transferTokens (token source destination : Address) (amount : Int)

/-- The state a call leaves; the host passes amounts of type `i128` only. -/
def dispatch (tokens : TokenHost Address) (state : State Address)
    (call : Env Address contract × Operation Address) : Outcome Error (State Address) :=
  match call.2 with
  | .initializeRoyalty admin => initializeRoyalty call.1 admin state
  | .setPaused paused => setPaused call.1 paused state
  | .createAgreement owner token reference nodes =>
      Prod.snd <$> createAgreement call.1 owner token reference nodes state
  | .closeAgreement agreementId => closeAgreement call.1 agreementId state
  | .deposit payer agreementId amount => do
      let amount ← inI128 .trap amount
      deposit tokens call.1 payer agreementId amount state
  | .claim agreementId recipient => Prod.snd <$> claim tokens call.1 agreementId recipient state
  | .claimBatch operator agreementId recipients =>
      Prod.snd <$> claimBatch tokens call.1 operator agreementId recipients state
  | .transferTokens token source destination amount => do
      let ledger ← tokens.payAs call.1 state.ledger token source destination amount
      return { state with ledger }

def machine (tokens : TokenHost Address) (contract : Address) :
    CallMachine (State Address) (Env Address contract × Operation Address) (Failure Error) where
  exec := dispatch tokens

end SorobanPlayground.Royalty
