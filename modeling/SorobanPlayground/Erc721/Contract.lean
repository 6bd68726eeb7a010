import SorobanPlayground.Host

/-! # ERC-721 token

The admin mints tokens; the owner of a token, the address approved for it and the operators
may transfer it. Owners, balances and the total supply are stored apart from each other.
-/

namespace SorobanPlayground.Erc721

inductive Error where
  | unauthorized
  | invalidInput
  | notFound
  | capExceeded
  | tokenNotFound
  | notApproved
  deriving DecidableEq, Repr

def maxUriLen : Nat := 512

structure RoyaltyInfo (Address : Type) where
  creator : Address
  bips : Nat
  deriving DecidableEq, Repr

structure State (Address : Type) where
  admin : Option Address := none
  totalSupply : Nat := 0
  royalty : Option (RoyaltyInfo Address) := none
  owners : FiniteMap Nat Address := ∅
  balances : FiniteMap Address Nat := ∅
  approved : FiniteMap Nat Address := ∅
  approvedAll : FiniteMap (Address × Address) Bool := ∅
  tokenUris : FiniteMap Nat String := ∅

variable {Address : Type} [DecidableEq Address] {contract : Address} (state : State Address)

def getAdmin : Outcome Error Address := orError state.admin .unauthorized

def ensureInitialized : Outcome Error Unit := ensure (state.admin.isSome = true) .notFound

def State.balance (owner : Address) : Nat := (state.balances.get owner).getD 0

def State.isOperator (owner operator : Address) : Bool :=
  (state.approvedAll.get (owner, operator)).getD false

def totalSupply : Outcome Error Nat := do
  ensureInitialized state
  return state.totalSupply

def balanceOf (owner : Address) : Outcome Error Nat := do
  ensureInitialized state
  return state.balance owner

def ownerOf (tokenId : Nat) : Outcome Error Address := do
  ensureInitialized state
  orError (state.owners.get tokenId) .tokenNotFound

/-- `value.saturating_add(1)`. -/
def saturatingSucc (value : Nat) : Nat := min (value + 1) u64Max

variable (env : Env Address contract)

def initializeToken (admin : Address) (state : State Address) : Outcome Error (State Address) := do
  ensure (¬ state.admin.isSome = true) .capExceeded
  requireAuth env admin
  return { state with
    admin := some admin
    totalSupply := 0 }

/-- The balances after a transfer: both are read before either is written. -/
def moveBalance (state : State Address) (source destination : Address) : FiniteMap Address Nat :=
  (state.balances.set source (state.balance source - 1)).set destination
    (saturatingSucc (state.balance destination))

/-- The caller is the owner, the approved address or an operator of the address that the caller
names as the source. -/
def transferFrom (caller source destination : Address) (tokenId : Nat) (state : State Address) :
    Outcome Error (State Address) := do
  ensureInitialized state
  requireAuth env caller
  let owner ← ownerOf state tokenId
  ensure (caller = owner ∨ state.approved.get tokenId = some caller ∨
    state.isOperator source caller = true) .notApproved
  return { state with
    approved := state.approved.remove tokenId
    owners := state.owners.set tokenId destination
    balances := moveBalance state source destination }

def safeTransferFrom (caller source destination : Address) (tokenId : Nat) (state : State Address) :
    Outcome Error (State Address) := do
  ensureInitialized state
  requireAuth env caller
  transferFrom env caller source destination tokenId state

def mint (destination : Address) (tokenId : Nat) (state : State Address) :
    Outcome Error (State Address) := do
  ensureInitialized state
  let admin ← getAdmin state
  requireAuth env admin
  ensure (¬ state.owners.has tokenId = true) .capExceeded
  return { state with
    owners := state.owners.set tokenId destination
    balances := state.balances.set destination (saturatingSucc (state.balance destination))
    totalSupply := saturatingSucc state.totalSupply }

/-- The approval of the token stays. -/
def burn (caller : Address) (tokenId : Nat) (state : State Address) :
    Outcome Error (State Address) := do
  ensureInitialized state
  requireAuth env caller
  let owner ← ownerOf state tokenId
  ensure (caller = owner ∨ state.approved.get tokenId = some caller) .notApproved
  return { state with
    owners := state.owners.remove tokenId
    balances := state.balances.set owner (state.balance owner - 1)
    totalSupply := state.totalSupply - 1 }

def approve (caller destination : Address) (tokenId : Nat) (state : State Address) :
    Outcome Error (State Address) := do
  ensureInitialized state
  requireAuth env caller
  let owner ← ownerOf state tokenId
  ensure (caller = owner) .unauthorized
  return { state with approved := state.approved.set tokenId destination }

def setApprovalForAll (caller operator : Address) (approved : Bool) (state : State Address) :
    Outcome Error (State Address) := do
  ensureInitialized state
  requireAuth env caller
  return { state with approvedAll := state.approvedAll.set (caller, operator) approved }

def setTokenUri (caller : Address) (tokenId : Nat) (uri : String) (state : State Address) :
    Outcome Error (State Address) := do
  ensureInitialized state
  requireAuth env caller
  let owner ← ownerOf state tokenId
  let admin ← getAdmin state
  ensure (¬ (caller ≠ admin ∧ caller ≠ owner)) .unauthorized
  ensure (¬ maxUriLen < uri.utf8ByteSize) .invalidInput
  return { state with tokenUris := state.tokenUris.set tokenId uri }

def setRoyalty (creator : Address) (bips : Nat) (state : State Address) :
    Outcome Error (State Address) := do
  ensureInitialized state
  let admin ← getAdmin state
  requireAuth env admin
  ensure (¬ 10000 < bips) .invalidInput
  return { state with royalty := some { creator, bips } }

inductive Operation (Address : Type) where
  | initializeToken (admin : Address)
  | transferFrom (caller source destination : Address) (tokenId : Nat)
  | safeTransferFrom (caller source destination : Address) (tokenId : Nat)
  | mint (destination : Address) (tokenId : Nat)
  | burn (caller : Address) (tokenId : Nat)
  | approve (caller destination : Address) (tokenId : Nat)
  | setApprovalForAll (caller operator : Address) (approved : Bool)
  | setTokenUri (caller : Address) (tokenId : Nat) (uri : String)
  | setRoyalty (creator : Address) (bips : Nat)

def dispatch (state : State Address) (call : Env Address contract × Operation Address) :
    Outcome Error (State Address) :=
  match call.2 with
  | .initializeToken admin => initializeToken call.1 admin state
  | .transferFrom caller source destination tokenId =>
      transferFrom call.1 caller source destination tokenId state
  | .safeTransferFrom caller source destination tokenId =>
      safeTransferFrom call.1 caller source destination tokenId state
  | .mint destination tokenId => mint call.1 destination tokenId state
  | .burn caller tokenId => burn call.1 caller tokenId state
  | .approve caller destination tokenId => approve call.1 caller destination tokenId state
  | .setApprovalForAll caller operator approved =>
      setApprovalForAll call.1 caller operator approved state
  | .setTokenUri caller tokenId uri => setTokenUri call.1 caller tokenId uri state
  | .setRoyalty creator bips => setRoyalty call.1 creator bips state

def machine (contract : Address) :
    CallMachine (State Address) (Env Address contract × Operation Address) (Failure Error) where
  exec := dispatch

end SorobanPlayground.Erc721
