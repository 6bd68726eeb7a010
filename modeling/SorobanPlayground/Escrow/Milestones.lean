import SorobanPlayground.Escrow.AtomicSwap

/-! # Milestone escrows

A client agrees with a freelancer on a list of milestone amounts, deposits their
total and pays the milestones one after another. Either party can raise a
dispute, which an arbiter settles.
-/

namespace SorobanPlayground.MilestoneEscrow

open SorobanPlayground.Escrow (Error)

inductive EscrowStatus where
  | pending
  | active
  | completed
  | disputed
  | cancelled
  deriving DecidableEq, Repr

inductive MilestoneStatus where
  | pending
  | inProgress
  | underReview
  | approved
  | rejected
  | paid
  deriving DecidableEq, Repr

inductive Ruling where
  | freelancerFavored
  | clientFavored
  | split
  deriving DecidableEq, Repr

structure Milestone where
  id : Nat
  amount : Int
  status : MilestoneStatus
  deriving DecidableEq, Repr

structure Escrow (Address : Type) where
  id : Nat
  client : Address
  freelancer : Address
  arbiter : Address
  totalAmount : Int
  paidAmount : Int
  milestoneCount : Nat
  status : EscrowStatus
  createdAt : Nat
  arbiterFeeBps : Nat
  deriving DecidableEq, Repr

structure Analytics where
  totalEscrows : Nat := 0
  activeEscrows : Nat := 0
  completedEscrows : Nat := 0
  disputedEscrows : Nat := 0
  cancelledEscrows : Nat := 0
  totalValueLocked : Int := 0
  totalPaidOut : Int := 0
  deriving DecidableEq, Repr

structure State (Address : Type) where
  admin : Option Address := none
  arbiterFeeBps : Nat := 200
  initialized : Bool := false
  escrowCount : Nat := 0
  analytics : Analytics := {}
  escrows : FiniteMap Nat (Escrow Address) := ∅
  milestones : FiniteMap (Nat × Nat) Milestone := ∅

variable {Address : Type} {contract : Address} (state : State Address)

def State.getEscrow (id : Nat) : Outcome Error (Escrow Address) :=
  orError (state.escrows.get id) .escrowNotFound

def State.setEscrow (escrow : Escrow Address) : State Address :=
  { state with escrows := state.escrows.set escrow.id escrow }

def State.getMilestone (escrowId milestoneId : Nat) : Outcome Error Milestone :=
  orError (state.milestones.get (escrowId, milestoneId)) .milestoneNotFound

def State.setMilestone (escrowId : Nat) (milestone : Milestone) : State Address :=
  { state with milestones := state.milestones.set (escrowId, milestone.id) milestone }

def State.setAnalytics (analytics : Analytics) : State Address := { state with analytics }

def State.incrementEscrowCount : Outcome Error (Nat × State Address) := do
  let next ← inUnsigned u32Max .trap (state.escrowCount + 1)
  return (next, { state with escrowCount := next })

def ensureInitialized : Outcome Error Unit := ensure (state.initialized = true) .notInitialized

/-- Store pending milestones under consecutive ids. -/
def setMilestones (escrowId : Nat) (state : State Address) (milestoneId : Nat) :
    List Int → State Address
  | [] => state
  | amount :: amounts =>
      let stored := state.setMilestone escrowId { id := milestoneId, amount, status := .pending }
      setMilestones escrowId stored (milestoneId + 1) amounts

/-- Add up milestone amounts, each of which must be positive. -/
def sumAmounts (amounts : List Int) : Outcome Error Int :=
  amounts.foldlM (fun sum amount => do
    ensure (¬ amount ≤ 0) .invalidAmount
    checkedAdd .trap sum amount) 0

def arbiterFee (amount : Int) (arbiterFeeBps : Nat) : Outcome Error Int := do
  let scaled ← checkedMul .trap amount arbiterFeeBps
  return scaled.tdiv 10000

/-- Start the milestone after a paid one if it is pending. -/
def startNext (escrowId milestoneCount nextId : Nat) (state : State Address) : State Address :=
  if nextId ≤ milestoneCount then
    match state.milestones.get (escrowId, nextId) with
    | some next =>
        if next.status = .pending then
          state.setMilestone escrowId { next with status := .inProgress }
        else state
    | none => state
  else state

/-- Count an escrow whose milestones are all paid. -/
def Analytics.complete (analytics : Analytics) (totalAmount : Int) : Outcome Error Analytics := do
  let completedEscrows ← inUnsigned u32Max .trap (analytics.completedEscrows + 1)
  let totalPaidOut ← checkedAdd .trap analytics.totalPaidOut totalAmount
  return { analytics with
    activeEscrows := analytics.activeEscrows - 1
    completedEscrows
    totalValueLocked := saturateI128 (analytics.totalValueLocked - totalAmount)
    totalPaidOut }

/-- The ruling that a number passed to `resolve_dispute` stands for. -/
def rulingOf : Nat → Option Ruling
  | 0 => some .freelancerFavored
  | 1 => some .clientFavored
  | 2 => some .split
  | _ => none

/-- What the freelancer receives of the remaining amount after the fee. -/
def Ruling.payout (ruling : Ruling) (remaining fee : Int) : Outcome Error Int :=
  match ruling with
  | .freelancerFavored => checkedSub .trap remaining fee
  | .clientFavored => return 0
  | .split => do
      let rest ← checkedSub .trap remaining fee
      return rest.tdiv 2

variable [DecidableEq Address] (env : Env Address contract)

def initializeEscrow (admin : Address) (arbiterFeeBps : Nat) (state : State Address) :
    Outcome Error (State Address) := do
  ensure (state.initialized = false) .alreadyInitialized
  requireAuth env admin
  ensure (arbiterFeeBps ≤ 10000) .invalidFeeBps
  return { state with admin := some admin, arbiterFeeBps, initialized := true, analytics := {} }

/-- Agree on milestones whose amounts add up to the total. Returns the id of the new escrow. -/
def createEscrow (client freelancer arbiter : Address) (totalAmount : Int)
    (milestoneAmounts : List Int) (state : State Address) :
    Outcome Error (Nat × State Address) := do
  ensureInitialized state
  requireAuth env client
  ensure (¬ totalAmount ≤ 0) .invalidAmount
  ensure (milestoneAmounts ≠ []) .noMilestones
  ensure (milestoneAmounts.length ≤ 20) .tooManyMilestones
  let sum ← sumAmounts milestoneAmounts
  ensure (sum = totalAmount) .invalidAmount
  let (id, counted) ← state.incrementEscrowCount
  let escrow : Escrow Address :=
    { id, client, freelancer, arbiter, totalAmount, paidAmount := 0
      milestoneCount := milestoneAmounts.length, status := .pending, createdAt := env.timestamp
      arbiterFeeBps := state.arbiterFeeBps }
  let planned := setMilestones id (counted.setEscrow escrow) 1 milestoneAmounts
  let totalEscrows ← inUnsigned u32Max .trap (state.analytics.totalEscrows + 1)
  return (id, planned.setAnalytics { state.analytics with totalEscrows })

/-- Deposit the total, which activates the escrow and starts its first milestone. -/
def deposit (escrowId : Nat) (client : Address) (state : State Address) :
    Outcome Error (State Address) := do
  ensureInitialized state
  requireAuth env client
  let escrow ← state.getEscrow escrowId
  ensure (escrow.client = client) .unauthorized
  ensure (escrow.status = .pending) .invalidState
  let first ← state.getMilestone escrowId 1
  let started := state.setMilestone escrowId { first with status := .inProgress }
  let activeEscrows ← inUnsigned u32Max .trap (state.analytics.activeEscrows + 1)
  let totalValueLocked ←
    checkedAdd .trap state.analytics.totalValueLocked escrow.totalAmount
  return (started.setEscrow { escrow with status := .active }).setAnalytics
    { state.analytics with activeEscrows, totalValueLocked }

/-- A party moves a milestone of an active escrow from one status to another. -/
def moveMilestone (party : Escrow Address → Address) (before after : MilestoneStatus)
    (env : Env Address contract) (escrowId : Nat) (caller : Address) (milestoneId : Nat)
    (state : State Address) : Outcome Error (State Address) := do
  ensureInitialized state
  requireAuth env caller
  let escrow ← state.getEscrow escrowId
  ensure (party escrow = caller) .unauthorized
  ensure (escrow.status = .active) .invalidState
  let milestone ← state.getMilestone escrowId milestoneId
  ensure (milestone.status = before) .invalidState
  return state.setMilestone escrowId { milestone with status := after }

def submitMilestone (escrowId : Nat) (freelancer : Address) (milestoneId : Nat)
    (state : State Address) : Outcome Error (State Address) :=
  moveMilestone Escrow.freelancer .inProgress .underReview env escrowId freelancer milestoneId state

def approveMilestone (escrowId : Nat) (client : Address) (milestoneId : Nat) (state : State Address)
    :
    Outcome Error (State Address) :=
  moveMilestone Escrow.client .underReview .approved env escrowId client milestoneId state

/-- Send a submitted milestone back. -/
def rejectMilestone (escrowId : Nat) (client : Address) (milestoneId : Nat) (state : State Address)
    :
    Outcome Error (State Address) :=
  moveMilestone Escrow.client .underReview .inProgress env escrowId client milestoneId state

/-- Release the payment of an approved milestone. Returns what the freelancer receives. -/
def releasePayment (escrowId : Nat) (client : Address) (milestoneId : Nat) (state : State Address) :
    Outcome Error (Int × State Address) := do
  ensureInitialized state
  requireAuth env client
  let escrow ← state.getEscrow escrowId
  ensure (escrow.client = client) .unauthorized
  ensure (escrow.status = .active) .invalidState
  let milestone ← state.getMilestone escrowId milestoneId
  ensure (milestone.status = .approved) .invalidState
  let fee ← arbiterFee milestone.amount escrow.arbiterFeeBps
  let net ← checkedSub .trap milestone.amount fee
  let settled := state.setMilestone escrowId { milestone with status := .paid }
  let paidAmount ← checkedAdd .trap escrow.paidAmount milestone.amount
  let nextId ← inUnsigned u32Max .trap (milestoneId + 1)
  let started := startNext escrowId escrow.milestoneCount nextId settled
  if escrow.totalAmount ≤ paidAmount then
    let analytics ← state.analytics.complete escrow.totalAmount
    return (net, (started.setAnalytics analytics).setEscrow
      { escrow with paidAmount, status := .completed })
  else
    return (net, started.setEscrow { escrow with paidAmount })

/-- Either party of an active escrow calls the arbiter. -/
def raiseDispute (escrowId : Nat) (initiator : Address) (state : State Address) :
    Outcome Error (State Address) := do
  ensureInitialized state
  requireAuth env initiator
  let escrow ← state.getEscrow escrowId
  ensure (¬ (escrow.client ≠ initiator ∧ escrow.freelancer ≠ initiator)) .unauthorized
  ensure (escrow.status = .active) .invalidState
  let disputedEscrows ← inUnsigned u32Max .trap (state.analytics.disputedEscrows + 1)
  return (state.setEscrow { escrow with status := .disputed }).setAnalytics
    { state.analytics with disputedEscrows, activeEscrows := state.analytics.activeEscrows - 1 }

/-- The arbiter settles a dispute. Returns what the freelancer receives. -/
def resolveDispute (escrowId : Nat) (arbiter : Address) (ruling : Nat) (state : State Address) :
    Outcome Error (Int × State Address) := do
  ensureInitialized state
  requireAuth env arbiter
  let escrow ← state.getEscrow escrowId
  ensure (escrow.arbiter = arbiter) .unauthorized
  ensure (escrow.status = .disputed) .invalidState
  let rulingEnum ← orError (rulingOf ruling) .invalidRuling
  let remaining ← checkedSub .trap escrow.totalAmount escrow.paidAmount
  let fee ← arbiterFee remaining escrow.arbiterFeeBps
  let payout ← rulingEnum.payout remaining fee
  let completedEscrows ← inUnsigned u32Max .trap (state.analytics.completedEscrows + 1)
  let totalPaidOut ← checkedAdd .trap state.analytics.totalPaidOut remaining
  let settled := { escrow with paidAmount := escrow.totalAmount, status := .completed }
  return (payout, (state.setEscrow settled).setAnalytics
    { state.analytics with
      completedEscrows
      totalValueLocked := saturateI128 (state.analytics.totalValueLocked - remaining)
      totalPaidOut })

def cancelEscrow (escrowId : Nat) (client : Address) (state : State Address) :
    Outcome Error (State Address) := do
  ensureInitialized state
  requireAuth env client
  let escrow ← state.getEscrow escrowId
  ensure (escrow.client = client) .unauthorized
  ensure (escrow.status = .pending) .invalidState
  let cancelledEscrows ← inUnsigned u32Max .trap (state.analytics.cancelledEscrows + 1)
  return (state.setEscrow { escrow with status := .cancelled }).setAnalytics
    { state.analytics with cancelledEscrows }

/-- The calls that write the storage of milestone escrows. -/
inductive Operation (Address : Type) where
  | initializeEscrow (admin : Address) (arbiterFeeBps : Nat)
  | createEscrow (client freelancer arbiter : Address) (totalAmount : Int)
      (milestoneAmounts : List Int)
  | deposit (escrowId : Nat) (client : Address)
  | submitMilestone (escrowId : Nat) (freelancer : Address) (milestoneId : Nat)
  | approveMilestone (escrowId : Nat) (client : Address) (milestoneId : Nat)
  | rejectMilestone (escrowId : Nat) (client : Address) (milestoneId : Nat)
  | releasePayment (escrowId : Nat) (client : Address) (milestoneId : Nat)
  | raiseDispute (escrowId : Nat) (initiator : Address)
  | resolveDispute (escrowId : Nat) (arbiter : Address) (ruling : Nat)
  | cancelEscrow (escrowId : Nat) (client : Address)

def dispatch (state : State Address) (call : Env Address contract × Operation Address) :
    Outcome Error (State Address) :=
  match call.2 with
  | .initializeEscrow admin arbiterFeeBps => initializeEscrow call.1 admin arbiterFeeBps state
  | .createEscrow client freelancer arbiter totalAmount milestoneAmounts =>
      Prod.snd <$> createEscrow call.1 client freelancer arbiter totalAmount milestoneAmounts state
  | .deposit escrowId client => deposit call.1 escrowId client state
  | .submitMilestone escrowId freelancer milestoneId =>
      submitMilestone call.1 escrowId freelancer milestoneId state
  | .approveMilestone escrowId client milestoneId =>
      approveMilestone call.1 escrowId client milestoneId state
  | .rejectMilestone escrowId client milestoneId =>
      rejectMilestone call.1 escrowId client milestoneId state
  | .releasePayment escrowId client milestoneId =>
      Prod.snd <$> releasePayment call.1 escrowId client milestoneId state
  | .raiseDispute escrowId initiator => raiseDispute call.1 escrowId initiator state
  | .resolveDispute escrowId arbiter ruling =>
      Prod.snd <$> resolveDispute call.1 escrowId arbiter ruling state
  | .cancelEscrow escrowId client => cancelEscrow call.1 escrowId client state

def machine (contract : Address) :
    CallMachine (State Address) (Env Address contract × Operation Address) (Failure Error) where
  exec := dispatch

end SorobanPlayground.MilestoneEscrow
