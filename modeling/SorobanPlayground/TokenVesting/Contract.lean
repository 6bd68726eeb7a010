import SorobanPlayground.Host

/-! # Token vesting

A creator deposits tokens for a beneficiary. They vest over time, or when the admin approves
milestones; the admin may revoke a schedule and gets what has not vested.
-/

namespace SorobanPlayground.TokenVesting

inductive Error where
  | alreadyInitialized
  | notInitialized
  | scheduleNotFound
  | cliffNotReached
  | nothingToRelease
  | invalidSchedule
  | milestoneNotFound
  | milestoneAlreadyApproved
  | alreadyRevoked
  | scheduleRevoked
  | zeroAmount
  deriving DecidableEq, Repr

inductive VestingType where
  | linear
  | milestone
  deriving DecidableEq, Repr

structure Milestone where
  descriptionHash : Nat
  pctBps : Nat
  approved : Bool
  deriving DecidableEq, Repr

structure VestingSchedule (Address : Type) where
  id : Nat
  beneficiary : Address
  token : Address
  totalAmount : Int
  releasedAmount : Int
  cliffTimestamp : Nat
  startTimestamp : Nat
  endTimestamp : Nat
  vestingType : VestingType
  milestones : List Milestone
  revoked : Bool
  createdAt : Nat
  deriving DecidableEq, Repr

structure State (Address : Type) where
  admin : Option Address := none
  count : Nat := 0
  schedules : FiniteMap Nat (VestingSchedule Address) := ∅
  ledger : TokenLedger Address

variable {Address : Type} [DecidableEq Address] {contract : Address}

def ensureInitialized (state : State Address) : Outcome Error Unit :=
  ensure (state.admin.isSome = true) .notInitialized

def getAdmin (state : State Address) : Outcome Error Address := orError state.admin .notInitialized

def loadSchedule (state : State Address) (id : Nat) : Outcome Error (VestingSchedule Address) :=
  orError (state.schedules.get id) .scheduleNotFound

variable (schedule : VestingSchedule Address)

/-- The linearly vested amount; before the cliff the unsigned difference underflows. -/
def computeLinearVested (now : Nat) : Outcome Error Int :=
  if schedule.endTimestamp ≤ now then pure schedule.totalAmount
  else do
    let elapsed ← checkedSubUnsigned .trap now schedule.cliffTimestamp
    let duration ← checkedSubUnsigned .trap schedule.endTimestamp schedule.cliffTimestamp
    let scaled ← checkedMul .trap schedule.totalAmount elapsed
    checkedDiv .trap scaled duration

/-- The basis points of approved milestones. -/
def approvedBps (milestones : List Milestone) : Nat :=
  ((milestones.filter fun milestone => milestone.approved).map Milestone.pctBps).sum

/-- The approved milestone allocation. -/
def computeMilestoneVested : Outcome Error Int := do
  let bps ← inUnsigned u32Max .trap (approvedBps schedule.milestones)
  let scaled ← checkedMul .trap schedule.totalAmount bps
  return scaled.tdiv 10000

/-- The vested amount of a schedule of either type. -/
def computeVested (now : Nat) : Outcome Error Int :=
  match schedule.vestingType with
  | .linear => computeLinearVested schedule now
  | .milestone => computeMilestoneVested schedule

def computeReleasable (now : Nat) : Outcome Error Int := do
  let vested ← computeVested schedule now
  return saturateI128 (vested - schedule.releasedAmount)

variable (tokens : TokenHost Address) (env : Env Address contract)

def initializeVesting (admin : Address) (state : State Address) :
    Outcome Error (State Address) := do
  ensure (¬ state.admin.isSome = true) .alreadyInitialized
  requireAuth env admin
  return { state with admin := some admin }

def createLinearSchedule (creator beneficiary token : Address) (totalAmount : Int)
    (cliffTimestamp startTimestamp endTimestamp : Nat) (state : State Address) :
    Outcome Error (Nat × State Address) := do
  ensureInitialized state
  requireAuth env creator
  ensure (¬ totalAmount ≤ 0) .zeroAmount
  ensure (¬ (cliffTimestamp < startTimestamp ∨ endTimestamp ≤ cliffTimestamp)) .invalidSchedule
  let ledger ← tokens.pay state.ledger token creator contract totalAmount
  let id ← inUnsigned u32Max .trap (state.count + 1)
  return (id, { state with
    count := id
    schedules := state.schedules.set id {
      id, beneficiary, token, totalAmount, cliffTimestamp, startTimestamp, endTimestamp
      releasedAmount := 0
      vestingType := .linear
      milestones := []
      revoked := false
      createdAt := env.timestamp }
    ledger })

def newMilestones (hashes bps : List Nat) : List Milestone :=
  (hashes.zip bps).map fun milestone => ⟨milestone.1, milestone.2, false⟩

def createMilestoneSchedule (creator beneficiary token : Address) (totalAmount : Int)
    (cliffTimestamp : Nat) (milestoneHashes milestoneBps : List Nat) (state : State Address) :
    Outcome Error (Nat × State Address) := do
  ensureInitialized state
  requireAuth env creator
  ensure (¬ totalAmount ≤ 0) .zeroAmount
  ensure (¬ (milestoneHashes.length ≠ milestoneBps.length ∨ milestoneHashes = [])) .invalidSchedule
  let totalBps ← inUnsigned u32Max .trap milestoneBps.sum
  ensure (¬ totalBps ≠ 10000) .invalidSchedule
  let ledger ← tokens.pay state.ledger token creator contract totalAmount
  let id ← inUnsigned u32Max .trap (state.count + 1)
  return (id, { state with
    count := id
    schedules := state.schedules.set id {
      id, beneficiary, token, totalAmount, cliffTimestamp
      releasedAmount := 0
      startTimestamp := cliffTimestamp
      endTimestamp := cliffTimestamp
      vestingType := .milestone
      milestones := newMilestones milestoneHashes milestoneBps
      revoked := false
      createdAt := env.timestamp }
    ledger })

def approveMilestone (scheduleId milestoneIndex : Nat) (state : State Address) :
    Outcome Error (State Address) := do
  ensureInitialized state
  let admin ← getAdmin state
  requireAuth env admin
  let schedule ← loadSchedule state scheduleId
  ensure (¬ schedule.revoked = true) .scheduleRevoked
  ensure (schedule.vestingType = .milestone) .invalidSchedule
  ensure (milestoneIndex < schedule.milestones.length) .milestoneNotFound
  let milestone ← orTrap schedule.milestones[milestoneIndex]?
  ensure (¬ milestone.approved = true) .milestoneAlreadyApproved
  return { state with
    schedules := state.schedules.set schedule.id { schedule with
      milestones := schedule.milestones.set milestoneIndex { milestone with approved := true } } }

def release (scheduleId : Nat) (state : State Address) : Outcome Error (Int × State Address) := do
  ensureInitialized state
  let schedule ← loadSchedule state scheduleId
  ensure (¬ schedule.revoked = true) .scheduleRevoked
  ensure (¬ env.timestamp < schedule.cliffTimestamp) .cliffNotReached
  let releasable ← computeReleasable schedule env.timestamp
  ensure (¬ releasable = 0) .nothingToRelease
  let releasedAmount ← checkedAdd .trap schedule.releasedAmount releasable
  let ledger ← tokens.pay state.ledger schedule.token contract schedule.beneficiary releasable
  return (releasable, { state with
    schedules := state.schedules.set schedule.id { schedule with releasedAmount }
    ledger })

variable (contract) in
/-- A transfer out of the contract, unless there is nothing to transfer. -/
def payIfPositive (ledger : TokenLedger Address) (token destination : Address) (amount : Int) :
    Outcome Error (TokenLedger Address) :=
  if 0 < amount then tokens.pay ledger token contract destination amount else pure ledger

/-- Revoke a schedule; returns what the admin gets. -/
def revoke (scheduleId : Nat) (state : State Address) : Outcome Error (Int × State Address) := do
  ensureInitialized state
  let admin ← getAdmin state
  requireAuth env admin
  let schedule ← loadSchedule state scheduleId
  ensure (¬ schedule.revoked = true) .alreadyRevoked
  let vested ← computeVested schedule env.timestamp
  let toBeneficiary := saturateI128 (vested - schedule.releasedAmount)
  let toAdmin := saturateI128 (schedule.totalAmount - vested)
  let ledger ← payIfPositive contract tokens state.ledger schedule.token schedule.beneficiary
    toBeneficiary
  let ledger ← payIfPositive contract tokens ledger schedule.token admin toAdmin
  return (toAdmin, { state with
    schedules := state.schedules.set schedule.id { schedule with
      releasedAmount := vested
      revoked := true }
    ledger })

inductive Operation (Address : Type) where
  | initializeVesting (admin : Address)
  | createLinearSchedule (creator beneficiary token : Address) (totalAmount : Int)
      (cliffTimestamp startTimestamp endTimestamp : Nat)
  | createMilestoneSchedule (creator beneficiary token : Address) (totalAmount : Int)
      (cliffTimestamp : Nat) (milestoneHashes milestoneBps : List Nat)
  | approveMilestone (scheduleId milestoneIndex : Nat)
  | release (scheduleId : Nat)
  | revoke (scheduleId : Nat)
  | transferTokens (token source destination : Address) (amount : Int)

/-- The state a call leaves; the host passes amounts of type `i128` only. -/
def dispatch (tokens : TokenHost Address) (state : State Address)
    (call : Env Address contract × Operation Address) : Outcome Error (State Address) :=
  match call.2 with
  | .initializeVesting admin => initializeVesting call.1 admin state
  | .createLinearSchedule creator beneficiary token totalAmount cliff start finish => do
      let amount ← inI128 .trap totalAmount
      Prod.snd <$> createLinearSchedule tokens call.1 creator beneficiary token amount cliff start
        finish state
  | .createMilestoneSchedule creator beneficiary token totalAmount cliff hashes bps => do
      let amount ← inI128 .trap totalAmount
      Prod.snd <$> createMilestoneSchedule tokens call.1 creator beneficiary token amount cliff
        hashes bps state
  | .approveMilestone scheduleId milestoneIndex =>
      approveMilestone call.1 scheduleId milestoneIndex state
  | .release scheduleId => Prod.snd <$> release tokens call.1 scheduleId state
  | .revoke scheduleId => Prod.snd <$> revoke tokens call.1 scheduleId state
  | .transferTokens token source destination amount => do
      let ledger ← tokens.payAs call.1 state.ledger token source destination amount
      return { state with ledger }

def machine (tokens : TokenHost Address) (contract : Address) :
    CallMachine (State Address) (Env Address contract × Operation Address) (Failure Error) where
  exec := dispatch tokens

end SorobanPlayground.TokenVesting
