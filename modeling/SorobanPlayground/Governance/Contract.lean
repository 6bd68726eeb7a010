import Mathlib.Data.BitVec
import SorobanPlayground.Host
import SorobanPlayground.Library.Delegation

/-! # The governance contract

Token holders vote on proposals with their balances. An account can name a
delegate, and a vote is cast through the end of the voter's delegation chain. A
proposal passes when its votes reach a quorum of the supply and more are for it
than against it, and is executed after a delay.
-/

namespace SorobanPlayground.Governance

inductive ProposalStatus where
  | draft
  | active
  | passed
  | defeated
  | executed
  | cancelled
  deriving DecidableEq, Repr

inductive VoteChoice where
  | for
  | against
  | abstain
  deriving DecidableEq, Repr

inductive Error where
  | alreadyInitialized
  | notInitialized
  | unauthorized
  | proposalNotFound
  | votingNotActive
  | alreadyVoted
  | insufficientVotingPower
  | quorumNotReached
  | proposalNotPassed
  | timelockActive
  | proposalAlreadyExecuted
  | emptyTitle
  | insufficientDeposit
  | selfDelegation
  | proposalNotActive
  | upgradeNotScheduled
  | upgradeTimelockActive
  | upgradeHashMismatch
  | upgradeDelayTooShort
  deriving DecidableEq, Repr

structure Proposal (Address : Type) where
  id : Nat
  proposer : Address
  title : String
  description : String
  status : ProposalStatus
  votesFor : Int
  votesAgainst : Int
  votesAbstain : Int
  totalSupplySnapshot : Int
  voteStart : Nat
  voteEnd : Nat
  executeAfter : Nat
  deposit : Int
  deriving DecidableEq, Repr

structure UpgradePending where
  wasmHash : BitVec 256
  executeAfter : Nat
  deriving DecidableEq, Repr

structure State (Address : Type) where
  admin : Option Address := none
  proposalCount : Nat := 0
  totalSupply : Int := 0
  quorumBps : Int := 400
  votingPeriod : Nat := 604800
  execDelay : Nat := 172800
  requiredDeposit : Int := 0
  pendingUpgrade : Option UpgradePending := none
  proposals : FiniteMap Nat (Proposal Address) := ∅
  balances : FiniteMap Address Int := ∅
  delegates : FiniteMap Address Address := ∅
  voted : FiniteMap (Nat × Address) Bool := ∅

variable {Address : Type} {contract : Address} (state : State Address)

def State.getProposal (id : Nat) : Outcome Error (Proposal Address) :=
  orError (state.proposals.get id) .proposalNotFound

def State.setProposal (proposal : Proposal Address) : State Address :=
  { state with proposals := state.proposals.set proposal.id proposal }

def State.setProposalCount (proposalCount : Nat) : State Address :=
  { state with proposalCount }

def State.setTotalSupply (totalSupply : Int) : State Address :=
  { state with totalSupply }

variable [DecidableEq Address] (state : State Address)

def State.getBalance (address : Address) : Int :=
  (state.balances.get address).getD 0

def State.setBalance (address : Address) (balance : Int) : State Address :=
  { state with balances := state.balances.set address balance }

/-- The effective delegate of an account, over at most eight hops. -/
def State.resolveDelegate (address : Address) : Address :=
  Delegation.resolve state.delegates.get 8 address

def State.setDelegate (source target : Address) : State Address :=
  { state with delegates := state.delegates.set source target }

def State.removeDelegate (source : Address) : State Address :=
  { state with delegates := state.delegates.remove source }

def State.hasVoted (proposalId : Nat) (voter : Address) : Bool :=
  state.voted.has (proposalId, voter)

def State.recordVote (proposalId : Nat) (voter : Address) : State Address :=
  { state with voted := state.voted.set (proposalId, voter) true }

def ensureInitialized (state : State Address) : Outcome Error Unit :=
  ensure (state.admin.isSome = true) .notInitialized

variable (env : Env Address contract)

/-- The checks that open every admin call. -/
def requireAdmin (caller : Address) (state : State Address) : Outcome Error Unit := do
  ensureInitialized state
  requireAuth env caller
  let admin ← orError state.admin .notInitialized
  ensure (admin = caller) .unauthorized

/-- The effective voting power of an account is its own balance. -/
def votingPower (state : State Address) (address : Address) : Int := state.getBalance address

def initializeGovernance (admin : Address) (quorumBps : Option Int)
    (votingPeriod execDelay : Option Nat) (requiredDeposit : Option Int) (state : State Address) :
    Outcome Error (State Address) := do
  ensure (state.admin.isSome = false) .alreadyInitialized
  requireAuth env admin
  return { state with
    admin := some admin
    quorumBps := quorumBps.getD state.quorumBps
    votingPeriod := votingPeriod.getD state.votingPeriod
    execDelay := execDelay.getD state.execDelay
    requiredDeposit := requiredDeposit.getD state.requiredDeposit }

def mint (admin recipient : Address) (amount : Int) (state : State Address) :
    Outcome Error (State Address) := do
  requireAdmin env admin state
  let balance ← checkedAdd .trap (state.getBalance recipient) amount
  let totalSupply ← checkedAdd .trap state.totalSupply amount
  return (state.setBalance recipient balance).setTotalSupply totalSupply

/-- Returns the id of the new proposal. -/
def propose (proposer : Address) (title description : String) (deposit : Int)
    (state : State Address) : Outcome Error (Nat × State Address) := do
  ensureInitialized state
  requireAuth env proposer
  ensure (title ≠ "") .emptyTitle
  ensure (state.requiredDeposit ≤ deposit) .insufficientDeposit
  ensure (votingPower state proposer ≠ 0) .insufficientVotingPower
  let id := state.proposalCount
  let voteEnd ← inUnsigned u64Max .trap (env.timestamp + state.votingPeriod)
  let executeAfter ← inUnsigned u64Max .trap (voteEnd + state.execDelay)
  let proposal : Proposal Address :=
    { id, proposer, title, description, status := .active, votesFor := 0, votesAgainst := 0,
      votesAbstain := 0, totalSupplySnapshot := state.totalSupply, voteStart := env.timestamp,
      voteEnd, executeAfter, deposit }
  let nextId ← inUnsigned u32Max .trap (id + 1)
  return (id, (state.setProposal proposal).setProposalCount nextId)

/-- The proposal with voting power added to one of its tallies. -/
def Proposal.tally (proposal : Proposal Address) (choice : VoteChoice) (power : Int) :
    Outcome Error (Proposal Address) :=
  match choice with
  | .for => do
      let votesFor ← checkedAdd .trap proposal.votesFor power
      return { proposal with votesFor }
  | .against => do
      let votesAgainst ← checkedAdd .trap proposal.votesAgainst power
      return { proposal with votesAgainst }
  | .abstain => do
      let votesAbstain ← checkedAdd .trap proposal.votesAbstain power
      return { proposal with votesAbstain }

/-- The power, the mark and the choice are all those of the effective voter. -/
def vote (voter : Address) (proposalId : Nat) (choice : VoteChoice) (state : State Address) :
    Outcome Error (State Address) := do
  ensureInitialized state
  requireAuth env voter
  let proposal ← state.getProposal proposalId
  ensure (proposal.status = .active) .votingNotActive
  ensure (¬ (env.timestamp < proposal.voteStart ∨ proposal.voteEnd < env.timestamp))
    .votingNotActive
  let effectiveVoter := state.resolveDelegate voter
  ensure (state.hasVoted proposalId effectiveVoter = false) .alreadyVoted
  let power := state.getBalance effectiveVoter
  ensure (power ≠ 0) .insufficientVotingPower
  let tallied ← proposal.tally choice power
  return (state.recordVote proposalId effectiveVoter).setProposal tallied

/-- Anyone may finalise a proposal whose voting period is over. -/
def finalise (proposalId : Nat) (state : State Address) :
    Outcome Error (ProposalStatus × State Address) := do
  ensureInitialized state
  let proposal ← state.getProposal proposalId
  ensure (proposal.status = .active) .proposalNotActive
  ensure (proposal.voteEnd < env.timestamp) .votingNotActive
  let sided ← checkedAdd .trap proposal.votesFor proposal.votesAgainst
  let totalVotes ← checkedAdd .trap sided proposal.votesAbstain
  let quorumNeeded := (saturateI128 (proposal.totalSupplySnapshot * state.quorumBps)).tdiv 10000
  let status : ProposalStatus :=
    if quorumNeeded ≤ totalVotes ∧ proposal.votesAgainst < proposal.votesFor then .passed
    else .defeated
  return (status, state.setProposal { proposal with status })

def execute (caller : Address) (proposalId : Nat) (state : State Address) :
    Outcome Error (State Address) := do
  ensureInitialized state
  requireAuth env caller
  let proposal ← state.getProposal proposalId
  ensure (proposal.status = .passed) .proposalNotPassed
  ensure (proposal.executeAfter ≤ env.timestamp) .timelockActive
  return state.setProposal { proposal with status := .executed }

def cancel (caller : Address) (proposalId : Nat) (state : State Address) :
    Outcome Error (State Address) := do
  ensureInitialized state
  requireAuth env caller
  let proposal ← state.getProposal proposalId
  let admin ← orError state.admin .notInitialized
  ensure (¬ (caller ≠ proposal.proposer ∧ caller ≠ admin)) .unauthorized
  ensure (proposal.status = .active) .proposalNotActive
  return state.setProposal { proposal with status := .cancelled }

def minUpgradeDelay : Nat := 172800

/-- Returns when the upgrade may be executed. -/
def scheduleUpgrade (admin : Address) (newWasmHash : BitVec 256) (delay : Nat)
    (state : State Address) : Outcome Error (Nat × State Address) := do
  requireAdmin env admin state
  ensure (minUpgradeDelay ≤ delay) .upgradeDelayTooShort
  let executeAfter ← inUnsigned u64Max .trap (env.timestamp + delay)
  return (executeAfter,
    { state with pendingUpgrade := some { wasmHash := newWasmHash, executeAfter } })

def cancelUpgrade (admin : Address) (state : State Address) : Outcome Error (State Address) := do
  requireAdmin env admin state
  ensure (state.pendingUpgrade.isSome = true) .upgradeNotScheduled
  return { state with pendingUpgrade := none }

/-- Name a delegate, or none to revoke. -/
def delegate (source : Address) (target : Option Address) (state : State Address) :
    Outcome Error (State Address) := do
  ensureInitialized state
  requireAuth env source
  match target with
  | some target => do
      ensure (target ≠ source) .selfDelegation
      return state.setDelegate source target
  | none => return state.removeDelegate source

/-- The calls of the contract that write its storage. An executed upgrade
replaces the contract's code and ends a run of this code. -/
inductive Operation (Address : Type) where
  | initializeGovernance (admin : Address) (quorumBps : Option Int)
      (votingPeriod execDelay : Option Nat) (requiredDeposit : Option Int)
  | mint (admin recipient : Address) (amount : Int)
  | propose (proposer : Address) (title description : String) (deposit : Int)
  | vote (voter : Address) (proposalId : Nat) (choice : VoteChoice)
  | finalise (proposalId : Nat)
  | execute (caller : Address) (proposalId : Nat)
  | cancel (caller : Address) (proposalId : Nat)
  | scheduleUpgrade (admin : Address) (newWasmHash : BitVec 256) (delay : Nat)
  | cancelUpgrade (admin : Address)
  | delegate (source : Address) (target : Option Address)

def dispatch (state : State Address) (call : Env Address contract × Operation Address) :
    Outcome Error (State Address) :=
  match call.2 with
  | .initializeGovernance admin quorumBps votingPeriod execDelay requiredDeposit =>
      initializeGovernance call.1 admin quorumBps votingPeriod execDelay requiredDeposit state
  | .mint admin recipient amount => mint call.1 admin recipient amount state
  | .propose proposer title description deposit =>
      Prod.snd <$> propose call.1 proposer title description deposit state
  | .vote voter proposalId choice => vote call.1 voter proposalId choice state
  | .finalise proposalId => Prod.snd <$> finalise call.1 proposalId state
  | .execute caller proposalId => execute call.1 caller proposalId state
  | .cancel caller proposalId => cancel call.1 caller proposalId state
  | .scheduleUpgrade admin newWasmHash delay =>
      Prod.snd <$> scheduleUpgrade call.1 admin newWasmHash delay state
  | .cancelUpgrade admin => cancelUpgrade call.1 admin state
  | .delegate source target => delegate call.1 source target state

def machine (contract : Address) :
    CallMachine (State Address) (Env Address contract × Operation Address) (Failure Error) where
  exec := dispatch

end SorobanPlayground.Governance
