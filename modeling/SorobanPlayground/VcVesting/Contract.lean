import SorobanPlayground.Host

/-! # Venture capital vesting

The admin creates pools with tranches and investors. Investors vote on a tranche with
the weight of their allocation; a tranche that is approved is released to the pool's
admin, and its investors claim their shares of it.
-/

namespace SorobanPlayground.VcVesting

inductive Error where
  | notInitialized
  | alreadyInitialized
  | unauthorized
  | invalidParameters
  | poolNotFound
  | invalidTranche
  | trancheNotFound
  | milestoneAlreadyVoted
  | votingPeriodEnded
  | insufficientVotes
  | trancheAlreadyReleased
  | votingNotOpen
  | trancheNotReleased
  | invalidVotingPeriod
  | investorNotFound
  | alreadyVoted
  deriving DecidableEq, Repr

structure Tranche where
  id : Nat
  totalAmount : Int
  releasedAmount : Int
  milestoneDescription : String
  released : Bool
  votingEndTime : Nat
  requiredVotesBps : Nat
  approveVotes : Int
  rejectVotes : Int
  deriving DecidableEq, Repr

structure Vote (Address : Type) where
  voter : Address
  poolId : Nat
  trancheId : Nat
  approve : Bool
  weight : Int
  timestamp : Nat

structure VCPool (Address : Type) where
  id : Nat
  name : String
  token : Address
  admin : Address
  totalAllocation : Int
  trancheCount : Nat
  createdAt : Nat
  active : Bool

structure Investor (Address : Type) where
  address : Address
  allocation : Int

/-- The contract's storage, beside the tokens. -/
structure State (Address : Type) where
  admin : Option Address := none
  token : Option Address := none
  poolCount : Nat := 0
  pools : FiniteMap Nat (VCPool Address) := ∅
  tranches : FiniteMap (Nat × Nat) Tranche := ∅
  investors : FiniteMap (Nat × Address) (Investor Address) := ∅
  investorCount : FiniteMap Nat Nat := ∅
  voteRecords : FiniteMap (Nat × Nat × Address) (Vote Address) := ∅
  totalInvestorAllocation : FiniteMap Nat Int := ∅
  ledger : TokenLedger Address

variable {Address : Type} [DecidableEq Address] {contract : Address} (tokens : TokenHost Address)

def State.investorAllocation (state : State Address) (poolId : Nat) : Int :=
  (state.totalInvestorAllocation.get poolId).getD 0

variable (env : Env Address contract)

def initializeVesting (admin token : Address) (state : State Address) :
    Outcome Error (State Address) := do
  ensure (state.admin.isSome = false) .alreadyInitialized
  requireAuth env admin
  return { state with
    admin := some admin
    token := some token
    poolCount := 0 }

def createPool (name : String) (totalAllocation : Int) (trancheCount : Nat) (state : State Address)
    :
    Outcome Error (Nat × State Address) := do
  let admin ← orError state.admin .notInitialized
  requireAuth env admin
  ensure (¬ (totalAllocation ≤ 0 ∨ trancheCount = 0 ∨ 20 < trancheCount)) .invalidParameters
  let poolId ← inUnsigned u32Max .trap (state.poolCount + 1)
  let token ← orError state.token .notInitialized
  let pool : VCPool Address :=
    { id := poolId, name, token, admin, totalAllocation, trancheCount,
      createdAt := env.timestamp, active := true }
  return (poolId, { state with
    pools := state.pools.set poolId pool
    poolCount := poolId
    totalInvestorAllocation := state.totalInvestorAllocation.set poolId 0
    investorCount := state.investorCount.set poolId 0 })

def addTranche (poolId trancheId : Nat) (amount : Int) (milestoneDescription : String)
    (requiredVotesBps : Nat) (state : State Address) : Outcome Error (State Address) := do
  let admin ← orError state.admin .notInitialized
  requireAuth env admin
  let pool ← orError (state.pools.get poolId) .poolNotFound
  ensure (pool.active = true) .invalidParameters
  ensure (¬ (trancheId = 0 ∨ pool.trancheCount < trancheId)) .invalidTranche
  ensure (¬ (amount ≤ 0 ∨ requiredVotesBps = 0 ∨ 10000 < requiredVotesBps)) .invalidParameters
  let tranche : Tranche :=
    { id := trancheId, totalAmount := amount, releasedAmount := 0, milestoneDescription,
      released := false, votingEndTime := 0, requiredVotesBps, approveVotes := 0,
      rejectVotes := 0 }
  return { state with tranches := state.tranches.set (poolId, trancheId) tranche }

def addInvestor (poolId : Nat) (investor : Address) (allocation : Int) (state : State Address) :
    Outcome Error (State Address) := do
  let admin ← orError state.admin .notInitialized
  requireAuth env admin
  ensure (¬ allocation ≤ 0) .invalidParameters
  let _pool ← orError (state.pools.get poolId) .poolNotFound
  let count ← inUnsigned u32Max .trap ((state.investorCount.get poolId).getD 0 + 1)
  let total ← checkedAdd .trap (state.investorAllocation poolId) allocation
  return { state with
    investors := state.investors.set (poolId, investor) { address := investor, allocation }
    investorCount := state.investorCount.set poolId count
    totalInvestorAllocation := state.totalInvestorAllocation.set poolId total }

def openVoting (poolId trancheId votingDuration : Nat) (state : State Address) :
    Outcome Error (State Address) := do
  let admin ← orError state.admin .notInitialized
  requireAuth env admin
  ensure (¬ (votingDuration = 0 ∨ 86400 * 30 < votingDuration)) .invalidVotingPeriod
  let tranche ← orError (state.tranches.get (poolId, trancheId)) .trancheNotFound
  ensure (tranche.released = false) .trancheAlreadyReleased
  let votingEndTime ← inUnsigned u64Max .trap (env.timestamp + votingDuration)
  return { state with
    tranches := state.tranches.set (poolId, trancheId) { tranche with votingEndTime } }

def vote (poolId trancheId : Nat) (voter : Address) (approve : Bool) (state : State Address) :
    Outcome Error (State Address) := do
  requireAuth env voter
  ensure (state.voteRecords.has (poolId, trancheId, voter) = false) .alreadyVoted
  let inv ← orError (state.investors.get (poolId, voter)) .investorNotFound
  let tranche ← orError (state.tranches.get (poolId, trancheId)) .trancheNotFound
  ensure (tranche.released = false) .trancheAlreadyReleased
  ensure (¬ tranche.votingEndTime < env.timestamp) .votingPeriodEnded
  let votes ← checkedAdd .trap (if approve then tranche.approveVotes else tranche.rejectVotes)
    inv.allocation
  let counted : Tranche :=
    if approve then { tranche with approveVotes := votes }
    else { tranche with rejectVotes := votes }
  let record : Vote Address :=
    { voter, poolId, trancheId, approve, weight := inv.allocation, timestamp := env.timestamp }
  return { state with
    tranches := state.tranches.set (poolId, trancheId) counted
    voteRecords := state.voteRecords.set (poolId, trancheId, voter) record }

/-- Count the votes; an approved tranche is released to the pool's admin. -/
def finalizeVoting (poolId trancheId : Nat) (state : State Address) :
    Outcome Error (Bool × State Address) := do
  let tranche ← orError (state.tranches.get (poolId, trancheId)) .trancheNotFound
  ensure (tranche.released = false) .trancheAlreadyReleased
  ensure (¬ env.timestamp ≤ tranche.votingEndTime) .votingNotOpen
  let totalInvestorAllocation := state.investorAllocation poolId
  ensure (totalInvestorAllocation ≠ 0) .insufficientVotes
  let scaled ← checkedMul .trap tranche.approveVotes 10000
  let approvalRate ← checkedDiv .trap scaled totalInvestorAllocation
  if (tranche.requiredVotesBps : Int) ≤ approvalRate then do
    let released : Tranche := { tranche with
      released := true
      releasedAmount := tranche.totalAmount }
    let token ← orError state.token .notInitialized
    let pool ← orError (state.pools.get poolId) .poolNotFound
    let ledger ← tokens.pay state.ledger token contract pool.admin tranche.totalAmount
    return (true, { state with
      tranches := state.tranches.set (poolId, trancheId) released
      ledger })
  else return (false, state)

/-- Pay an investor its share of a released tranche; returns it. -/
def claimTokens (poolId trancheId : Nat) (investor : Address) (state : State Address) :
    Outcome Error (Int × State Address) := do
  requireAuth env investor
  let tranche ← orError (state.tranches.get (poolId, trancheId)) .trancheNotFound
  ensure (tranche.released = true) .trancheNotReleased
  let inv ← orError (state.investors.get (poolId, investor)) .investorNotFound
  let _pool ← orError (state.pools.get poolId) .poolNotFound
  let totalAllocation := state.investorAllocation poolId
  ensure (totalAllocation ≠ 0) .insufficientVotes
  let scaled ← checkedMul .trap tranche.totalAmount inv.allocation
  let claimAmount ← checkedDiv .trap scaled totalAllocation
  ensure (¬ claimAmount ≤ 0) .insufficientVotes
  let token ← orError state.token .notInitialized
  let ledger ← tokens.pay state.ledger token contract investor claimAmount
  return (claimAmount, { state with ledger })

/-- The calls of the contract that write its storage or pay, and transfers by others. -/
inductive Operation (Address : Type) where
  | initializeVesting (admin token : Address)
  | createPool (name : String) (totalAllocation : Int) (trancheCount : Nat)
  | addTranche (poolId trancheId : Nat) (amount : Int) (milestoneDescription : String)
      (requiredVotesBps : Nat)
  | addInvestor (poolId : Nat) (investor : Address) (allocation : Int)
  | openVoting (poolId trancheId votingDuration : Nat)
  | vote (poolId trancheId : Nat) (voter : Address) (approve : Bool)
  | finalizeVoting (poolId trancheId : Nat)
  | claimTokens (poolId trancheId : Nat) (investor : Address)
  | transferTokens (token source destination : Address) (amount : Int)

def dispatch (state : State Address) (call : Env Address contract × Operation Address) :
    Outcome Error (State Address) :=
  match call.2 with
  | .initializeVesting admin token => initializeVesting call.1 admin token state
  | .createPool name totalAllocation trancheCount =>
      Prod.snd <$> createPool call.1 name totalAllocation trancheCount state
  | .addTranche poolId trancheId amount milestoneDescription requiredVotesBps =>
      addTranche call.1 poolId trancheId amount milestoneDescription requiredVotesBps state
  | .addInvestor poolId investor allocation => addInvestor call.1 poolId investor allocation state
  | .openVoting poolId trancheId votingDuration =>
      openVoting call.1 poolId trancheId votingDuration state
  | .vote poolId trancheId voter approve => vote call.1 poolId trancheId voter approve state
  | .finalizeVoting poolId trancheId =>
      Prod.snd <$> finalizeVoting tokens call.1 poolId trancheId state
  | .claimTokens poolId trancheId investor =>
      Prod.snd <$> claimTokens tokens call.1 poolId trancheId investor state
  | .transferTokens token source destination amount => do
      let ledger ← tokens.payAs call.1 state.ledger token source destination amount
      return { state with ledger }

def machine (contract : Address) :
    CallMachine (State Address) (Env Address contract × Operation Address) (Failure Error) where
  exec := dispatch tokens

end SorobanPlayground.VcVesting
