import SorobanPlayground.Host

/-! # Staking

Users stake tokens for shares of a pool. Shares are given back for a request, which is paid when
the unstake period is over.
-/

namespace SorobanPlayground.Staking

inductive Error where
  | alreadyInitialized
  | notInitialized
  | unauthorized
  | zeroAmount
  | insufficientBalance
  | invalidWithdrawalPeriod
  | nothingToUnstake
  | requestNotFound
  | alreadyClaimed
  | mathOverflow
  deriving DecidableEq, Repr

structure StakeInfo where
  amount : Int := 0
  shares : Int := 0
  deriving DecidableEq, Repr

structure UnstakeRequest where
  amount : Int
  unlockTimestamp : Nat
  claimed : Bool
  deriving DecidableEq, Repr

/-- What is set with the flag `Initialized`. -/
structure Config (Address : Type) where
  admin : Address
  token : Address
  unstakePeriod : Nat

structure State (Address : Type) [DecidableEq Address] where
  config : Option (Config Address) := none
  totalStaked : Int := 0
  totalShares : Int := 0
  stakes : FiniteMap Address StakeInfo := ∅
  unstakeCounts : FiniteMap Address Nat := ∅
  requests : FiniteMap (Address × Nat) UnstakeRequest := ∅
  ledger : TokenLedger Address

variable {Address : Type} [DecidableEq Address] {contract : Address}

/-- The stake of a user, or an empty one. -/
def State.stakeOf (state : State Address) (user : Address) : StakeInfo :=
  (state.stakes.get user).getD {}

def State.unstakeCount (state : State Address) (user : Address) : Nat :=
  (state.unstakeCounts.get user).getD 0

def ensureInitialized (state : State Address) : Outcome Error (Config Address) :=
  orError state.config .notInitialized

variable (tokens : TokenHost Address) (env : Env Address contract)

def initializeStaking (admin token : Address) (unstakePeriod : Nat) (state : State Address) :
    Outcome Error (State Address) := do
  ensure (¬ state.config.isSome = true) .alreadyInitialized
  ensure (¬ unstakePeriod = 0) .invalidWithdrawalPeriod
  requireAuth env admin
  return { state with config := some { admin, token, unstakePeriod } }

/-- The shares that an amount buys. -/
def sharesFor (amount : Int) (state : State Address) : Outcome Error Int :=
  if state.totalShares = 0 then pure amount
  else do
    ensure (¬ state.totalStaked ≤ 0) .mathOverflow
    let scaled ← checkedMul (.error .mathOverflow) amount state.totalShares
    checkedDiv .trap scaled state.totalStaked

/-- Stake an amount; returns the shares. -/
def stake (user : Address) (amount : Int) (state : State Address) :
    Outcome Error (Int × State Address) := do
  let config ← ensureInitialized state
  requireAuth env user
  ensure (¬ amount ≤ 0) .zeroAmount
  let shares ← sharesFor amount state
  ensure (¬ shares ≤ 0) .zeroAmount
  let ledger ← tokens.pay state.ledger config.token user contract amount
  let userAmount ← checkedAdd (.error .mathOverflow) (state.stakeOf user).amount amount
  let userShares ← checkedAdd (.error .mathOverflow) (state.stakeOf user).shares shares
  let totalStaked ← checkedAdd (.error .mathOverflow) state.totalStaked amount
  let totalShares ← checkedAdd (.error .mathOverflow) state.totalShares shares
  return (shares, { state with
    stakes := state.stakes.set user { amount := userAmount, shares := userShares }
    totalStaked
    totalShares
    ledger })

/-- Give shares back; returns the number of the request. -/
def requestUnstake (user : Address) (shares : Int) (state : State Address) :
    Outcome Error (Nat × State Address) := do
  let config ← ensureInitialized state
  requireAuth env user
  ensure (¬ shares ≤ 0) .zeroAmount
  let userStake ← orError (state.stakes.get user) .nothingToUnstake
  ensure (¬ userStake.shares < shares) .insufficientBalance
  ensure (¬ state.totalShares ≤ 0) .nothingToUnstake
  let scaled ← checkedMul (.error .mathOverflow) shares state.totalStaked
  let amount ← checkedDiv .trap scaled state.totalShares
  ensure (¬ amount ≤ 0) .zeroAmount
  let userShares ← checkedSub .trap userStake.shares shares
  let unlockTimestamp ←
    inUnsigned u64Max (.error .mathOverflow) (env.timestamp + config.unstakePeriod)
  let unstakeCount ← inUnsigned u32Max (.error .mathOverflow) (state.unstakeCount user + 1)
  return (state.unstakeCount user, { state with
    stakes := state.stakes.set user {
      amount := saturateI128 (userStake.amount - amount)
      shares := userShares }
    totalStaked := saturateI128 (state.totalStaked - amount)
    totalShares := saturateI128 (state.totalShares - shares)
    requests := state.requests.set (user, state.unstakeCount user)
      { amount, unlockTimestamp, claimed := false }
    unstakeCounts := state.unstakeCounts.set user unstakeCount })

/-- Claim a request; returns its amount. -/
def claimUnstake (user : Address) (requestIdx : Nat) (state : State Address) :
    Outcome Error (Int × State Address) := do
  let config ← ensureInitialized state
  requireAuth env user
  let request ← orError (state.requests.get (user, requestIdx)) .requestNotFound
  ensure (¬ request.claimed = true) .alreadyClaimed
  ensure (¬ env.timestamp < request.unlockTimestamp) .invalidWithdrawalPeriod
  let ledger ← tokens.pay state.ledger config.token contract user request.amount
  return (request.amount, { state with
    requests := state.requests.set (user, requestIdx) { request with claimed := true }
    ledger })

inductive Operation (Address : Type) where
  | initializeStaking (admin token : Address) (unstakePeriod : Nat)
  | stake (user : Address) (amount : Int)
  | requestUnstake (user : Address) (shares : Int)
  | claimUnstake (user : Address) (requestIdx : Nat)
  | transferTokens (token source destination : Address) (amount : Int)

/-- The state a call leaves; the host passes amounts of type `i128` only. -/
def dispatch (tokens : TokenHost Address) (state : State Address)
    (call : Env Address contract × Operation Address) : Outcome Error (State Address) :=
  match call.2 with
  | .initializeStaking admin token unstakePeriod =>
      initializeStaking call.1 admin token unstakePeriod state
  | .stake user amount => do
      let amount ← inI128 .trap amount
      Prod.snd <$> stake tokens call.1 user amount state
  | .requestUnstake user shares => do
      let shares ← inI128 .trap shares
      Prod.snd <$> requestUnstake call.1 user shares state
  | .claimUnstake user requestIdx => Prod.snd <$> claimUnstake tokens call.1 user requestIdx state
  | .transferTokens token source destination amount => do
      let ledger ← tokens.payAs call.1 state.ledger token source destination amount
      return { state with ledger }

def machine (tokens : TokenHost Address) (contract : Address) :
    CallMachine (State Address) (Env Address contract × Operation Address) (Failure Error) where
  exec := dispatch tokens

end SorobanPlayground.Staking
