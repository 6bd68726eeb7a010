import SorobanPlayground.Host

/-! # Liquid staking derivatives

Stakers receive derivative tokens at an exchange rate and redeem them at a later
one, into a queue of unbonding entries. The rate rises with time, and is set anew
from the pool whenever a validator's rewards are reported.
-/

namespace SorobanPlayground.StakingDerivatives

/-- One derivative token is worth one underlying token at genesis. -/
def ratePrecision : Int := 1000000

/-- 365.25 days. -/
def secondsPerYear : Int := 31557600

inductive Error where
  | alreadyInitialized
  | notInitialized
  | unauthorized
  | zeroAmount
  | insufficientBalance
  | paused
  | overflow
  | unbondNotReady
  | invalidEntry
  | alreadyClaimed
  | invalidRate
  | invalidPeriod
  deriving DecidableEq, Repr

structure UnbondEntry where
  amount : Int
  releaseTs : Nat
  claimed : Bool
  deriving DecidableEq, Repr

/-- The contract's storage, with the values that absent keys stand for. -/
structure State (Address : Type) where
  admin : Option Address := none
  totalStaked : Int := 0
  totalLst : Int := 0
  exchangeRate : Int := 1000000
  lastAccrualTs : Nat := 0
  rewardRateBps : Int := 500
  unbondingPeriod : Nat := 604800
  paused : Bool := false
  totalRewards : Int := 0
  totalUnbonding : Int := 0
  lstBalance : FiniteMap Address Int := ∅
  unbondCount : FiniteMap Address Nat := ∅
  unbondEntry : FiniteMap (Address × Nat) UnbondEntry := ∅
  validatorStake : FiniteMap Address Int := ∅

variable {Address : Type} [DecidableEq Address] {contract : Address} (state : State Address)

def State.getLstBalance (staker : Address) : Int := (state.lstBalance.get staker).getD 0

def State.getUnbondCount (staker : Address) : Nat := (state.unbondCount.get staker).getD 0

def State.getValidatorStake (validator : Address) : Int :=
  (state.validatorStake.get validator).getD 0

def ensureInitialized : Outcome Error Unit := ensure (state.admin.isSome = true) .notInitialized

def ensureActive : Outcome Error Unit := do
  ensureInitialized state
  ensure (state.paused = false) .paused

def requireAdmin (caller : Address) : Outcome Error Unit := do
  let admin ← orError state.admin .notInitialized
  ensure (admin = caller) .unauthorized

/-- Raise the exchange rate by the time since the last accrual. -/
def accrueRewards (env : Env Address contract) : Outcome Error (State Address) :=
  let now := env.timestamp
  if now ≤ state.lastAccrualTs then .ok state
  else do
    let elapsed : Int := (now - state.lastAccrualTs : Nat)
    let yearly ← checkedMul (.error .overflow) state.exchangeRate state.rewardRateBps
    let scaled ← checkedMul (.error .overflow) yearly elapsed
    let deltaRate := scaled.tdiv (10000 * secondsPerYear)
    let exchangeRate ← checkedAdd .trap state.exchangeRate deltaRate
    return { state with
      exchangeRate
      lastAccrualTs := now }

def recomputeRateFromPool : Outcome Error (State Address) :=
  if state.totalLst = 0 then .ok state
  else do
    let scaled ← checkedMul (.error .overflow) state.totalStaked ratePrecision
    let newRate ← checkedDiv .trap scaled state.totalLst
    return { state with exchangeRate := max newRate ratePrecision }

variable (env : Env Address contract)

def initializeStaking (admin : Address) (rewardRateBps : Int) (unbondingPeriod : Nat)
    (state : State Address) : Outcome Error (State Address) := do
  ensure (state.admin.isSome = false) .alreadyInitialized
  requireAuth env admin
  ensure (¬ (rewardRateBps ≤ 0 ∨ 10000 < rewardRateBps)) .invalidRate
  ensure (¬ unbondingPeriod = 0) .invalidPeriod
  return { state with
    admin := some admin
    rewardRateBps
    unbondingPeriod
    exchangeRate := ratePrecision
    lastAccrualTs := env.timestamp }

/-- Stake an amount; returns the derivative tokens minted. -/
def stake (staker : Address) (amount : Int) (state : State Address) :
    Outcome Error (Int × State Address) := do
  ensureActive state
  requireAuth env staker
  ensure (¬ amount ≤ 0) .zeroAmount
  let state ← accrueRewards state env
  let rate := state.exchangeRate
  let scaled ← checkedMul (.error .overflow) amount ratePrecision
  let lstMinted ← checkedDiv .trap scaled rate
  ensure (¬ lstMinted = 0) .zeroAmount
  let balance ← checkedAdd .trap (state.getLstBalance staker) lstMinted
  let totalLst ← checkedAdd .trap state.totalLst lstMinted
  let totalStaked ← checkedAdd .trap state.totalStaked amount
  return (lstMinted, { state with
    lstBalance := state.lstBalance.set staker balance
    totalLst
    totalStaked })

/-- Burn derivative tokens and queue their worth; returns it with its release time. -/
def unstake (staker : Address) (lstAmount : Int) (state : State Address) :
    Outcome Error ((Int × Nat) × State Address) := do
  ensureActive state
  requireAuth env staker
  ensure (¬ lstAmount ≤ 0) .zeroAmount
  let lstBal := state.getLstBalance staker
  ensure (¬ lstBal < lstAmount) .insufficientBalance
  let state ← accrueRewards state env
  let rate := state.exchangeRate
  let scaled ← checkedMul (.error .overflow) lstAmount rate
  let underlying := scaled.tdiv ratePrecision
  let balance ← checkedSub .trap lstBal lstAmount
  let totalLst ← checkedSub .trap state.totalLst lstAmount
  let left ← checkedSub .trap state.totalStaked underlying
  let releaseTs ← inUnsigned u64Max .trap (env.timestamp + state.unbondingPeriod)
  let idx := state.getUnbondCount staker
  let entry : UnbondEntry := { amount := underlying, releaseTs, claimed := false }
  let count ← inUnsigned u32Max .trap (idx + 1)
  let totalUnbonding ← checkedAdd .trap state.totalUnbonding underlying
  return ((underlying, releaseTs), { state with
    lstBalance := state.lstBalance.set staker balance
    totalLst
    totalStaked := max left 0
    unbondEntry := state.unbondEntry.set (staker, idx) entry
    unbondCount := state.unbondCount.set staker count
    totalUnbonding })

/-- Claim an entry of the queue after its release; returns its amount. -/
def claimUnbonded (staker : Address) (entryIdx : Nat) (state : State Address) :
    Outcome Error (Int × State Address) := do
  ensureActive state
  requireAuth env staker
  let entry ← orError (state.unbondEntry.get (staker, entryIdx)) .invalidEntry
  ensure (entry.claimed = false) .alreadyClaimed
  ensure (¬ env.timestamp < entry.releaseTs) .unbondNotReady
  let left ← checkedSub .trap state.totalUnbonding entry.amount
  return (entry.amount, { state with
    unbondEntry := state.unbondEntry.set (staker, entryIdx) { entry with claimed := true }
    totalUnbonding := max left 0 })

def delegateToValidator (admin validator : Address) (amount : Int) (state : State Address) :
    Outcome Error (State Address) := do
  ensureActive state
  requireAuth env admin
  requireAdmin state admin
  ensure (¬ amount < 0) .zeroAmount
  let delegated ← checkedAdd .trap (state.getValidatorStake validator) amount
  return { state with validatorStake := state.validatorStake.set validator delegated }

/-- Add a validator's rewards to the pool; the rate is set anew from it. -/
def reportValidatorRewards (admin _validator : Address) (rewardAmount : Int) (state : State Address)
    :
    Outcome Error (State Address) := do
  ensureActive state
  requireAuth env admin
  requireAdmin state admin
  ensure (¬ rewardAmount ≤ 0) .zeroAmount
  let totalStaked ← checkedAdd .trap state.totalStaked rewardAmount
  let totalRewards ← checkedAdd .trap state.totalRewards rewardAmount
  recomputeRateFromPool { state with
    totalStaked
    totalRewards }

def setRewardRate (admin : Address) (newRateBps : Int) (state : State Address) :
    Outcome Error (State Address) := do
  requireAuth env admin
  requireAdmin state admin
  ensure (¬ (newRateBps ≤ 0 ∨ 10000 < newRateBps)) .invalidRate
  let state ← accrueRewards state env
  return { state with rewardRateBps := newRateBps }

def setPaused (admin : Address) (paused : Bool) (state : State Address) :
    Outcome Error (State Address) := do
  requireAuth env admin
  requireAdmin state admin
  return { state with paused }

/-- Anyone may accrue; returns the new rate. -/
def accrue (state : State Address) : Outcome Error (Int × State Address) := do
  ensureInitialized state
  let state ← accrueRewards state env
  return (state.exchangeRate, state)

inductive Operation (Address : Type) where
  | initializeStaking (admin : Address) (rewardRateBps : Int) (unbondingPeriod : Nat)
  | stake (staker : Address) (amount : Int)
  | unstake (staker : Address) (lstAmount : Int)
  | claimUnbonded (staker : Address) (entryIdx : Nat)
  | delegateToValidator (admin validator : Address) (amount : Int)
  | reportValidatorRewards (admin validator : Address) (rewardAmount : Int)
  | setRewardRate (admin : Address) (newRateBps : Int)
  | setPaused (admin : Address) (paused : Bool)
  | accrue

def dispatch (state : State Address) (call : Env Address contract × Operation Address) :
    Outcome Error (State Address) :=
  match call.2 with
  | .initializeStaking admin rewardRateBps unbondingPeriod =>
      initializeStaking call.1 admin rewardRateBps unbondingPeriod state
  | .stake staker amount => Prod.snd <$> stake call.1 staker amount state
  | .unstake staker lstAmount => Prod.snd <$> unstake call.1 staker lstAmount state
  | .claimUnbonded staker entryIdx => Prod.snd <$> claimUnbonded call.1 staker entryIdx state
  | .delegateToValidator admin validator amount =>
      delegateToValidator call.1 admin validator amount state
  | .reportValidatorRewards admin validator rewardAmount =>
      reportValidatorRewards call.1 admin validator rewardAmount state
  | .setRewardRate admin newRateBps => setRewardRate call.1 admin newRateBps state
  | .setPaused admin paused => setPaused call.1 admin paused state
  | .accrue => Prod.snd <$> accrue call.1 state

def machine (contract : Address) :
    CallMachine (State Address) (Env Address contract × Operation Address) (Failure Error) where
  exec := dispatch

end SorobanPlayground.StakingDerivatives
