import SorobanPlayground.Host
import SorobanPlayground.Library.Euclid

/-! # Loan syndication

Loans that many lenders fund in a senior and a junior tranche. Repayments and what is
recovered from a default go to the senior lenders first; within a tranche each lender
takes the part of its principal.
-/

namespace SorobanPlayground.LoanSyndication

def bpsDenominator : Int := 10000
def maxYieldBps : Nat := 10000
def maxGracePeriod : Nat := 90 * 24 * 60 * 60

inductive Error where
  | alreadyInitialized
  | notInitialized
  | unauthorized
  | contractPaused
  | reentrantCall
  | loanNotFound
  | invalidAmount
  | invalidTerms
  | invalidTranche
  | fundingClosed
  | trancheCapacityExceeded
  | loanNotFunded
  | invalidLoanStatus
  | loanNotMatured
  | nothingToClaim
  | arithmeticOverflow
  deriving DecidableEq, Repr

inductive Tranche where
  | senior
  | junior
  deriving DecidableEq, Repr

inductive LoanStatus where
  | funding
  | active
  | repaid
  | defaulted
  | cancelled
  deriving DecidableEq, Repr

structure Loan (Address : Type) where
  id : Nat
  borrower : Address
  asset : Address
  status : LoanStatus
  principalTarget : Int
  seniorTarget : Int
  juniorTarget : Int
  seniorFunded : Int
  juniorFunded : Int
  seniorYieldBps : Nat
  juniorYieldBps : Nat
  fundingDeadline : Nat
  maturity : Nat
  gracePeriod : Nat
  repaid : Int
  totalClaimed : Int
  createdAt : Nat
  deriving DecidableEq, Repr

structure TranchePosition (Address : Type) where
  loanId : Nat
  lender : Address
  tranche : Tranche
  principal : Int
  claimed : Int
  deriving DecidableEq, Repr

/-- The contract's storage, beside the token contracts. -/
structure State (Address : Type) where
  admin : Option Address := none
  initialized : Bool := false
  paused : Bool := false
  locked : Bool := false
  loanCount : Nat := 0
  loans : FiniteMap Nat (Loan Address) := ∅
  positions : FiniteMap (Nat × Address × Tranche) (TranchePosition Address) := ∅
  ledger : TokenLedger Address

variable {Address : Type} [DecidableEq Address] {contract : Address} (tokens : TokenHost Address)
  (state : State Address)

def getAdmin : Outcome Error Address := orError state.admin .notInitialized

def getLoan (loanId : Nat) : Outcome Error (Loan Address) :=
  orError (state.loans.get loanId) .loanNotFound

def setLoan (loan : Loan Address) : State Address :=
  { state with loans := state.loans.set loan.id loan }

def getPosition (loanId : Nat) (lender : Address) (tranche : Tranche) : TranchePosition Address :=
  (state.positions.get (loanId, lender, tranche)).getD
    { loanId, lender, tranche, principal := 0, claimed := 0 }

def setPosition (position : TranchePosition Address) : State Address :=
  { state with
    positions :=
      state.positions.set (position.loanId, position.lender, position.tranche) position }

/-- The lock is taken before a token is called. -/
def enter : Outcome Error (State Address) := do
  ensure (state.locked = false) .reentrantCall
  return { state with locked := true }

def exit : State Address := { state with locked := false }

def ensureInitialized : Outcome Error Unit := ensure (state.initialized = true) .notInitialized

def ensureNotPaused : Outcome Error Unit := ensure (state.paused = false) .contractPaused

def validateAmount (amount : Int) : Outcome Error Unit := ensure (¬ amount ≤ 0) .invalidAmount

def validateTerms (env : Env Address contract) (principalTarget seniorTarget : Int)
    (seniorYieldBps juniorYieldBps fundingDeadline maturity gracePeriod : Nat) :
    Outcome Error Unit :=
  ensure (¬ (principalTarget ≤ 0 ∨ seniorTarget ≤ 0 ∨ principalTarget ≤ seniorTarget ∨
    maxYieldBps < seniorYieldBps ∨ maxYieldBps < juniorYieldBps ∨
    juniorYieldBps < seniorYieldBps ∨ fundingDeadline ≤ env.timestamp ∨
    maturity ≤ fundingDeadline ∨ maxGracePeriod < gracePeriod)) .invalidTerms

def parseTranche : Nat → Outcome Error Tranche
  | 0 => .ok .senior
  | 1 => .ok .junior
  | _ => .error (.error .invalidTranche)

def gcd (left right : Int) : Int := Euclid.rounds right.natAbs left right

/-- `left * right / denominator`, reduced before the factors are multiplied. -/
def mulDivFloor (left right denominator : Int) : Outcome Error Int := do
  ensure (¬ (left < 0 ∨ right < 0 ∨ denominator ≤ 0)) .invalidAmount
  let firstGcd := gcd left denominator
  let reducedLeft ← checkedDiv .trap left firstGcd
  let remainingDenominator ← checkedDiv .trap denominator firstGcd
  let secondGcd := gcd right remainingDenominator
  let reducedRight ← checkedDiv .trap right secondGcd
  let value ← checkedMul (.error .arithmeticOverflow) reducedLeft reducedRight
  let divisor ← checkedDiv .trap remainingDenominator secondGcd
  checkedDiv .trap value divisor

variable (loan : Loan Address)

def trancheDue (principal : Int) (yieldBps : Nat) : Outcome Error Int := do
  let interest ← mulDivFloor principal yieldBps bpsDenominator
  checkedAdd (.error .arithmeticOverflow) principal interest

/-- What a tranche has taken in, and what it is to take in. -/
def trancheFunding : Tranche → Int × Int
  | .senior => (loan.seniorFunded, loan.seniorTarget)
  | .junior => (loan.juniorFunded, loan.juniorTarget)

def totalDue : Outcome Error Int := do
  let senior ← trancheDue loan.seniorTarget loan.seniorYieldBps
  let junior ← trancheDue loan.juniorTarget loan.juniorYieldBps
  checkedAdd (.error .arithmeticOverflow) senior junior

/-- What is left of the repayments after the senior lenders. -/
def residualOf (repaid seniorDue : Int) : Outcome Error Int :=
  if seniorDue < repaid then checkedSub (.error .arithmeticOverflow) repaid seniorDue else pure 0

def trancheAllocation (tranche : Tranche) : Outcome Error Int := do
  let seniorDue ← trancheDue loan.seniorTarget loan.seniorYieldBps
  match tranche with
  | .senior => return min loan.repaid seniorDue
  | .junior => do
      let residual ← residualOf loan.repaid seniorDue
      let juniorDue ← trancheDue loan.juniorTarget loan.juniorYieldBps
      return min residual juniorDue

/-- What a position may still claim of its tranche's allocation. -/
def positionClaim (position : TranchePosition Address) : Outcome Error Int :=
  if position.principal ≤ 0 then pure 0
  else if (trancheFunding loan position.tranche).1 ≤ 0 then pure 0
  else do
    let allocation ← trancheAllocation loan position.tranche
    let entitlement ← mulDivFloor allocation position.principal
      (trancheFunding loan position.tranche).1
    checkedSub (.error .arithmeticOverflow) entitlement position.claimed

variable (env : Env Address contract)

def initializeSyndication (admin : Address) (state : State Address) :
    Outcome Error (State Address) := do
  ensure (¬ state.initialized = true) .alreadyInitialized
  requireAuth env admin
  return { state with
    admin := some admin
    initialized := true
    paused := false }

def setPaused (paused : Bool) (state : State Address) : Outcome Error (State Address) := do
  ensureInitialized state
  let admin ← getAdmin state
  requireAuth env admin
  return { state with paused }

def createLoan (borrower asset : Address) (principalTarget seniorTarget : Int)
    (seniorYieldBps juniorYieldBps fundingDeadline maturity gracePeriod : Nat)
    (state : State Address) : Outcome Error (Nat × State Address) := do
  ensureInitialized state
  ensureNotPaused state
  requireAuth env borrower
  validateTerms env principalTarget seniorTarget seniorYieldBps juniorYieldBps fundingDeadline
    maturity gracePeriod
  let juniorTarget ← checkedSub (.error .arithmeticOverflow) principalTarget seniorTarget
  let id ← inUnsigned u32Max (.error .arithmeticOverflow) (state.loanCount + 1)
  let loan : Loan Address := {
    id
    borrower
    asset
    status := .funding
    principalTarget
    seniorTarget
    juniorTarget
    seniorFunded := 0
    juniorFunded := 0
    seniorYieldBps
    juniorYieldBps
    fundingDeadline
    maturity
    gracePeriod
    repaid := 0
    totalClaimed := 0
    createdAt := env.timestamp }
  return (id, setLoan { state with loanCount := id } loan)

/-- The loan after a tranche has taken in new funds. -/
def withFunded (loan : Loan Address) (newFunded : Int) : Tranche → Loan Address
  | .senior => { loan with seniorFunded := newFunded }
  | .junior => { loan with juniorFunded := newFunded }

/-- Fund a tranche; a lender may add to its position. -/
def fund (lender : Address) (loanId code : Nat) (amount : Int) (state : State Address) :
    Outcome Error (State Address) := do
  ensureInitialized state
  ensureNotPaused state
  requireAuth env lender
  validateAmount amount
  let tranche ← parseTranche code
  let loan ← getLoan state loanId
  ensure (loan.status = .funding) .invalidLoanStatus
  ensure (¬ loan.fundingDeadline ≤ env.timestamp) .fundingClosed
  let newFunded ← checkedAdd (.error .arithmeticOverflow) (trancheFunding loan tranche).1 amount
  ensure (¬ (trancheFunding loan tranche).2 < newFunded) .trancheCapacityExceeded
  let position := getPosition state loanId lender tranche
  let principal ← checkedAdd (.error .arithmeticOverflow) position.principal amount
  let state ← enter state
  let state := setLoan state (withFunded loan newFunded tranche)
  let state := setPosition state { position with principal }
  let ledger ← tokens.pay state.ledger loan.asset lender contract amount
  return exit { state with ledger }

/-- Pay the principal to the borrower once both tranches have reached their targets. -/
def drawdown (loanId : Nat) (state : State Address) : Outcome Error (State Address) := do
  ensureInitialized state
  ensureNotPaused state
  let loan ← getLoan state loanId
  requireAuth env loan.borrower
  ensure (loan.status = .funding) .invalidLoanStatus
  ensure (¬ (loan.seniorFunded ≠ loan.seniorTarget ∨ loan.juniorFunded ≠ loan.juniorTarget))
    .loanNotFunded
  ensure (¬ loan.maturity ≤ env.timestamp) .invalidLoanStatus
  let state ← enter state
  let state := setLoan state { loan with status := .active }
  let ledger ← tokens.pay state.ledger loan.asset contract loan.borrower loan.principalTarget
  return exit { state with ledger }

/-- Repay at most what is still due; returns what was taken. -/
def repay (payer : Address) (loanId : Nat) (amount : Int) (state : State Address) :
    Outcome Error (Int × State Address) := do
  ensureInitialized state
  requireAuth env payer
  validateAmount amount
  let loan ← getLoan state loanId
  ensure (loan.status = .active) .invalidLoanStatus
  let totalDue ← totalDue loan
  let outstanding ← checkedSub (.error .arithmeticOverflow) totalDue loan.repaid
  let actual := min amount outstanding
  ensure (¬ actual ≤ 0) .invalidAmount
  let state ← enter state
  let repaid ← checkedAdd (.error .arithmeticOverflow) loan.repaid actual
  let state := setLoan state { loan with
    repaid
    status := if repaid = totalDue then .repaid else loan.status }
  let ledger ← tokens.pay state.ledger loan.asset payer contract actual
  return (actual, exit { state with ledger })

/-- Anybody may declare a default once maturity and grace period have passed. -/
def markDefault (loanId : Nat) (state : State Address) : Outcome Error (State Address) := do
  ensureInitialized state
  let loan ← getLoan state loanId
  ensure (loan.status = .active) .invalidLoanStatus
  let defaultTime ← inUnsigned u64Max (.error .arithmeticOverflow)
    (loan.maturity + loan.gracePeriod)
  ensure (¬ env.timestamp < defaultTime) .loanNotMatured
  return setLoan state { loan with status := .defaulted }

/-- The borrower or the admin cancels a loan before it is drawn. -/
def cancelLoan (caller : Address) (loanId : Nat) (state : State Address) :
    Outcome Error (State Address) := do
  ensureInitialized state
  requireAuth env caller
  let loan ← getLoan state loanId
  whenever (caller ≠ loan.borrower) (do
    let admin ← getAdmin state
    ensure (caller = admin) .unauthorized)
  ensure (loan.status = .funding) .invalidLoanStatus
  return setLoan state { loan with status := .cancelled }

/-- Anybody may cancel a loan that was not drawn before its deadline. -/
def expireLoan (loanId : Nat) (state : State Address) : Outcome Error (State Address) := do
  ensureInitialized state
  let loan ← getLoan state loanId
  ensure (loan.status = .funding) .invalidLoanStatus
  ensure (¬ env.timestamp < loan.fundingDeadline) .fundingClosed
  return setLoan state { loan with status := .cancelled }

/-- Return a lender's principal after a cancellation. -/
def claimRefund (lender : Address) (loanId code : Nat) (state : State Address) :
    Outcome Error (Int × State Address) := do
  ensureInitialized state
  requireAuth env lender
  let tranche ← parseTranche code
  let loan ← getLoan state loanId
  ensure (loan.status = .cancelled) .invalidLoanStatus
  let position := getPosition state loanId lender tranche
  let refund ← checkedSub (.error .arithmeticOverflow) position.principal position.claimed
  ensure (¬ refund ≤ 0) .nothingToClaim
  let state ← enter state
  let totalClaimed ← checkedAdd (.error .arithmeticOverflow) loan.totalClaimed refund
  let state := setPosition state { position with claimed := position.principal }
  let state := setLoan state { loan with totalClaimed }
  let ledger ← tokens.pay state.ledger loan.asset contract lender refund
  return (refund, exit { state with ledger })

/-- Pay a lender its part of the tranche's allocation. -/
def claim (lender : Address) (loanId code : Nat) (state : State Address) :
    Outcome Error (Int × State Address) := do
  ensureInitialized state
  requireAuth env lender
  let tranche ← parseTranche code
  let loan ← getLoan state loanId
  ensure (¬ (loan.status ≠ .repaid ∧ loan.status ≠ .defaulted)) .invalidLoanStatus
  let position := getPosition state loanId lender tranche
  let amount ← positionClaim loan position
  ensure (¬ amount ≤ 0) .nothingToClaim
  let state ← enter state
  let claimed ← checkedAdd (.error .arithmeticOverflow) position.claimed amount
  let totalClaimed ← checkedAdd (.error .arithmeticOverflow) loan.totalClaimed amount
  let state := setPosition state { position with claimed }
  let state := setLoan state { loan with totalClaimed }
  let ledger ← tokens.pay state.ledger loan.asset contract lender amount
  return (amount, exit { state with ledger })

/-- The calls of the contract that write its storage, and transfers that holders make outside. What
a loan is to raise is given as an `i128`. -/
inductive Operation (Address : Type) where
  | initializeSyndication (admin : Address)
  | setPaused (paused : Bool)
  | createLoan (borrower asset : Address) (principalTarget seniorTarget : Int)
      (seniorYieldBps juniorYieldBps fundingDeadline maturity gracePeriod : Nat)
      (fits : InI128 principalTarget)
  | fund (lender : Address) (loanId code : Nat) (amount : Int)
  | drawdown (loanId : Nat)
  | repay (payer : Address) (loanId : Nat) (amount : Int)
  | markDefault (loanId : Nat)
  | cancelLoan (caller : Address) (loanId : Nat)
  | expireLoan (loanId : Nat)
  | claimRefund (lender : Address) (loanId code : Nat)
  | claim (lender : Address) (loanId code : Nat)
  | transferTokens (token source destination : Address) (amount : Int)

def dispatch (state : State Address) (call : Env Address contract × Operation Address) :
    Outcome Error (State Address) :=
  match call.2 with
  | .initializeSyndication admin => initializeSyndication call.1 admin state
  | .setPaused paused => setPaused call.1 paused state
  | .createLoan borrower asset principalTarget seniorTarget seniorYieldBps juniorYieldBps
      fundingDeadline maturity gracePeriod _ =>
      Prod.snd <$> createLoan call.1 borrower asset principalTarget seniorTarget seniorYieldBps
        juniorYieldBps fundingDeadline maturity gracePeriod state
  | .fund lender loanId code amount => fund tokens call.1 lender loanId code amount state
  | .drawdown loanId => drawdown tokens call.1 loanId state
  | .repay payer loanId amount => Prod.snd <$> repay tokens call.1 payer loanId amount state
  | .markDefault loanId => markDefault call.1 loanId state
  | .cancelLoan caller loanId => cancelLoan call.1 caller loanId state
  | .expireLoan loanId => expireLoan call.1 loanId state
  | .claimRefund lender loanId code =>
      Prod.snd <$> claimRefund tokens call.1 lender loanId code state
  | .claim lender loanId code => Prod.snd <$> claim tokens call.1 lender loanId code state
  | .transferTokens token source destination amount => do
      let ledger ← tokens.payAs call.1 state.ledger token source destination amount
      return { state with ledger }

def machine (contract : Address) :
    CallMachine (State Address) (Env Address contract × Operation Address) (Failure Error) where
  exec := dispatch tokens

end SorobanPlayground.LoanSyndication
