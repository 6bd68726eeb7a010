import SorobanPlayground.Host

/-! # The lending pool

Users deposit collateral and borrow against it. A position whose health factor
falls below one can be liquidated: the liquidator repays part of the debt and is
credited with collateral of the borrower, plus a bonus. The pool keeps running
totals of deposits and loans and a counter of bad debt. Amounts are entries of
the pool's own books; the contract calls no token.
-/

namespace SorobanPlayground.LendingPool

def collateralFactorBps : Int := 8000

def liquidationBonusBps : Int := 500

/-- Basis point denominator. -/
def bpsDen : Int := 10000

/-- The fraction of a debt that one liquidation may repay, in basis points. -/
def maxCloseFactorBps : Int := 5000

inductive Error where
  | alreadyInitialized
  | notInitialized
  | unauthorized
  | contractPaused
  | invalidAmount
  | insufficientBalance
  | insufficientCollateral
  | nothingToLiquidate
  | positionHealthy
  | liquidationExceedsCloseFactor
  | selfLiquidationNotAllowed
  | overflow
  deriving DecidableEq, Repr

/-- A user's entry; the default stands for a user without one. -/
structure UserPosition where
  deposited : Int := 0
  borrowed : Int := 0
  creditScore : Int := 0
  lastUpdated : Nat := 0
  deriving DecidableEq, Repr, Inhabited

structure PoolStats where
  totalDeposited : Int
  totalBorrowed : Int
  badDebt : Int
  deriving DecidableEq, Repr

structure LiquidationResult where
  debtRepaid : Int
  collateralSeized : Int
  bonus : Int
  badDebtCreated : Int
  deriving DecidableEq, Repr

/-- The contract's storage. Flags and totals that were never written read as
`false` and `0`. -/
structure State (Address : Type) where
  initialized : Bool := false
  admin : Option Address := none
  paused : Bool := false
  positions : FiniteMap Address UserPosition := ∅
  totalDeposited : Int := 0
  totalBorrowed : Int := 0
  badDebt : Int := 0

variable {Address : Type} [DecidableEq Address] {contract : Address} (state : State Address)

def State.getPosition (user : Address) : UserPosition :=
  (state.positions.get user).getD {}

def State.setPosition (user : Address) (position : UserPosition) : State Address :=
  { state with positions := state.positions.set user position }

def State.setTotalDeposited (total : Int) : State Address :=
  { state with totalDeposited := total }

def State.setTotalBorrowed (total : Int) : State Address :=
  { state with totalBorrowed := total }

def State.setBadDebt (badDebt : Int) : State Address :=
  { state with badDebt }

omit [DecidableEq Address]

def ensureInitialized (state : State Address) : Outcome Error Unit :=
  ensure (state.initialized = true) .notInitialized

def notPaused (state : State Address) : Outcome Error Unit :=
  ensure (state.paused = false) .contractPaused

def validateAmount (amount : Int) : Outcome Error Unit :=
  ensure (0 < amount) .invalidAmount

def healthFactorScaled (deposited borrowed : Int) : Int :=
  if borrowed = 0 then i128Max
  else (optionDiv (saturateI128 (deposited * collateralFactorBps)) borrowed).getD 0

def isPositionHealthy (deposited borrowed : Int) : Prop :=
  bpsDen ≤ healthFactorScaled deposited borrowed

instance (deposited borrowed : Int) : Decidable (isPositionHealthy deposited borrowed) :=
  inferInstanceAs (Decidable (_ ≤ _))

def checkHealth (deposited borrowed : Int) : Outcome Error Unit :=
  ensure (isPositionHealthy deposited borrowed) .insufficientCollateral

def requireAdmin (state : State Address) (caller : Address) : Outcome Error Unit := do
  let admin ← orError state.admin .notInitialized
  ensure (admin = caller) .unauthorized

omit [DecidableEq Address]

variable {result : Unit}

@[simp] theorem ensureInitialized_eq_ok {state : State Address} :
    ensureInitialized state = .ok result ↔ state.initialized = true :=
  ensure_eq_ok

@[simp] theorem notPaused_eq_ok {state : State Address} :
    notPaused state = .ok result ↔ state.paused = false :=
  ensure_eq_ok

@[simp] theorem validateAmount_eq_ok {amount : Int} :
    validateAmount amount = .ok result ↔ 0 < amount :=
  ensure_eq_ok

@[simp] theorem checkHealth_eq_ok {deposited borrowed : Int} :
    checkHealth deposited borrowed = .ok result ↔ isPositionHealthy deposited borrowed :=
  ensure_eq_ok

variable (env : Env Address contract)

def initializePool (admin : Address) (state : State Address) : Outcome Error (State Address) := do
  ensure (state.initialized = false) .alreadyInitialized
  requireAuth env admin
  return { state with admin := some admin, initialized := true }

def pause (admin : Address) (state : State Address) : Outcome Error (State Address) := do
  ensureInitialized state
  requireAuth env admin
  requireAdmin state admin
  return { state with paused := true }

def unpause (admin : Address) (state : State Address) : Outcome Error (State Address) := do
  ensureInitialized state
  requireAuth env admin
  requireAdmin state admin
  return { state with paused := false }

def deposit (user : Address) (amount : Int) (state : State Address) :
    Outcome Error (State Address) := do
  ensureInitialized state
  notPaused state
  requireAuth env user
  validateAmount amount
  let position := state.getPosition user
  let deposited ← checkedAdd (.error .overflow) position.deposited amount
  let newTotal ← checkedAdd (.error .overflow) state.totalDeposited amount
  return (state.setPosition user
    { position with deposited, lastUpdated := env.timestamp }).setTotalDeposited newTotal

def withdraw (user : Address) (amount : Int) (state : State Address) :
    Outcome Error (State Address) := do
  ensureInitialized state
  notPaused state
  requireAuth env user
  validateAmount amount
  let position := state.getPosition user
  ensure (amount ≤ position.deposited) .insufficientBalance
  let remaining ← checkedSub (.error .overflow) position.deposited amount
  -- After a withdrawal the position must still be healthy.
  whenever (0 < position.borrowed) (checkHealth remaining position.borrowed)
  let newTotal ← checkedSub (.error .overflow) state.totalDeposited amount
  return (state.setPosition user
    { position with deposited := remaining, lastUpdated := env.timestamp }).setTotalDeposited
      newTotal

def borrow (user : Address) (amount : Int) (state : State Address) :
    Outcome Error (State Address) := do
  ensureInitialized state
  notPaused state
  requireAuth env user
  validateAmount amount
  let position := state.getPosition user
  let newBorrowed ← checkedAdd (.error .overflow) position.borrowed amount
  checkHealth position.deposited newBorrowed
  let newTotal ← checkedAdd (.error .overflow) state.totalBorrowed amount
  return (state.setPosition user
    { position with borrowed := newBorrowed, lastUpdated := env.timestamp }).setTotalBorrowed
      newTotal

/-- Returns the amount repaid: at most the debt. -/
def repay (user : Address) (amount : Int) (state : State Address) :
    Outcome Error (Int × State Address) := do
  ensureInitialized state
  notPaused state
  requireAuth env user
  validateAmount amount
  let position := state.getPosition user
  let actual := min amount position.borrowed
  ensure (actual ≠ 0) .invalidAmount
  let borrowed ← checkedSub (.error .overflow) position.borrowed actual
  let creditScore := saturateI128 (position.creditScore + 5)
  let newTotal ← checkedSub (.error .overflow) state.totalBorrowed actual
  return (actual,
    (state.setPosition user
      { position with borrowed, creditScore, lastUpdated := env.timestamp }).setTotalBorrowed
        newTotal)

/-- What one liquidation moves: the repaid debt, the seized collateral and the
bad debt it creates. -/
structure LiquidationTerms where
  debtToRepay : Int
  actualSeizure : Int
  badDebtCreated : Int

/-- The terms of a liquidation. The seizure is the repaid debt plus the bonus,
capped at the collateral; what the cap cuts off is bad debt. -/
def liquidationTerms (borrower : UserPosition) (repayAmount : Int) :
    Outcome Error LiquidationTerms := do
  ensure (borrower.borrowed ≠ 0) .nothingToLiquidate
  ensure (¬ isPositionHealthy borrower.deposited borrower.borrowed) .positionHealthy
  let scaledDebt ← checkedMul (.error .overflow) borrower.borrowed maxCloseFactorBps
  let maxRepay ← checkedDiv (.error .overflow) scaledDebt bpsDen
  let debtToRepay := min (min repayAmount maxRepay) borrower.borrowed
  ensure (debtToRepay ≠ 0) .invalidAmount
  ensure (repayAmount ≤ maxRepay) .liquidationExceedsCloseFactor
  let scaledBonus ← checkedMul (.error .overflow) debtToRepay liquidationBonusBps
  let bonus ← checkedDiv (.error .overflow) scaledBonus bpsDen
  let idealSeizure ← checkedAdd (.error .overflow) debtToRepay bonus
  let badDebtCreated ←
    (if borrower.deposited < idealSeizure then checkedSub .trap idealSeizure borrower.deposited
      else pure 0)
  return { debtToRepay, actualSeizure := min idealSeizure borrower.deposited, badDebtCreated }

/-- The bad-debt counter after a liquidation. -/
def accumulateBadDebt (badDebt created : Int) : Outcome Error Int :=
  if 0 < created then checkedAdd (.error .overflow) badDebt created else pure badDebt

/-- Liquidate an undercollateralized position in one step. The seized collateral
is credited to the liquidator, whose timestamp stays. -/
def liquidate (liquidator user : Address) (repayAmount : Int) (state : State Address) :
    Outcome Error (LiquidationResult × State Address) := do
  ensureInitialized state
  notPaused state
  requireAuth env liquidator
  validateAmount repayAmount
  ensure (liquidator ≠ user) .selfLiquidationNotAllowed
  let borrower := state.getPosition user
  let terms ← liquidationTerms borrower repayAmount
  let borrowed ← checkedSub (.error .overflow) borrower.borrowed terms.debtToRepay
  let deposited ← checkedSub (.error .overflow) borrower.deposited terms.actualSeizure
  let settled := state.setPosition user
    { borrower with borrowed, deposited, lastUpdated := env.timestamp }
  let liquidatorPosition := settled.getPosition liquidator
  let credited ← checkedAdd (.error .overflow) liquidatorPosition.deposited terms.actualSeizure
  let newTotalBorrow ← checkedSub (.error .overflow) state.totalBorrowed terms.debtToRepay
  let newTotalDeposit ← checkedSub (.error .overflow) state.totalDeposited terms.actualSeizure
  let badDebt ← accumulateBadDebt state.badDebt terms.badDebtCreated
  let result : LiquidationResult :=
    { debtRepaid := terms.debtToRepay
      collateralSeized := terms.actualSeizure
      bonus := saturateI128 (terms.actualSeizure - terms.debtToRepay)
      badDebtCreated := terms.badDebtCreated }
  return (result,
    (((settled.setPosition liquidator { liquidatorPosition with deposited := credited
      }).setTotalBorrowed newTotalBorrow).setTotalDeposited newTotalDeposit).setBadDebt badDebt)

/-- Reduce the bad-debt counter after a deficit was covered elsewhere. -/
def socializeBadDebt (admin : Address) (amount : Int) (state : State Address) :
    Outcome Error (Int × State Address) := do
  ensureInitialized state
  requireAuth env admin
  requireAdmin state admin
  validateAmount amount
  let reduced := saturateI128 (state.badDebt - amount)
  return (reduced, state.setBadDebt reduced)

def getStats (state : State Address) : PoolStats where
  totalDeposited := state.totalDeposited
  totalBorrowed := state.totalBorrowed
  badDebt := state.badDebt

def getHealthFactor (state : State Address) (user : Address) : Int :=
  let position := state.getPosition user
  if position.borrowed = 0 then i128Max
  else healthFactorScaled position.deposited position.borrowed

inductive Operation (Address : Type) where
  | initializePool (admin : Address)
  | pause (admin : Address)
  | unpause (admin : Address)
  | deposit (user : Address) (amount : Int)
  | withdraw (user : Address) (amount : Int)
  | borrow (user : Address) (amount : Int)
  | repay (user : Address) (amount : Int)
  | liquidate (liquidator user : Address) (repayAmount : Int)
  | socializeBadDebt (admin : Address) (amount : Int)

def dispatch (state : State Address) (call : Env Address contract × Operation Address) :
    Outcome Error (State Address) :=
  match call.2 with
  | .initializePool admin => initializePool call.1 admin state
  | .pause admin => pause call.1 admin state
  | .unpause admin => unpause call.1 admin state
  | .deposit user amount => deposit call.1 user amount state
  | .withdraw user amount => withdraw call.1 user amount state
  | .borrow user amount => borrow call.1 user amount state
  | .repay user amount => Prod.snd <$> repay call.1 user amount state
  | .liquidate liquidator user repayAmount =>
      Prod.snd <$> liquidate call.1 liquidator user repayAmount state
  | .socializeBadDebt admin amount => Prod.snd <$> socializeBadDebt call.1 admin amount state

def machine (contract : Address) :
    CallMachine (State Address) (Env Address contract × Operation Address) (Failure Error) where
  exec := dispatch

end SorobanPlayground.LendingPool
