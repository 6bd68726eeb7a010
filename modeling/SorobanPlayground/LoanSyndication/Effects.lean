import SorobanPlayground.LoanSyndication.Contract

/-! # What the calls of a syndication do

Every call leaves the loans and positions as they are, opens a loan, moves one loan to
another status, or settles with one position; money moves only between the contract
and the other party of the call.
-/

namespace SorobanPlayground.LoanSyndication

variable {Address : Type} [DecidableEq Address] {contract : Address}

/-- A loan is settled when its lenders may claim. -/
def Loan.Settled (loan : Loan Address) : Prop := loan.status = .repaid ∨ loan.status = .defaulted

instance (loan : Loan Address) : Decidable loan.Settled := by
  unfold Loan.Settled
  infer_instance

/-- The call is no claim of a lender. -/
def Operation.Unclaimed (operation : Operation Address) : Prop :=
  ∀ lender loanId code, operation ≠ .claim lender loanId code

/-- The holder's balances change by an amount of one token. -/
def Shifts (holder token : Address) (amount : Int) (ledger next : TokenLedger Address) : Prop :=
  ∀ read, (next read holder : Int) = ledger read holder + if read = token then amount else 0

/-- What a successful call does. -/
inductive Effect (contract : Address) (state : State Address) :
    Operation Address → State Address → Prop
  | idle (operation : Operation Address) (admin : Option Address) (initialized paused : Bool)
      (unclaimed : operation.Unclaimed)
      (stays : state.initialized = true → initialized = true) :
      Effect contract state operation { state with admin, initialized, paused }
  | opened (operation : Operation Address) (loan : Loan Address) (unclaimed : operation.Unclaimed)
      (initialized : state.initialized = true) (fresh : loan.id = state.loanCount + 1)
      (status : loan.status = .funding) (seniorTarget : 0 < loan.seniorTarget)
      (juniorTarget : 0 < loan.juniorTarget)
      (principalTarget : loan.principalTarget = loan.seniorTarget + loan.juniorTarget)
      (fits : loan.principalTarget ≤ i128Max)
      (seniorFunded : loan.seniorFunded = 0) (juniorFunded : loan.juniorFunded = 0)
      (repaid : loan.repaid = 0) (totalClaimed : loan.totalClaimed = 0) :
      Effect contract state operation (setLoan { state with loanCount := state.loanCount + 1 } loan)
  | funded (lender : Address) (loanId code : Nat) (amount newFunded principal : Int)
      (tranche : Tranche) (loan : Loan Address) (ledger : TokenLedger Address)
      (stored : state.loans.get loanId = some loan) (status : loan.status = .funding)
      (positive : 0 < amount) (fits : newFunded ≤ i128Max)
      (grown : newFunded = (trancheFunding loan tranche).1 + amount)
      (within : newFunded ≤ (trancheFunding loan tranche).2)
      (added : principal = (getPosition state loanId lender tranche).principal + amount)
      (received : Shifts contract loan.asset amount state.ledger ledger) :
      Effect contract state (.fund lender loanId code amount)
        { setPosition (setLoan state (withFunded loan newFunded tranche))
            { getPosition state loanId lender tranche with principal } with
          locked := false
          ledger }
  | drawn (loanId : Nat) (loan : Loan Address) (ledger : TokenLedger Address)
      (stored : state.loans.get loanId = some loan) (status : loan.status = .funding)
      (senior : loan.seniorFunded = loan.seniorTarget)
      (junior : loan.juniorFunded = loan.juniorTarget)
      (paid : Shifts contract loan.asset (-loan.principalTarget) state.ledger ledger) :
      Effect contract state (.drawdown loanId)
        { setLoan state { loan with status := .active } with
          locked := false
          ledger }
  | serviced (payer : Address) (loanId : Nat) (amount actual repaid : Int) (status : LoanStatus)
      (loan : Loan Address) (ledger : TokenLedger Address)
      (stored : state.loans.get loanId = some loan) (active : loan.status = .active)
      (positive : 0 < actual) (fits : repaid ≤ i128Max) (added : repaid = loan.repaid + actual)
      (moves : status = .active ∨ status = .repaid)
      (received : Shifts contract loan.asset actual state.ledger ledger) :
      Effect contract state (.repay payer loanId amount)
        { setLoan state { loan with repaid, status } with
          locked := false
          ledger }
  | closed (operation : Operation Address) (loanId : Nat) (loan : Loan Address)
      (status : LoanStatus) (unclaimed : operation.Unclaimed)
      (stored : state.loans.get loanId = some loan)
      (moves : loan.status = .active ∧ status = .defaulted ∨
        loan.status = .funding ∧ status = .cancelled) :
      Effect contract state operation (setLoan state { loan with status })
  | refunded (lender : Address) (loanId code : Nat) (refund : Int) (tranche : Tranche)
      (loan : Loan Address) (ledger : TokenLedger Address)
      (stored : state.loans.get loanId = some loan) (status : loan.status = .cancelled)
      (owed : refund = (getPosition state loanId lender tranche).principal -
        (getPosition state loanId lender tranche).claimed)
      (positive : 0 < refund)
      (paid : Shifts contract loan.asset (-refund) state.ledger ledger) :
      Effect contract state (.claimRefund lender loanId code)
        { setLoan
            (setPosition state { getPosition state loanId lender tranche with
              claimed := (getPosition state loanId lender tranche).principal })
            { loan with totalClaimed := loan.totalClaimed + refund } with
          locked := false
          ledger }
  | claimed (lender : Address) (loanId code : Nat) (amount : Int) (tranche : Tranche)
      (loan : Loan Address) (ledger : TokenLedger Address)
      (named : parseTranche code = .ok tranche)
      (stored : state.loans.get loanId = some loan) (settled : loan.Settled)
      (owed : positionClaim loan (getPosition state loanId lender tranche) = .ok amount)
      (positive : 0 < amount)
      (paid : Shifts contract loan.asset (-amount) state.ledger ledger)
      (received : (ledger loan.asset lender : Int) = state.ledger loan.asset lender + amount) :
      Effect contract state (.claim lender loanId code)
        { setLoan
            (setPosition state { getPosition state loanId lender tranche with
              claimed := (getPosition state loanId lender tranche).claimed + amount })
            { loan with totalClaimed := loan.totalClaimed + amount } with
          locked := false
          ledger }
  | transferred (token source destination : Address) (amount : Int)
      (ledger : TokenLedger Address)
      (kept : ∀ read, state.ledger read contract ≤ ledger read contract) :
      Effect contract state (.transferTokens token source destination amount)
        { state with ledger }

variable {tokens : TokenHost Address} {ledger next : TokenLedger Address}
  {token other : Address} {amount : Int}

theorem shifts_in
    (paid : (tokens.pay ledger token other contract amount : Outcome Error _) = .ok next)
    (ne : other ≠ contract) : Shifts contract token amount ledger next :=
  fun read => tokens.pay_credits paid ne read

theorem shifts_out
    (paid : (tokens.pay ledger token contract other amount : Outcome Error _) = .ok next)
    (ne : other ≠ contract) : Shifts contract token (-amount) ledger next := by
  intro read
  rw [tokens.pay_debits paid ne.symm read, Int.sub_eq_add_neg]
  split <;> rfl

theorem dispatch_effect {state next : State Address}
    {call : Env Address contract × Operation Address}
    (ran : dispatch tokens state call = .ok next) : Effect contract state call.2 next := by
  obtain ⟨env, op⟩ := call
  cases op with
  | initializeSyndication admin =>
    simp only [dispatch, initializeSyndication, call_ok] at ran
    obtain ⟨-, -, rfl⟩ := ran
    exact .idle _ (some admin) true false (by simp [Operation.Unclaimed]) fun _ => rfl
  | setPaused paused =>
    simp only [dispatch, setPaused, ensureInitialized, call_ok] at ran
    obtain ⟨initialized, admin, -, -, rfl⟩ := ran
    exact .idle _ state.admin state.initialized paused (by simp [Operation.Unclaimed]) id
  | createLoan _ _ _ _ _ _ _ _ _ fits =>
    simp only [dispatch, createLoan, ensureInitialized, ensureNotPaused, validateTerms, map_eq_ok,
      call_ok, arith_ok] at ran
    obtain ⟨_, ⟨initialized, -, -, terms, -, -, rfl⟩, rfl⟩ :=
      ran
    simp only [not_or, not_le, not_lt] at terms
    refine .opened _ _ ?_ initialized rfl rfl terms.2.1 (sub_pos.mpr terms.2.2.1)
      (add_sub_cancel _ _).symm fits.2 rfl rfl rfl rfl
    simp [Operation.Unclaimed]
  | fund lender loanId code amount =>
    simp only [dispatch, fund, ensureInitialized, ensureNotPaused, validateAmount, getLoan, enter,
      call_ok, arith_ok] at ran
    obtain ⟨-, -, signed, pos, tranche, named, loan, got, status, -, fits, within, -, -, ledger,
      paid, rfl⟩ := ran
    exact .funded lender loanId code amount _ _ tranche loan ledger got status
      (not_le.mp pos) fits.2 rfl (not_lt.mp within) rfl
      (shifts_in paid (env.ne_contract signed))
  | drawdown loanId =>
    simp only [dispatch, drawdown, ensureInitialized, ensureNotPaused, getLoan, enter, call_ok,
      not_or, not_not] at ran
    obtain ⟨-, -, loan, got, signed, status, ⟨senior, junior⟩, -, _, ⟨-, rfl⟩, ledger, paid,
      rfl⟩ := ran
    exact .drawn loanId loan ledger got status senior junior
      (shifts_out paid (env.ne_contract signed))
  | repay payer loanId amount =>
    simp only [dispatch, repay, ensureInitialized, validateAmount, getLoan, enter, map_eq_ok,
      call_ok, arith_ok] at ran
    obtain ⟨_, ⟨-, signed, -, loan, got, active, _, -, -, pos, -, fits, ledger, paid, rfl⟩, rfl⟩ :=
      ran
    refine .serviced payer loanId amount _ _ _ loan ledger got active (not_le.mp pos)
      fits.2 rfl ?_ (shifts_in paid (env.ne_contract signed))
    split
    · exact .inr rfl
    · exact .inl active
  | markDefault loanId =>
    simp only [dispatch, markDefault, ensureInitialized, getLoan, call_ok] at ran
    obtain ⟨-, loan, got, active, -, -, -, rfl⟩ := ran
    exact .closed _ loanId loan .defaulted (by simp [Operation.Unclaimed]) got (.inl ⟨active, rfl⟩)
  | cancelLoan _ loanId =>
    simp only [dispatch, cancelLoan, ensureInitialized, getLoan, call_ok] at ran
    obtain ⟨-, -, loan, got, -, -, funding, rfl⟩ := ran
    exact .closed _ loanId loan .cancelled (by simp [Operation.Unclaimed]) got (.inr ⟨funding, rfl⟩)
  | expireLoan loanId =>
    simp only [dispatch, expireLoan, ensureInitialized, getLoan, call_ok] at ran
    obtain ⟨-, loan, got, funding, -, rfl⟩ := ran
    exact .closed _ loanId loan .cancelled (by simp [Operation.Unclaimed]) got (.inr ⟨funding, rfl⟩)
  | claimRefund lender loanId code =>
    simp only [dispatch, claimRefund, ensureInitialized, getLoan, enter, map_eq_ok, call_ok,
      arith_ok] at ran
    obtain ⟨_, ⟨-, signed, tranche, named, loan, got, status, -, pos, -, -, ledger, paid, rfl⟩,
      rfl⟩ := ran
    exact .refunded lender loanId code _ tranche loan ledger got status rfl
      (not_le.mp pos) (shifts_out paid (env.ne_contract signed))
  | claim lender loanId code =>
    simp only [dispatch, claim, ensureInitialized, getLoan, enter, map_eq_ok, call_ok,
      arith_ok] at ran
    obtain ⟨_, ⟨-, signed, tranche, named, loan, got, _, amount, owed, pos, -, -, -, ledger, paid,
      rfl⟩, rfl⟩ := ran
    have ne := env.ne_contract signed
    have settled : loan.Settled := by
      tauto
    exact .claimed lender loanId code amount tranche loan ledger named got settled owed
      (not_le.mp pos) (shifts_out paid ne) (tokens.pay_received paid ne)
  | transferTokens token source destination amount =>
    simp only [dispatch, payAs, call_ok] at ran
    obtain ⟨ledger, ⟨signed, paid⟩, rfl⟩ := ran
    refine .transferred token source destination amount ledger fun read => ?_
    have kept := tokens.pay_le paid (env.ne_contract signed).symm read
    exact_mod_cast kept

end SorobanPlayground.LoanSyndication
