import SorobanPlayground.LoanSyndication.Books

/-! # The waterfall of a syndication

In every run the positions of a tranche add up to what it has taken in, the balance of
each asset covers what its loans still hold and what they owe, the senior lenders are
paid no more than their due and the junior lenders no more than the rest, and a lender's
claim pays its share once.
-/

namespace SorobanPlayground.LoanSyndication

variable {Address : Type} [DecidableEq Address] {contract : Address}

/-- The loans of a state and the receipts of the claims that were paid. -/
structure WaterfallHolds (contract : Address)
    (account : State Address × List (Receipt Address)) : Prop where
  principal : ∀ id loan tranche, account.1.loans.get id = some loan →
    account.1.trancheTotal TranchePosition.principal id tranche = loan.funded tranche ∧
      loan.funded tranche ≤ loan.target tranche
  covered : ∀ asset, account.1.held asset ≤ account.1.ledger asset contract
  owed : ∀ id loan, account.1.loans.get id = some loan →
    account.1.trancheTotal loan.owed id .senior + account.1.trancheTotal loan.owed id .junior ≤
      loan.held
  senior : ∀ id loan, account.1.loans.get id = some loan →
    paidTo (receiptsOf account.2 id) .senior ≤ min loan.repaid loan.seniorDue
  junior : ∀ id loan, account.1.loans.get id = some loan →
    paidTo (receiptsOf account.2 id) .junior ≤ loan.excess
  once : ∀ id loan lender tranche, account.1.loans.get id = some loan →
    let paid := received (receiptsOf account.2 id) lender tranche
    paid = [] ∨ loan.Settled ∧ paid = [loan.share (getPosition account.1 id lender tranche)]

variable {account next : State Address × List (Receipt Address)} {id : Nat}
  {loan updated : Loan Address} {receipts : List (Receipt Address)}

omit [DecidableEq Address] in
theorem receiptsOf_cons_of_ne {receipt : Receipt Address} (ne : id ≠ receipt.loanId) :
    receiptsOf (receipt :: receipts) id = receiptsOf receipts id := by
  rw [receiptsOf_cons, if_neg ne.symm]

theorem Books.rewrite (books : Books contract account) (got : account.1.loans.get id = some loan)
    (loans : next.1.loans = account.1.loans.set id updated)
    (count : next.1.loanCount = account.1.loanCount)
    (initialized : next.1.initialized = account.1.initialized) (unlocked : next.1.locked = false)
    (positions : ∀ key : Nat × Address × Tranche, key.1 ≠ id →
      next.1.positions.get key = account.1.positions.get key) (keyed : next.1.Keyed)
    (receipts : ∀ other, other ≠ id → receiptsOf next.2 other = receiptsOf account.2 other)
    (asset : updated.asset = loan.asset)
    (shifted : Shifts contract loan.asset (updated.held - loan.held) account.1.ledger next.1.ledger)
    (book : LoanBooks next.1 (receiptsOf next.2 id) id updated) : Books contract next where
  unlocked := unlocked
  initialized other found atOther := by
    rw [initialized]
    exact books.initialized id loan got
  keyed := keyed
  loans other found atOther := by
    rw [loans, get_set] at atOther
    split at atOther
    · next same =>
      cases atOther
      rw [same]
      exact book
    · next ne =>
      rw [receipts other ne]
      exact (books.loans other found atOther).congr count.ge
        fun lender tranche => positions (other, lender, tranche) ne
  unopened other gone := by
    rw [loans, get_set] at gone
    split at gone
    · cases gone
    · next ne =>
      rw [receipts other ne]
      obtain ⟨noPositions, noReceipts⟩ := books.unopened other gone
      refine ⟨fun lender tranche => ?_, noReceipts⟩
      exact (positions (other, lender, tranche) ne).trans (noPositions lender tranche)
  covered read := by
    have covered := books.covered read
    unfold State.held at covered ⊢
    rw [loans, total_set_of_stored _ got, shifted read, asset]
    by_cases same : loan.asset = read
    · rw [if_pos same, if_pos same, if_pos same.symm]
      omega
    · rw [if_neg same, if_neg same, if_neg (Ne.symm same)]
      omega

variable {state : State Address}

section

variable (books : Books contract (state, receipts))
include books

theorem Books.opened (loan : Loan Address) (initialized : state.initialized = true)
    (fresh : loan.id = state.loanCount + 1) (status : loan.status = .funding)
    (seniorTarget : 0 < loan.seniorTarget) (juniorTarget : 0 < loan.juniorTarget)
    (principalTarget : loan.principalTarget = loan.seniorTarget + loan.juniorTarget)
    (targetFits : loan.principalTarget ≤ i128Max) (seniorFunded : loan.seniorFunded = 0)
    (juniorFunded : loan.juniorFunded = 0) (repaid : loan.repaid = 0)
    (totalClaimed : loan.totalClaimed = 0) :
    Books contract (setLoan { state with loanCount := state.loanCount + 1 } loan, receipts) := by
  have gone : state.loans.get loan.id = none := by
    cases got : state.loans.get loan.id with
    | none => rfl
    | some other =>
      have counted := (books.loans loan.id other got).counted
      dsimp only at counted
      omega
  obtain ⟨noPositions, noReceipts⟩ := books.unopened loan.id gone
  have targets : ∀ tranche, 0 < loan.target tranche := by
    intro tranche
    cases tranche with
    | senior => exact seniorTarget
    | junior => exact juniorTarget
  have funded : ∀ tranche, loan.funded tranche = 0 := by
    intro tranche
    cases tranche with
    | senior => exact seniorFunded
    | junior => exact juniorFunded
  have held : loan.held = 0 := by
    unfold Loan.held
    rw [status]
    dsimp only
    omega
  refine { books with
    initialized := fun _ _ _ => initialized
    loans := fun id found got => ?_
    unopened := fun id unopened => ?_
    covered := fun asset => ?_ }
  · change (state.loans.set loan.id loan).get id = some found at got
    rw [get_set] at got
    split at got
    · next same =>
      cases got
      rw [same, noReceipts]
      exact LoanBooks.fresh noPositions rfl fresh.le status targets principalTarget targetFits
        funded repaid totalClaimed
    · exact (books.loans id found got).congr (Nat.le_succ _) fun _ _ => rfl
  · change (state.loans.set loan.id loan).get id = none at unopened
    rw [get_set] at unopened
    split at unopened
    · cases unopened
    · exact books.unopened id unopened
  · have covered := books.covered asset
    change (state.loans.set loan.id loan).total _ ≤ _
    rw [total_set_of_absent _ _ _ gone, held, ite_self, Int.zero_add]
    exact covered

theorem Books.restate {next : State Address}
    (updated : Loan Address) (got : state.loans.get id = some loan)
    (sameId : updated.id = loan.id) (loans : next.loans = state.loans.set updated.id updated)
    (positions : next.positions = state.positions) (count : next.loanCount = state.loanCount)
    (initialized : next.initialized = state.initialized) (unlocked : next.locked = false)
    (asset : updated.asset = loan.asset)
    (shifted : Shifts contract loan.asset (updated.held - loan.held) state.ledger next.ledger)
    (book : LoanBooks state (receiptsOf receipts id) id updated) :
    Books contract (next, receipts) := by
  rw [sameId, (books.loans id loan got).named] at loans
  refine books.rewrite got loans count initialized unlocked ?_ ?_ (fun _ _ => rfl) asset
    shifted (book.congr count.ge ?_)
  · intro other _
    exact congrArg (·.get other) positions
  · unfold State.Keyed
    rw [positions]
    exact books.keyed
  · intro lender tranche
    exact congrArg (·.get (id, lender, tranche)) positions

theorem Books.settle {next : State Address} {more : List (Receipt Address)} {lender : Address}
    {tranche : Tranche} (updated : Loan Address) (position : TranchePosition Address)
    (got : state.loans.get id = some loan)
    (key : (position.loanId, position.lender, position.tranche) = (id, lender, tranche))
    (sameId : updated.id = loan.id) (loans : next.loans = state.loans.set updated.id updated)
    (wrote : next.positions =
      state.positions.set (position.loanId, position.lender, position.tranche) position)
    (count : next.loanCount = state.loanCount) (initialized : next.initialized = state.initialized)
    (unlocked : next.locked = false)
    (others : ∀ other, other ≠ id → receiptsOf more other = receiptsOf receipts other)
    (asset : updated.asset = loan.asset)
    (shifted : Shifts contract loan.asset (updated.held - loan.held) state.ledger next.ledger)
    (book : next.positions = state.positions.set (id, lender, tranche) position →
      LoanBooks next (receiptsOf more id) id updated) : Books contract (next, more) := by
  rw [key] at wrote
  rw [sameId, (books.loans id loan got).named] at loans
  refine books.rewrite got loans count initialized unlocked ?_ ?_ others asset shifted
    (book wrote)
  · intro other ne
    rw [wrote]
    exact get_set_of_ne _ _ fun same => ne (congrArg Prod.fst same)
  · unfold State.Keyed
    rw [wrote]
    exact forall_set books.keyed key

end

variable {next : State Address} {call : Env Address contract × Operation Address}

section

omit [DecidableEq Address]

theorem follow_of_unclaimed (unclaimed : call.2.Unclaimed) :
    follow state call next receipts = receipts := by
  unfold follow
  split
  · next lender loanId code same => exact absurd same (unclaimed lender loanId code)
  · rfl

theorem follow_claim {env : Env Address contract} {lender : Address} {loanId code : Nat}
    {tranche : Tranche} {loan : Loan Address} {amount : Int}
    (named : parseTranche code = .ok tranche) (got : state.loans.get loanId = some loan)
    (moved : (next.ledger loan.asset lender : Int) = state.ledger loan.asset lender + amount) :
    follow state (env, .claim lender loanId code) next receipts =
      { loanId, lender, tranche, amount } :: receipts := by
  unfold follow
  dsimp only
  rw [got, named]
  dsimp only
  rw [moved, add_sub_cancel_left]

end

theorem books_effect (books : Books contract (state, receipts))
    (effect : Effect contract state call.2 next) :
    Books contract (next, follow state call next receipts) := by
  obtain ⟨_, _⟩ := call
  have key := books.getPosition_key
  cases effect with
  | idle _ _ initialized _ unclaimed stays =>
    rw [follow_of_unclaimed unclaimed]
    exact { books with
      initialized := fun id loan got => stays (books.initialized id loan got)
      loans := fun id loan got =>
        (books.loans id loan got).congr le_rfl fun _ _ => rfl }
  | opened _ loan unclaimed initialized fresh status seniorTarget juniorTarget principalTarget fits
      seniorFunded juniorFunded repaid totalClaimed =>
    rw [follow_of_unclaimed unclaimed]
    exact books.opened loan initialized fresh status seniorTarget juniorTarget principalTarget
      fits seniorFunded juniorFunded repaid totalClaimed
  | funded lender loanId _ amount newFunded principal tranche loan _ got status pos fits
      grown within added moved =>
    have book := books.loans loanId loan got
    obtain ⟨sameId, sameAsset, sameStatus, -⟩ :=
      withFunded_frame loan tranche newFunded
    subst added
    refine books.settle (withFunded loan newFunded tranche)
      { getPosition state loanId lender tranche with
        principal := (getPosition state loanId lender tranche).principal + amount } got
      (key loanId lender tranche) sameId rfl rfl rfl rfl rfl (fun _ _ => rfl) sameAsset ?_
      fun wrote => book.fund status pos fits grown within rfl wrote
    have held : (withFunded loan newFunded tranche).held - loan.held = amount := by
      unfold Loan.held
      rw [sameStatus, status]
      cases tranche with
      | senior =>
        dsimp only [withFunded]
        unfold trancheFunding at grown
        dsimp only at grown
        omega
      | junior =>
        dsimp only [withFunded]
        unfold trancheFunding at grown
        dsimp only at grown
        omega
    rw [held]
    exact moved
  | drawn loanId loan _ got status senior junior paid =>
    have book := books.loans loanId loan got
    have filled : ∀ tranche, loan.funded tranche = loan.target tranche := by
      intro tranche
      cases tranche with
      | senior => exact senior
      | junior => exact junior
    refine books.restate { loan with status := .active } got rfl rfl rfl rfl rfl rfl rfl ?_
      (book.restate (.inl status) book.repaid book.repaidFits (fun _ _ => filled) nofun)
    have held : Loan.held { loan with status := .active } - loan.held = -loan.principalTarget := by
      unfold Loan.held
      rw [status]
      dsimp only
      rw [book.unserviced status, book.principalTarget]
      omega
    exact held ▸ paid
  | serviced _ loanId _ actual repaid status loan _ got active _ fits _ moves moved =>
    have book := books.loans loanId loan got
    have live : loan.status = .funding ∨ loan.status = .active := .inr active
    have filled : ∀ tranche, loan.funded tranche = loan.target tranche :=
      book.filled (by rw [active]; nofun) (by rw [active]; nofun)
    have nonneg : 0 ≤ repaid := by
      have before := book.repaid
      omega
    have unfunding : status ≠ .funding := by
      rcases moves with rfl | rfl <;> nofun
    refine books.restate { loan with repaid, status } got rfl rfl rfl rfl rfl rfl rfl ?_
      (book.restate live nonneg fits (fun _ _ => filled) fun funding =>
        absurd funding unfunding)
    have held : Loan.held { loan with repaid, status } - loan.held = actual := by
      have unclaimed := book.totalClaimed_eq_zero live
      unfold Loan.held
      rw [active]
      rcases moves with rfl | rfl <;> dsimp only <;> omega
    exact held ▸ moved
  | closed _ loanId loan status unclaimed got moves =>
    rw [follow_of_unclaimed unclaimed]
    have book := books.loans loanId loan got
    have live : loan.status = .funding ∨ loan.status = .active := by
      rcases moves with ⟨active, -⟩ | ⟨funding, -⟩
      · exact .inr active
      · exact .inl funding
    have unfunding : status ≠ .funding := by
      rcases moves with ⟨-, rfl⟩ | ⟨-, rfl⟩ <;> nofun
    have filled : status ≠ .funding → status ≠ .cancelled →
        ∀ tranche, loan.funded tranche = loan.target tranche := by
      intro _ uncancelled
      rcases moves with ⟨active, -⟩ | ⟨-, cancelled⟩
      · exact book.filled (by rw [active]; nofun) (by rw [active]; nofun)
      · exact absurd cancelled uncancelled
    refine books.restate { loan with status } got rfl rfl rfl rfl rfl books.unlocked rfl ?_
      (book.restate live book.repaid book.repaidFits filled fun funding =>
        absurd funding unfunding)
    have held : Loan.held { loan with status } - loan.held = 0 := by
      have unclaimed := book.totalClaimed_eq_zero live
      unfold Loan.held
      rcases moves with ⟨before, rfl⟩ | ⟨before, rfl⟩ <;> rw [before] <;> dsimp only <;> omega
    intro read
    rw [held, ite_self]
    exact (Int.add_zero _).symm
  | refunded lender loanId _ refund tranche loan _ got status owed _ paid =>
    have book := books.loans loanId loan got
    refine books.settle { loan with totalClaimed := loan.totalClaimed + refund }
      { getPosition state loanId lender tranche with
        claimed := (getPosition state loanId lender tranche).principal } got
      (key loanId lender tranche) rfl rfl rfl rfl rfl rfl (fun _ _ => rfl) rfl ?_
      fun wrote => book.refund status owed rfl wrote
    have held : Loan.held { loan with totalClaimed := loan.totalClaimed + refund } - loan.held =
        -refund := by
      unfold Loan.held
      rw [status]
      dsimp only
      omega
    exact held ▸ paid
  | claimed lender loanId _ amount tranche loan _ named got settled owed pos paid moved =>
    have book := books.loans loanId loan got
    rw [follow_claim named got moved]
    refine books.settle { loan with totalClaimed := loan.totalClaimed + amount }
      { getPosition state loanId lender tranche with
        claimed := (getPosition state loanId lender tranche).claimed + amount } got
      (key loanId lender tranche) rfl rfl rfl rfl rfl rfl
      (fun _ ne => receiptsOf_cons_of_ne ne) rfl ?_ fun wrote => ?_
    · have held : Loan.held { loan with totalClaimed := loan.totalClaimed + amount } - loan.held =
          -amount := by
        unfold Loan.held
        rcases settled with status | status <;> rw [status] <;> dsimp only <;> omega
      exact held ▸ paid
    · rw [receiptsOf_cons, if_pos rfl]
      exact book.claim settled pos owed rfl wrote
  | transferred _ _ _ _ _ kept =>
    exact { books with
      loans := fun id loan got =>
        (books.loans id loan got).congr le_rfl fun _ _ => rfl
      covered := fun asset => (books.covered asset).trans (Int.ofNat_le.mpr (kept asset)) }

section

variable (book : LoanBooks state receipts id loan)
include book

theorem LoanBooks.allocation_nonneg (tranche : Tranche) : 0 ≤ loan.allocation tranche :=
  loan.allocation_nonneg book.repaid (book.targets .senior).le (book.targets .junior).le tranche

section

variable (settled : loan.Settled)
include settled

theorem Loan.Settled.funded_pos (tranche : Tranche) : 0 < loan.funded tranche := by
  have filled : loan.funded tranche = loan.target tranche := by
    rcases settled with status | status <;>
      exact book.filled (by rw [status]; nofun) (by rw [status]; nofun) tranche
  rw [filled]
  exact book.targets tranche

theorem LoanBooks.shares_le (keyed : state.Keyed) (tranche : Tranche) :
    state.trancheTotal loan.share id tranche ≤ loan.allocation tranche := by
  have pos := settled.funded_pos book tranche
  have parts : state.trancheTotal loan.share id tranche =
      state.trancheTotal (fun position =>
        loan.allocation tranche * position.principal / loan.funded tranche) id tranche := by
    refine FiniteMap.groupTotal_congr fun key position got inGroup => ?_
    have named : position.tranche = tranche := by
      have same := keyed key position got
      rw [← same] at inGroup
      exact congrArg Prod.snd inGroup
    unfold Loan.share
    rw [named]
  have bound : state.trancheTotal (fun position =>
      loan.allocation tranche * position.principal / loan.funded tranche) id tranche ≤
        loan.allocation tranche * state.trancheTotal TranchePosition.principal id tranche /
          loan.funded tranche :=
    FiniteMap.groupTotal_parts_le (loan.allocation tranche) pos
  rw [parts]
  rwa [book.principal tranche, Int.mul_ediv_cancel _ pos.ne'] at bound

theorem LoanBooks.share_nonneg {position : TranchePosition Address}
    (principal : 0 ≤ position.principal) : 0 ≤ loan.share position :=
  Int.ediv_nonneg (mul_nonneg (book.allocation_nonneg _) principal) (settled.funded_pos book _).le

theorem LoanBooks.claimed_le_share (lender : Address) (tranche : Tranche) :
    (getPosition state id lender tranche).claimed ≤
      loan.share (getPosition state id lender tranche) := by
  have records := book.positions lender tranche
  obtain ⟨sum, nothing | share⟩ := records.settled settled
  · rw [nothing, List.sum_nil] at sum
    exact sum.trans_le (book.share_nonneg settled records.principal)
  · rw [share, List.sum_singleton] at sum
    exact sum.le

theorem LoanBooks.claimed_le_allocation (keyed : state.Keyed) (tranche : Tranche) :
    state.trancheTotal TranchePosition.claimed id tranche ≤ loan.allocation tranche :=
  (trancheTotal_mono fun lender => book.claimed_le_share settled lender tranche).trans
    (book.shares_le settled keyed tranche)

end

theorem LoanBooks.paidTo_le (keyed : state.Keyed)
    (tranche : Tranche) : paidTo receipts tranche ≤ loan.allocation tranche := by
  rw [book.paid tranche]
  split
  · next settled => exact book.claimed_le_allocation settled keyed tranche
  · exact book.allocation_nonneg tranche

end

omit [DecidableEq Address] in
theorem trancheTotal_sub (state : State Address) (first second : TranchePosition Address → Int)
    (tranche : Tranche) :
    state.trancheTotal (fun position => first position - second position) id tranche =
      state.trancheTotal first id tranche - state.trancheTotal second id tranche :=
  FiniteMap.groupTotal_sub _ _ _ _ _

theorem LoanBooks.owed_undrawn (book : LoanBooks state receipts id loan)
    (undrawn : loan.status = .funding ∨ loan.status = .cancelled) (tranche : Tranche) :
    state.trancheTotal loan.owed id tranche =
      loan.funded tranche - state.trancheTotal TranchePosition.claimed id tranche := by
  rw [← book.principal tranche, ← trancheTotal_sub]
  unfold Loan.owed
  rcases undrawn with status | status <;> rw [status]

theorem Loan.owed_active (active : loan.status = .active) (tranche : Tranche) :
    state.trancheTotal loan.owed id tranche = 0 := by
  refine trancheTotal_eq_zero fun lender position _ => ?_
  unfold Loan.owed
  rw [active]

theorem LoanBooks.owed_settled (book : LoanBooks state receipts id loan) (keyed : state.Keyed)
    (settled : loan.Settled) (tranche : Tranche) :
    state.trancheTotal loan.owed id tranche ≤
      loan.allocation tranche - state.trancheTotal TranchePosition.claimed id tranche := by
  have same : state.trancheTotal loan.owed id tranche = state.trancheTotal
      (fun position => loan.share position - position.claimed) id tranche := by
    unfold Loan.owed
    rcases settled with status | status <;> rw [status]
  rw [same, trancheTotal_sub]
  exact sub_le_sub_right (book.shares_le settled keyed tranche) _

omit [DecidableEq Address] in
theorem Loan.held_of_settled (settled : loan.Settled) :
    loan.held = loan.repaid - loan.totalClaimed := by
  unfold Loan.held
  rcases settled with status | status <;> rw [status]

theorem LoanBooks.owed_le_held (book : LoanBooks state receipts id loan) (keyed : state.Keyed) :
    state.trancheTotal loan.owed id .senior + state.trancheTotal loan.owed id .junior ≤
      loan.held := by
  have claimed := book.claimed
  have settled : loan.Settled → state.trancheTotal loan.owed id .senior +
      state.trancheTotal loan.owed id .junior ≤ loan.held := by
    intro settled
    have senior := book.owed_settled keyed settled .senior
    have junior := book.owed_settled keyed settled .junior
    have allocation := loan.allocation_le
    rw [Loan.held_of_settled settled]
    omega
  have undrawn : loan.status = .funding ∨ loan.status = .cancelled →
      state.trancheTotal loan.owed id .senior + state.trancheTotal loan.owed id .junior =
        loan.seniorFunded + loan.juniorFunded - loan.totalClaimed := by
    intro undrawn
    have senior : loan.funded .senior = loan.seniorFunded := rfl
    have junior : loan.funded .junior = loan.juniorFunded := rfl
    rw [book.owed_undrawn undrawn, book.owed_undrawn undrawn]
    omega
  cases status : loan.status with
  | funding =>
    have unclaimed := book.totalClaimed_eq_zero (.inl status)
    rw [undrawn (.inl status), unclaimed, Int.sub_zero]
    unfold Loan.held
    rw [status]
  | cancelled =>
    rw [undrawn (.inr status)]
    unfold Loan.held
    rw [status]
  | active =>
    rw [Loan.owed_active status, Loan.owed_active status]
    unfold Loan.held
    rw [status]
    exact book.repaid
  | repaid => exact settled (.inl status)
  | defaulted => exact settled (.inr status)

theorem LoanBooks.owed_nonneg (book : LoanBooks state receipts id loan) (lender : Address)
    (tranche : Tranche) : 0 ≤ loan.owed (getPosition state id lender tranche) := by
  have records := book.positions lender tranche
  have principal := records.principal
  have settled : loan.Settled → 0 ≤ loan.share (getPosition state id lender tranche) -
      (getPosition state id lender tranche).claimed :=
    fun settled => sub_nonneg.mpr (book.claimed_le_share settled lender tranche)
  unfold Loan.owed
  cases status : loan.status with
  | funding =>
    have unclaimed := records.live (.inl status)
    dsimp only
    omega
  | cancelled =>
    dsimp only
    rcases records.refunded status with _ | _ <;> omega
  | active => exact le_rfl
  | repaid => exact settled (.inl status)
  | defaulted => exact settled (.inr status)

omit [DecidableEq Address] in
theorem Loan.owed_empty (lender : Address) (tranche : Tranche) :
    loan.owed { loanId := id, lender, tranche, principal := 0, claimed := 0 } = 0 := by
  unfold Loan.owed Loan.share
  cases loan.status <;> simp

theorem LoanBooks.owed_le (book : LoanBooks state receipts id loan) (keyed : state.Keyed)
    (lender : Address) (tranche : Tranche) :
    loan.owed (getPosition state id lender tranche) ≤ loan.held := by
  have one : loan.owed (getPosition state id lender tranche) ≤ _ :=
    weight_le_trancheTotal (Loan.owed_empty lender tranche) fun holder =>
      book.owed_nonneg holder tranche
  have all := book.owed_le_held keyed
  have senior : 0 ≤ state.trancheTotal loan.owed id .senior :=
    trancheTotal_nonneg fun lender => book.owed_nonneg lender .senior
  have junior : 0 ≤ state.trancheTotal loan.owed id .junior :=
    trancheTotal_nonneg fun lender => book.owed_nonneg lender .junior
  cases tranche <;> omega

theorem LoanBooks.held_nonneg (book : LoanBooks state receipts id loan) (keyed : state.Keyed) :
    0 ≤ loan.held := by
  have all := book.owed_le_held keyed
  have senior : 0 ≤ state.trancheTotal loan.owed id .senior :=
    trancheTotal_nonneg fun lender => book.owed_nonneg lender .senior
  have junior : 0 ≤ state.trancheTotal loan.owed id .junior :=
    trancheTotal_nonneg fun lender => book.owed_nonneg lender .junior
  omega

theorem Books.owed_le_balance (books : Books contract (state, receipts))
    (got : state.loans.get id = some loan) (lender : Address) (tranche : Tranche) :
    loan.owed (getPosition state id lender tranche) ≤ state.ledger loan.asset contract := by
  have held : ∀ other found, state.loans.get other = some found →
      (0 : Int) ≤ if found.asset = loan.asset then found.held else 0 := by
    intro other found atOther
    split
    · exact (books.loans other found atOther).held_nonneg books.keyed
    · exact le_rfl
  have part : loan.held ≤ state.held loan.asset := by
    have bound := weight_le_total held got
    rwa [if_pos rfl] at bound
  exact ((books.loans id loan got).owed_le books.keyed lender tranche).trans
    (part.trans (books.covered loan.asset))

variable {tokens : TokenHost Address} {env : Env Address contract} {lender : Address} {code : Nat}
  {tranche : Tranche}

section

omit [DecidableEq Address]

theorem Loan.owed_of_cancelled (status : loan.status = .cancelled)
    (position : TranchePosition Address) :
    loan.owed position = position.principal - position.claimed := by
  unfold Loan.owed
  rw [status]

theorem Loan.owed_of_settled (settled : loan.Settled) (position : TranchePosition Address) :
    loan.owed position = loan.share position - position.claimed := by
  unfold Loan.owed
  rcases settled with status | status <;> rw [status]

end

variable {amount : Int}

theorem exists_paid {ledger : TokenLedger Address} {token destination : Address}
    (paid : (tokens.transfer ledger token contract destination amount).isSome) :
    ∃ next, (tokens.pay ledger token contract destination amount : Outcome Error _) = .ok next := by
  obtain ⟨next, moved⟩ := Option.isSome_iff_exists.mp paid
  refine ⟨next, ?_⟩
  unfold TokenHost.pay
  rw [moved]

theorem LoanBooks.totalClaimed_fits (book : LoanBooks state receipts id loan) (keyed : state.Keyed)
    (closed : loan.status = .cancelled ∨ loan.Settled) (lender : Address) (tranche : Tranche) :
    0 ≤ loan.totalClaimed ∧
      loan.totalClaimed + loan.owed (getPosition state id lender tranche) ≤ i128Max := by
  have nonneg : ∀ tranche holder, 0 ≤ (getPosition state id holder tranche).claimed := by
    intro tranche holder
    have records := book.positions holder tranche
    rcases closed with status | settled
    · rcases records.refunded status with zero | all
      · exact zero.ge
      · exact all.symm ▸ records.principal
    · obtain ⟨sum, nothing | share⟩ := records.settled settled
      · rw [sum, nothing, List.sum_nil]
      · rw [sum, share, List.sum_singleton]
        exact book.share_nonneg settled records.principal
  have senior := trancheTotal_nonneg (nonneg .senior)
  have junior := trancheTotal_nonneg (nonneg .junior)
  have claimed := book.claimed
  have owed := book.owed_le keyed lender tranche
  rcases closed with status | settled
  · have seniorWithin : loan.seniorFunded ≤ loan.seniorTarget := book.within .senior
    have juniorWithin : loan.juniorFunded ≤ loan.juniorTarget := book.within .junior
    have total := book.principalTarget
    have fits := book.targetFits
    unfold Loan.held at owed
    rw [status] at owed
    dsimp only at owed
    omega
  · have fits := book.repaidFits
    rw [Loan.held_of_settled settled] at owed
    omega

theorem Books.refund_succeeds (books : Books contract (state, receipts))
    (signed : lender ∈ env.auths) (named : parseTranche code = .ok tranche)
    (got : state.loans.get id = some loan) (status : loan.status = .cancelled)
    (pos : 0 < loan.owed (getPosition state id lender tranche))
    (paid : (tokens.transfer state.ledger loan.asset contract lender
      (loan.owed (getPosition state id lender tranche))).isSome) :
    ∃ next, claimRefund tokens env lender id code state =
      .ok (loan.owed (getPosition state id lender tranche), next) := by
  have book := books.loans id loan got
  obtain ⟨_, most⟩ := book.totalClaimed_fits books.keyed (.inl status) lender tranche
  obtain ⟨ledger, moved⟩ := exists_paid paid
  have lowest : i128Min ≤ 0 := by decide
  dsimp only at most
  have fits : InI128 (loan.owed (getPosition state id lender tranche)) :=
    ⟨lowest.trans pos.le, by omega⟩
  have totalFits : InI128 (loan.totalClaimed + loan.owed (getPosition state id lender tranche)) :=
    ⟨lowest.trans (by omega), most⟩
  rw [Loan.owed_of_cancelled status] at pos fits totalFits moved ⊢
  simp only [claimRefund, ensureInitialized, getLoan, enter, call_ok, arith_ok]
  exact ⟨_, books.initialized id loan got, signed, tranche, named, loan, got, status, fits,
    not_le.mpr pos, books.unlocked, totalFits, ledger, moved,
    rfl, rfl⟩

theorem Books.claim_succeeds (books : Books contract (state, receipts))
    (signed : lender ∈ env.auths) (named : parseTranche code = .ok tranche)
    (got : state.loans.get id = some loan) (settled : loan.Settled)
    (claimable : positionClaim loan (getPosition state id lender tranche) = .ok amount)
    (pos : 0 < amount)
    (paid : (tokens.transfer state.ledger loan.asset contract lender amount).isSome) :
    ∃ next, claim tokens env lender id code state = .ok (amount, next) := by
  have book := books.loans id loan got
  obtain ⟨_, most⟩ := book.totalClaimed_fits books.keyed (.inr settled) lender tranche
  obtain ⟨-, unclaimed, -⟩ := book.claim_owed settled pos claimable
  obtain ⟨ledger, moved⟩ := exists_paid paid
  have lowest : i128Min ≤ 0 := by decide
  rw [Loan.owed_of_settled settled, ← positionClaim_eq_ok claimable pos] at most
  have fits : InI128 ((getPosition state id lender tranche).claimed + amount) := by
    rw [unclaimed, Int.zero_add]
    exact ⟨lowest.trans pos.le, by omega⟩
  have totalFits : InI128 (loan.totalClaimed + amount) :=
    ⟨lowest.trans (by omega), most⟩
  have status : ¬ (loan.status ≠ .repaid ∧ loan.status ≠ .defaulted) := by
    rcases settled with status | status <;> rw [status] <;> decide
  simp only [claim, ensureInitialized, getLoan, enter, call_ok, arith_ok]
  exact ⟨_, books.initialized id loan got, signed, tranche, named, loan, got, status, amount,
    claimable, not_le.mpr pos, books.unlocked, fits, totalFits,
    ledger, moved, rfl, rfl⟩

variable (tokens : TokenHost Address)

/-- A refund or claim is covered by the balance and goes through when the token lets the contract
pay; a claim pays the lender's share. -/
structure Payable (contract : Address) (state : State Address) : Prop where
  refund : ∀ (env : Env Address contract) lender id code tranche loan,
    let refund := (getPosition state id lender tranche).principal -
      (getPosition state id lender tranche).claimed
    lender ∈ env.auths → parseTranche code = .ok tranche → state.loans.get id = some loan →
    loan.status = .cancelled → 0 < refund →
    refund ≤ state.ledger loan.asset contract ∧
      ((tokens.transfer state.ledger loan.asset contract lender refund).isSome →
        ∃ next, claimRefund tokens env lender id code state = .ok (refund, next))
  claim : ∀ (env : Env Address contract) lender id code tranche loan amount,
    lender ∈ env.auths → parseTranche code = .ok tranche → state.loans.get id = some loan →
    loan.Settled → positionClaim loan (getPosition state id lender tranche) = .ok amount →
    0 < amount →
    amount = loan.share (getPosition state id lender tranche) ∧
      amount ≤ state.ledger loan.asset contract ∧
      ((tokens.transfer state.ledger loan.asset contract lender amount).isSome →
        ∃ next, claim tokens env lender id code state = .ok (amount, next))

/-- The contract beside whose state the receipts are kept. -/
def receiptMachine (contract : Address) :
    CallMachine (State Address × List (Receipt Address))
      (Env Address contract × Operation Address) (Failure Error) :=
  (machine tokens contract).withGhost follow

variable {tokens}

theorem books_empty (ledger : TokenLedger Address) :
    Books contract (({ ledger } : State Address), []) where
  unlocked := rfl
  initialized id loan got := by cases (get_empty id).symm.trans got
  keyed key position got := by cases (get_empty key).symm.trans got
  loans id loan got := by cases (get_empty id).symm.trans got
  unopened _ _ := ⟨fun _ _ => rfl, rfl⟩
  covered asset := by
    exact Int.natCast_nonneg _

theorem books_step (account : State Address × List (Receipt Address))
    (call : Env Address contract × Operation Address)
    (next : State Address × List (Receipt Address)) (books : Books contract account)
    (ran : (receiptMachine tokens contract).exec account call = .ok next) : Books contract next :=
  withGhost_step ran fun _ done => books_effect books (dispatch_effect done)

theorem Books.waterfallHolds {account : State Address × List (Receipt Address)}
    (books : Books contract account) : WaterfallHolds contract account where
  principal id loan tranche got :=
    ⟨(books.loans id loan got).principal tranche, (books.loans id loan got).within tranche⟩
  covered := books.covered
  owed id loan got := (books.loans id loan got).owed_le_held books.keyed
  senior id loan got := (books.loans id loan got).paidTo_le books.keyed .senior
  junior id loan got :=
    ((books.loans id loan got).paidTo_le books.keyed .junior).trans (min_le_left _ _)
  once id loan lender tranche got := by
    have records := (books.loans id loan got).positions lender tranche
    by_cases settled : loan.Settled
    · rcases (records.settled settled).2 with nothing | share
      · exact .inl nothing
      · exact .inr ⟨settled, share⟩
    · exact .inl (records.unpaid settled)

theorem Books.payable {state : State Address} {receipts : List (Receipt Address)}
    (books : Books contract (state, receipts)) : Payable tokens contract state where
  refund := by
    intro env lender id code tranche loan refund signed named got status pos
    have owed : loan.owed (getPosition state id lender tranche) = refund :=
      Loan.owed_of_cancelled status _
    rw [← owed] at pos ⊢
    exact ⟨books.owed_le_balance got lender tranche,
      books.refund_succeeds signed named got status pos⟩
  claim env lender id code tranche loan amount signed named got settled claimable pos := by
    have owed : loan.owed (getPosition state id lender tranche) = amount :=
      (Loan.owed_of_settled settled _).trans (positionClaim_eq_ok claimable pos).symm
    refine ⟨((books.loans id loan got).claim_owed settled pos claimable).2.2, ?_,
      books.claim_succeeds signed named got settled claimable pos⟩
    rw [← owed]
    exact books.owed_le_balance got lender tranche

variable (tokens)

end SorobanPlayground.LoanSyndication
