import SorobanPlayground.Library.GroupedTotals
import SorobanPlayground.LoanSyndication.Effects
import SorobanPlayground.LoanSyndication.Entitlements

/-! # The books of a syndication

Beside the state runs a list of receipts, one for each claim that was paid. The books
say loan by loan what its positions add up to and what its lenders have received, and
that the contract holds of each asset what its loans still hold.
-/

namespace SorobanPlayground.LoanSyndication

open List

variable {Address : Type} [DecidableEq Address] {contract : Address}

/-- A claim that was paid. -/
structure Receipt (Address : Type) where
  loanId : Nat
  lender : Address
  tranche : Tranche
  amount : Int

/-- A claim adds a receipt of what the lender's balance has grown by. -/
def follow (state : State Address) (call : Env Address contract × Operation Address)
    (next : State Address) (receipts : List (Receipt Address)) : List (Receipt Address) :=
  match call.2 with
  | .claim lender loanId code =>
      match state.loans.get loanId, parseTranche code with
      | some loan, .ok tranche =>
          let amount : Int := next.ledger loan.asset lender - state.ledger loan.asset lender
          { loanId, lender, tranche, amount } :: receipts
      | _, _ => receipts
  | _ => receipts

def receiptsOf (receipts : List (Receipt Address)) (loanId : Nat) : List (Receipt Address) :=
  receipts.filter fun receipt => receipt.loanId = loanId

/-- What a lender was paid by its claims on a tranche. -/
def received (receipts : List (Receipt Address)) (lender : Address) (tranche : Tranche) :
    List Int :=
  (receipts.filter fun receipt => receipt.lender = lender ∧ receipt.tranche = tranche).map
    Receipt.amount

/-- What all lenders of a tranche were paid by their claims. -/
def paidTo (receipts : List (Receipt Address)) (tranche : Tranche) : Int :=
  ((receipts.filter fun receipt => receipt.tranche = tranche).map Receipt.amount).sum

variable (receipt : Receipt Address) (receipts : List (Receipt Address))

omit [DecidableEq Address] in
theorem receiptsOf_cons (loanId : Nat) :
    receiptsOf (receipt :: receipts) loanId =
      if receipt.loanId = loanId then receipt :: receiptsOf receipts loanId
      else receiptsOf receipts loanId := by
  simp only [receiptsOf, filter_cons, decide_eq_true_eq]

theorem received_cons (lender : Address) (tranche : Tranche) :
    received (receipt :: receipts) lender tranche =
      if receipt.lender = lender ∧ receipt.tranche = tranche then
        receipt.amount :: received receipts lender tranche
      else received receipts lender tranche := by
  simp only [received, filter_cons, decide_eq_true_eq]
  split <;> rfl

omit [DecidableEq Address] in
theorem paidTo_cons (tranche : Tranche) :
    paidTo (receipt :: receipts) tranche =
      paidTo receipts tranche + if receipt.tranche = tranche then receipt.amount else 0 := by
  simp only [paidTo, filter_cons, decide_eq_true_eq]
  split
  · rw [map_cons, sum_cons, Int.add_comm]
  · rw [Int.add_zero]

/-- What the contract still holds for a loan. -/
def Loan.held (loan : Loan Address) : Int :=
  match loan.status with
  | .funding => loan.seniorFunded + loan.juniorFunded
  | .cancelled => loan.seniorFunded + loan.juniorFunded - loan.totalClaimed
  | .active => loan.repaid
  | .repaid | .defaulted => loan.repaid - loan.totalClaimed

/-- What a position may still take out: its principal before the loan is drawn, its share once it
is settled. -/
def Loan.owed (loan : Loan Address) (position : TranchePosition Address) : Int :=
  match loan.status with
  | .funding | .cancelled => position.principal - position.claimed
  | .active => 0
  | .repaid | .defaulted => loan.share position - position.claimed

/-- What the contract holds of an asset for all loans. -/
def State.held (state : State Address) (asset : Address) : Int :=
  state.loans.total fun _ loan => if loan.asset = asset then loan.held else 0

/-- The positions in a tranche of a loan, added up. -/
def State.trancheTotal (state : State Address) (weight : TranchePosition Address → Int)
    (loanId : Nat) (tranche : Tranche) : Int :=
  state.positions.groupTotal (fun key _ => (key.1, key.2.2)) weight (loanId, tranche)

/-- What a position and the receipts of its lender say of each other. -/
structure Loan.Records (loan : Loan Address) (position : TranchePosition Address)
    (received : List Int) : Prop where
  principal : 0 ≤ position.principal
  live : loan.status = .funding ∨ loan.status = .active → position.claimed = 0
  refunded : loan.status = .cancelled → position.claimed = 0 ∨ position.claimed = position.principal
  unpaid : ¬ loan.Settled → received = []
  settled : loan.Settled →
    position.claimed = received.sum ∧ (received = [] ∨ received = [loan.share position])

structure LoanBooks (state : State Address) (receipts : List (Receipt Address)) (id : Nat)
    (loan : Loan Address) : Prop where
  named : loan.id = id
  counted : id ≤ state.loanCount
  targets : ∀ tranche, 0 < loan.target tranche
  principalTarget : loan.principalTarget = loan.seniorTarget + loan.juniorTarget
  targetFits : loan.principalTarget ≤ i128Max
  principal : ∀ tranche, state.trancheTotal TranchePosition.principal id tranche =
    loan.funded tranche
  within : ∀ tranche, loan.funded tranche ≤ loan.target tranche
  fits : ∀ tranche, loan.funded tranche ≤ i128Max
  filled : loan.status ≠ .funding → loan.status ≠ .cancelled →
    ∀ tranche, loan.funded tranche = loan.target tranche
  repaid : 0 ≤ loan.repaid
  repaidFits : loan.repaid ≤ i128Max
  unserviced : loan.status = .funding → loan.repaid = 0
  claimed : state.trancheTotal TranchePosition.claimed id .senior +
    state.trancheTotal TranchePosition.claimed id .junior = loan.totalClaimed
  positions : ∀ lender tranche,
    loan.Records (getPosition state id lender tranche) (received receipts lender tranche)
  paid : ∀ tranche, paidTo receipts tranche =
    if loan.Settled then state.trancheTotal TranchePosition.claimed id tranche else 0

/-- The positions are stored under the keys that they name. -/
def State.Keyed (state : State Address) : Prop :=
  ∀ key position, state.positions.get key = some position →
    (position.loanId, position.lender, position.tranche) = key

structure Books (contract : Address) (account : State Address × List (Receipt Address)) :
    Prop where
  unlocked : account.1.locked = false
  initialized : ∀ id loan, account.1.loans.get id = some loan → account.1.initialized = true
  keyed : account.1.Keyed
  loans : ∀ id loan, account.1.loans.get id = some loan →
    LoanBooks account.1 (receiptsOf account.2 id) id loan
  unopened : ∀ id, account.1.loans.get id = none →
    (∀ lender tranche, account.1.positions.get (id, lender, tranche) = none) ∧
      receiptsOf account.2 id = []
  covered : ∀ asset, account.1.held asset ≤ account.1.ledger asset contract

variable {state next : State Address} {id : Nat} {lender : Address} {tranche : Tranche}
  {weight : TranchePosition Address → Int}

theorem trancheTotal_congr (same : ∀ lender tranche,
      next.positions.get (id, lender, tranche) = state.positions.get (id, lender, tranche)) :
    next.trancheTotal weight id tranche = state.trancheTotal weight id tranche := by
  unfold State.trancheTotal FiniteMap.groupTotal
  apply FiniteMap.total_of_same
  rintro ⟨other, lender, inTranche⟩
  by_cases here : other = id
  · rw [here, same]
  · have others : ∀ got : Option (TranchePosition Address),
        FiniteMap.weightAt (fun key value =>
          if (key.1, key.2.2) = (id, tranche) then weight value else 0)
          (other, lender, inTranche) got = 0 := by
      intro got
      cases got with
      | none => rfl
      | some => exact if_neg fun equal => here (congrArg Prod.fst equal)
    rw [others, others]

theorem trancheTotal_eq_zero
    (weightless : ∀ lender position, state.positions.get (id, lender, tranche) = some position →
      weight position = 0) : state.trancheTotal weight id tranche = 0 := by
  unfold State.trancheTotal FiniteMap.groupTotal
  apply total_eq_zero
  rintro ⟨_, lender, _⟩ position got
  split
  · next same =>
    cases same
    exact weightless lender position got
  · rfl

theorem getPosition_congr
    (same : next.positions.get (id, lender, tranche) = state.positions.get (id, lender, tranche)) :
    getPosition next id lender tranche = getPosition state id lender tranche := by
  unfold getPosition
  rw [same]

variable {position : TranchePosition Address}

theorem trancheTotal_set
    (positions : next.positions = state.positions.set (id, lender, tranche) position)
    (gone : weight { loanId := id, lender, tranche, principal := 0, claimed := 0 } = 0)
    (other : Tranche) :
    next.trancheTotal weight id other =
      state.trancheTotal weight id other +
        if other = tranche then weight position - weight (getPosition state id lender tranche)
        else 0 := by
  have sums : (state.positions.put (id, lender, tranche) (some position)).groupTotal
      (fun key _ => (key.1, key.2.2)) weight (id, other) = _ :=
    FiniteMap.groupTotal_put (fun _ _ => rfl) (fun _ _ => rfl) (id, other)
  have before : (state.positions.get (id, lender, tranche)).elim 0 weight =
      weight (getPosition state id lender tranche) := by
    unfold getPosition
    cases state.positions.get (id, lender, tranche) with
    | none => exact gone.symm
    | some => rfl
  rw [before] at sums
  unfold State.trancheTotal
  rw [positions]
  refine sums.trans (congrArg _ (if_congr ?_ rfl rfl))
  constructor
  · exact fun equal => congrArg Prod.snd equal
  · exact fun equal => congrArg (Prod.mk id) equal

theorem getPosition_set
    (positions : next.positions = state.positions.set (id, lender, tranche) position)
    (other : Address) (inTranche : Tranche) :
    getPosition next id other inTranche =
      if lender = other ∧ tranche = inTranche then position
      else getPosition state id other inTranche := by
  unfold getPosition
  rw [positions, get_set]
  by_cases same : lender = other ∧ tranche = inTranche
  · obtain ⟨rfl, rfl⟩ := same
    simp
  · rw [if_neg same, if_neg]
    rintro ⟨⟩
    exact same ⟨rfl, rfl⟩

theorem trancheTotal_mono {less more : TranchePosition Address → Int}
    (ordered : ∀ lender, less (getPosition state id lender tranche) ≤
      more (getPosition state id lender tranche)) :
    state.trancheTotal less id tranche ≤ state.trancheTotal more id tranche := by
  apply FiniteMap.groupTotal_mono
  rintro ⟨_, lender, _⟩ _ got same
  cases same
  have bound := ordered lender
  unfold getPosition at bound
  rwa [got] at bound

theorem trancheTotal_nonneg (nonneg : ∀ lender, 0 ≤ weight (getPosition state id lender tranche)) :
    0 ≤ state.trancheTotal weight id tranche := by
  have zero : state.trancheTotal (fun _ => 0) id tranche = 0 :=
    trancheTotal_eq_zero fun _ _ _ => rfl
  rw [← zero]
  exact trancheTotal_mono nonneg

theorem weight_le_trancheTotal
    (gone : weight { loanId := id, lender, tranche, principal := 0, claimed := 0 } = 0)
    (nonneg : ∀ holder, 0 ≤ weight (getPosition state id holder tranche)) :
    weight (getPosition state id lender tranche) ≤ state.trancheTotal weight id tranche := by
  have weights : ∀ key position, state.positions.get key = some position →
      (key.1, key.2.2) = (id, tranche) → 0 ≤ weight position := by
    rintro ⟨_, holder, _⟩ position got same
    cases same
    have weighed := nonneg holder
    unfold getPosition at weighed
    rwa [got] at weighed
  cases got : state.positions.get (id, lender, tranche) with
  | some position =>
    have bound : weight position ≤ state.trancheTotal weight id tranche :=
      FiniteMap.weight_le_groupTotal weights got rfl
    unfold getPosition
    rwa [got]
  | none =>
    unfold getPosition
    rw [got, Option.getD_none, gone]
    exact trancheTotal_nonneg nonneg

theorem Books.getPosition_key {account : State Address × List (Receipt Address)}
    (books : Books contract account) (id : Nat) (lender : Address) (tranche : Tranche) :
    ((getPosition account.1 id lender tranche).loanId,
      (getPosition account.1 id lender tranche).lender,
      (getPosition account.1 id lender tranche).tranche) = (id, lender, tranche) := by
  unfold getPosition
  cases got : account.1.positions.get (id, lender, tranche) with
  | none => rfl
  | some position => exact books.keyed _ position got

variable {receipts : List (Receipt Address)} {loan : Loan Address}

theorem LoanBooks.congr (book : LoanBooks state receipts id loan)
    (counted : state.loanCount ≤ next.loanCount) (same : ∀ lender tranche,
      next.positions.get (id, lender, tranche) = state.positions.get (id, lender, tranche)) :
    LoanBooks next receipts id loan := by
  refine { book with
    counted := book.counted.trans counted
    principal := fun tranche => ?_
    claimed := ?_
    positions := fun lender tranche => ?_
    paid := fun tranche => ?_ }
  · rw [trancheTotal_congr same]
    exact book.principal tranche
  · rw [trancheTotal_congr same, trancheTotal_congr same]
    exact book.claimed
  · rw [getPosition_congr (same lender tranche)]
    exact book.positions lender tranche
  · rw [trancheTotal_congr same]
    exact book.paid tranche

section

variable (live : loan.status = .funding ∨ loan.status = .active)
include live

theorem LoanBooks.trancheTotal_claimed (book : LoanBooks state receipts id loan)
    (tranche : Tranche) :
    state.trancheTotal TranchePosition.claimed id tranche = 0 := by
  refine trancheTotal_eq_zero fun lender position got => ?_
  have unclaimed := (book.positions lender tranche).live live
  unfold getPosition at unclaimed
  rwa [got] at unclaimed

theorem LoanBooks.totalClaimed_eq_zero (book : LoanBooks state receipts id loan)
    : loan.totalClaimed = 0 := by
  rw [← book.claimed, book.trancheTotal_claimed live, book.trancheTotal_claimed live, Int.add_zero]

omit [DecidableEq Address] in
theorem Loan.not_settled_of_live : ¬ loan.Settled := by
  unfold Loan.Settled
  rcases live with status | status <;> rw [status] <;> decide

end

theorem LoanBooks.fresh (empty : ∀ lender tranche, state.positions.get (id, lender, tranche) = none)
    (named : loan.id = id) (counted : id ≤ state.loanCount) (status : loan.status = .funding)
    (targets : ∀ tranche, 0 < loan.target tranche)
    (principalTarget : loan.principalTarget = loan.seniorTarget + loan.juniorTarget)
    (targetFits : loan.principalTarget ≤ i128Max) (funded : ∀ tranche, loan.funded tranche = 0)
    (repaid : loan.repaid = 0) (totalClaimed : loan.totalClaimed = 0) :
    LoanBooks state [] id loan := by
  have live : loan.status = .funding ∨ loan.status = .active := .inl status
  have unsettled := Loan.not_settled_of_live live
  have sums : ∀ weight tranche, state.trancheTotal weight id tranche = 0 := by
    intro weight tranche
    refine trancheTotal_eq_zero fun lender position got => ?_
    cases (empty lender tranche).symm.trans got
  have unopened : ∀ lender tranche, (getPosition state id lender tranche).principal = 0 ∧
      (getPosition state id lender tranche).claimed = 0 := by
    intro lender tranche
    unfold getPosition
    rw [empty]
    exact ⟨rfl, rfl⟩
  exact {
    named
    counted
    targets
    principalTarget
    targetFits
    principal := fun tranche => (sums _ _).trans (funded tranche).symm
    within := fun tranche => (funded tranche).trans_le (targets tranche).le
    fits := fun tranche => (funded tranche).trans_le i128Max_nonneg
    filled := fun unfunding => absurd status unfunding
    repaid := repaid.ge
    repaidFits := repaid.trans_le i128Max_nonneg
    unserviced := fun _ => repaid
    claimed := by rw [sums, sums, totalClaimed, Int.add_zero]
    positions := fun lender tranche => {
      principal := (unopened lender tranche).1.ge
      live := fun _ => (unopened lender tranche).2
      refunded := fun _ => .inl (unopened lender tranche).2
      unpaid := fun _ => rfl
      settled := fun settled => absurd settled unsettled }
    paid := fun tranche => (if_neg unsettled).symm }

theorem LoanBooks.restate (book : LoanBooks state receipts id loan)
    (live : loan.status = .funding ∨ loan.status = .active) {status : LoanStatus} {repaid : Int}
    (nonneg : 0 ≤ repaid) (fits : repaid ≤ i128Max)
    (filled : status ≠ .funding → status ≠ .cancelled →
      ∀ tranche, loan.funded tranche = loan.target tranche)
    (unserviced : status = .funding → repaid = 0) :
    LoanBooks state receipts id { loan with repaid, status } := by
  have unsettled := Loan.not_settled_of_live live
  refine { book with
    repaid := nonneg
    repaidFits := fits
    filled
    unserviced
    positions := fun lender tranche => ?_
    paid := fun tranche => ?_ }
  · have records := book.positions lender tranche
    have unclaimed := records.live live
    have unpaid := records.unpaid unsettled
    exact {
      principal := records.principal
      live := fun _ => unclaimed
      refunded := fun _ => .inl unclaimed
      unpaid := fun _ => unpaid
      settled := fun _ => ⟨by rw [unclaimed, unpaid, sum_nil], .inl unpaid⟩ }
  · rw [book.paid tranche, if_neg unsettled, book.trancheTotal_claimed live, ite_self]

section

omit [DecidableEq Address]

@[simp] theorem withFunded_funded (newFunded : Int) (other : Tranche) :
    (withFunded loan newFunded tranche).funded other =
      if other = tranche then newFunded else loan.funded other := by
  cases tranche <;> cases other <;> rfl

@[simp] theorem withFunded_target (newFunded : Int) (other : Tranche) :
    (withFunded loan newFunded tranche).target other = loan.target other := by
  cases tranche <;> cases other <;> rfl

theorem withFunded_frame (loan : Loan Address) (tranche : Tranche) (newFunded : Int) :
    (withFunded loan newFunded tranche).id = loan.id ∧
      (withFunded loan newFunded tranche).asset = loan.asset ∧
      (withFunded loan newFunded tranche).status = loan.status ∧
      (withFunded loan newFunded tranche).repaid = loan.repaid ∧
      (withFunded loan newFunded tranche).totalClaimed = loan.totalClaimed ∧
      (withFunded loan newFunded tranche).principalTarget = loan.principalTarget ∧
      (withFunded loan newFunded tranche).seniorTarget = loan.seniorTarget ∧
      (withFunded loan newFunded tranche).juniorTarget = loan.juniorTarget := by
  cases tranche <;> exact ⟨rfl, rfl, rfl, rfl, rfl, rfl, rfl, rfl⟩

end

variable (book : LoanBooks state receipts id loan)
include book

theorem LoanBooks.fund (status : loan.status = .funding) {amount newFunded : Int} (pos : 0 < amount)
    (fits : newFunded ≤ i128Max) (grown : newFunded = loan.funded tranche + amount)
    (within : newFunded ≤ loan.target tranche) (counted : next.loanCount = state.loanCount)
    (positions : next.positions = state.positions.set (id, lender, tranche)
      { getPosition state id lender tranche with
        principal := (getPosition state id lender tranche).principal + amount }) :
    LoanBooks next receipts id (withFunded loan newFunded tranche) := by
  obtain ⟨sameId, -, sameStatus, sameRepaid, sameClaimed, sameTarget, sameSenior, sameJunior⟩ :=
    withFunded_frame loan tranche newFunded
  have live : loan.status = .funding ∨ loan.status = .active := .inl status
  have unsettled := Loan.not_settled_of_live live
  have stillFunding : (withFunded loan newFunded tranche).status = .funding :=
    sameStatus.trans status
  have stillUnsettled : ¬ (withFunded loan newFunded tranche).Settled :=
    Loan.not_settled_of_live (.inl stillFunding)
  have claimed : ∀ other, next.trancheTotal TranchePosition.claimed id other =
      state.trancheTotal TranchePosition.claimed id other := by
    intro other
    rw [trancheTotal_set positions rfl, Int.sub_self, ite_self, Int.add_zero]
  refine {
    named := sameId.trans book.named
    counted := book.counted.trans counted.ge
    targets := fun other => by rw [withFunded_target]; exact book.targets other
    principalTarget := by rw [sameTarget, sameSenior, sameJunior]; exact book.principalTarget
    targetFits := by rw [sameTarget]; exact book.targetFits
    principal := fun other => ?_
    within := fun other => ?_
    fits := fun other => ?_
    filled := fun unfunding => absurd stillFunding unfunding
    repaid := by rw [sameRepaid]; exact book.repaid
    repaidFits := by rw [sameRepaid]; exact book.repaidFits
    unserviced := fun _ => by rw [sameRepaid]; exact book.unserviced status
    claimed := by rw [claimed, claimed, sameClaimed]; exact book.claimed
    positions := fun other inTranche => ?_
    paid := fun other => ?_ }
  · rw [trancheTotal_set positions rfl, withFunded_funded, book.principal other]
    split
    · next same =>
      rw [same]
      exact (congrArg _ (add_sub_cancel_left _ _)).trans grown.symm
    · exact Int.add_zero _
  · rw [withFunded_funded, withFunded_target]
    split
    · next same => rwa [same]
    · exact book.within other
  · rw [withFunded_funded]
    split
    · exact fits
    · exact book.fits other
  · have unpaid := (book.positions other inTranche).unpaid unsettled
    have kept : 0 ≤ (getPosition next id other inTranche).principal ∧
        (getPosition next id other inTranche).claimed = 0 := by
      rw [getPosition_set positions]
      split
      · have records := book.positions lender tranche
        exact ⟨by have := records.principal; dsimp only; omega, records.live live⟩
      · have records := book.positions other inTranche
        exact ⟨records.principal, records.live live⟩
    exact {
      principal := kept.1
      live := fun _ => kept.2
      refunded := fun _ => .inl kept.2
      unpaid := fun _ => unpaid
      settled := fun settled => absurd settled stillUnsettled }
  · rw [if_neg stillUnsettled, book.paid other, if_neg unsettled]

theorem LoanBooks.refund (status : loan.status = .cancelled) {refund : Int}
    (owed : refund = (getPosition state id lender tranche).principal -
      (getPosition state id lender tranche).claimed) (counted : next.loanCount = state.loanCount)
    (positions : next.positions = state.positions.set (id, lender, tranche)
      { getPosition state id lender tranche with
        claimed := (getPosition state id lender tranche).principal }) :
    LoanBooks next receipts id { loan with totalClaimed := loan.totalClaimed + refund } := by
  have unsettled : ¬ loan.Settled := by
    unfold Loan.Settled
    rw [status]
    decide
  have claimed : ∀ other, next.trancheTotal TranchePosition.claimed id other =
      state.trancheTotal TranchePosition.claimed id other +
        if other = tranche then refund else 0 := by
    intro other
    rw [trancheTotal_set positions rfl, owed]
  refine { book with
    counted := book.counted.trans counted.ge
    principal := fun other => ?_
    claimed := ?_
    positions := fun other inTranche => ?_
    paid := fun other => ?_ }
  · rw [trancheTotal_set positions rfl, Int.sub_self, ite_self, Int.add_zero]
    exact book.principal other
  · rw [claimed, claimed, ← book.claimed]
    cases tranche <;> simp <;> omega
  · have records := book.positions other inTranche
    rw [getPosition_set positions]
    split
    · next same =>
      obtain ⟨rfl, rfl⟩ := same
      exact {
        principal := records.principal
        live := fun live => by rcases live with live | live <;> cases status.symm.trans live
        refunded := fun _ => .inr rfl
        unpaid := records.unpaid
        settled := fun settled => absurd settled unsettled }
    · exact { records with }
  · rw [book.paid other, if_neg unsettled]
    exact (if_neg unsettled).symm

theorem LoanBooks.claim_owed (settled : loan.Settled) {amount : Int} (pos : 0 < amount)
    (owed : positionClaim loan (getPosition state id lender tranche) = .ok amount) :
    received receipts lender tranche = [] ∧ (getPosition state id lender tranche).claimed = 0 ∧
      amount = loan.share (getPosition state id lender tranche) := by
  have entitled := positionClaim_eq_ok owed pos
  obtain ⟨sum, nothing | share⟩ := (book.positions lender tranche).settled settled
  · rw [nothing, sum_nil] at sum
    exact ⟨nothing, sum, by rw [entitled, sum, Int.sub_zero]⟩
  · rw [share, sum_singleton] at sum
    omega

theorem LoanBooks.claim (settled : loan.Settled) {amount : Int} (pos : 0 < amount)
    (owed : positionClaim loan (getPosition state id lender tranche) = .ok amount)
    (counted : next.loanCount = state.loanCount)
    (positions : next.positions = state.positions.set (id, lender, tranche)
      { getPosition state id lender tranche with
        claimed := (getPosition state id lender tranche).claimed + amount }) :
    LoanBooks next ({ loanId := id, lender, tranche, amount } :: receipts) id
      { loan with totalClaimed := loan.totalClaimed + amount } := by
  obtain ⟨unpaid, unclaimed, whole⟩ := book.claim_owed settled pos owed
  have claimed : ∀ other, next.trancheTotal TranchePosition.claimed id other =
      state.trancheTotal TranchePosition.claimed id other +
        if other = tranche then amount else 0 := by
    intro other
    rw [trancheTotal_set positions rfl]
    exact congrArg _ (if_congr Iff.rfl (add_sub_cancel_left _ _) rfl)
  refine { book with
    counted := book.counted.trans counted.ge
    principal := fun other => ?_
    claimed := ?_
    positions := fun other inTranche => ?_
    paid := fun other => ?_ }
  · rw [trancheTotal_set positions rfl, Int.sub_self, ite_self, Int.add_zero]
    exact book.principal other
  · rw [claimed, claimed, ← book.claimed]
    cases tranche <;> simp <;> omega
  · have records := book.positions other inTranche
    rw [getPosition_set positions, received_cons]
    split
    · next same =>
      obtain ⟨rfl, rfl⟩ := same
      have status : ∀ other : LoanStatus, other ≠ .repaid → other ≠ .defaulted →
          loan.status ≠ other := by
        intro other unrepaid undefaulted equal
        rcases settled with status | status
        · exact unrepaid (equal.symm.trans status)
        · exact undefaulted (equal.symm.trans status)
      exact {
        principal := records.principal
        live := fun live => by
          rcases live with live | live
          · exact absurd live (status _ nofun nofun)
          · exact absurd live (status _ nofun nofun)
        refunded := fun cancelled => absurd cancelled (status _ nofun nofun)
        unpaid := fun unsettled => absurd settled unsettled
        settled := fun _ => by
          rw [unpaid, unclaimed, sum_singleton]
          exact ⟨Int.zero_add _, .inr (congrArg (fun part => [part]) whole)⟩ }
    · exact { records with }
  · rw [paidTo_cons, book.paid other, if_pos settled, claimed]
    refine (congrArg _ (if_congr eq_comm rfl rfl)).trans (if_pos ?_).symm
    exact settled

end SorobanPlayground.LoanSyndication
