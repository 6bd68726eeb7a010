import SorobanPlayground.Host
import SorobanPlayground.Library.GroupedTotals
import SorobanPlayground.Library.Rounding

/-! # Fractional shares with income

The trusts of the REIT contract and the properties of the real-estate contract sell a
fixed number of shares and pass on income to those who hold them. Both contracts keep
the same numbers for it and compute with them in the same way; they differ in their
checks and errors.
-/

namespace SorobanPlayground.FractionalShares

open FiniteMap

section

/-- What both contracts keep of a trust or a property: `total_dividends_deposited` and `is_active`
of a trust, `total_rental_deposited` and `is_listed` of a property are the last two fields. -/
structure Offering where
  totalShares : Nat
  sharesSold : Nat
  pricePerShare : Int
  totalDeposited : Int
  isActive : Bool
  deriving DecidableEq, Repr

/-- A `Holding` of a trust or the `Ownership` of a property; its second field is the
`dividends_claimed` or the `rental_claimed`. -/
structure Holding where
  shares : Nat
  claimed : Int
  deriving DecidableEq, Repr

/-- The holdings by trust or property and investor. -/
abbrev Holdings (Address : Type) := FiniteMap (Nat × Address) Holding

variable {ε Address : Type} [DecidableEq Address]

/-- The function `compute_claimable`. -/
def computeClaimable (holding : Holding) (offering : Offering) : Outcome ε Int :=
  let newIncome := saturateI128 (offering.totalDeposited - holding.claimed)
  if offering.sharesSold = 0 ∨ holding.shares = 0 then pure 0
  else if newIncome ≤ 0 then pure 0
  else checkedDiv .trap (saturateI128 (newIncome * holding.shares)) offering.totalShares

/-- The offering that `create_trust` and `list_property` store. -/
def offer (emptyName zeroTotalShares zeroPrice : ε) (name : String) (totalShares : Nat)
    (pricePerShare : Int) : Outcome ε Offering := do
  ensure (name.utf8ByteSize ≠ 0) emptyName
  ensure (totalShares ≠ 0) zeroTotalShares
  ensure (¬ pricePerShare ≤ 0) zeroPrice
  return { totalShares, sharesSold := 0, pricePerShare, totalDeposited := 0, isActive := true }

/-- The offering after a deposit. -/
def depositIncome (amount : Int) (offering : Offering) : Outcome ε Offering := do
  let totalDeposited ← checkedAdd .trap offering.totalDeposited amount
  return { offering with totalDeposited }

variable (id : Nat) (offering : Offering) (holdings : Holdings Address)

/-- The holding to which shares are added. In a new one all that was deposited before counts as
claimed. -/
def holdingOf (investor : Address) : Holding :=
  (holdings.get (id, investor)).getD { shares := 0, claimed := offering.totalDeposited }

/-- The purchase of shares of an offering that is active; returns the cost. -/
def buyFrom (exceedsTotalSupply : ε) (investor : Address) (shares : Nat) :
    Outcome ε (Int × Offering × Holdings Address) := do
  let sharesSold ← inUnsigned u64Max .trap (offering.sharesSold + shares)
  ensure (¬ offering.totalShares < sharesSold) exceedsTotalSupply
  let cost := saturateI128 (shares * offering.pricePerShare)
  let holding := holdingOf id offering holdings investor
  let held ← inUnsigned u64Max .trap (holding.shares + shares)
  return (cost, { offering with sharesSold },
    holdings.set (id, investor) { holding with shares := held })

/-- The holding of a sender is rewritten or, when no shares are left, removed. -/
def withdrawFrom (source : Address) (left : Holding) : Holdings Address :=
  if left.shares = 0 then holdings.remove (id, source) else holdings.set (id, source) left

/-- The transfer of shares. Both holdings are read before either is written, and what the sender
could claim is counted as claimed. -/
def transferBetween (noShares insufficientShares : ε) (source destination : Address)
    (shares : Nat) : Outcome ε (Holdings Address) := do
  let sending ← orError (holdings.get (id, source)) noShares
  ensure (¬ sending.shares < shares) insufficientShares
  let claimable ← computeClaimable sending offering
  let claimed ← checkedAdd .trap sending.claimed claimable
  let receiving := holdingOf id offering holdings destination
  let received ← inUnsigned u64Max .trap (receiving.shares + shares)
  return (withdrawFrom id holdings source { shares := sending.shares - shares, claimed }).set
    (id, destination) { receiving with shares := received }

/-- The claim of an investor; returns the amount. -/
def claimFor (noShares nothingToClaim : ε) (investor : Address) :
    Outcome ε (Int × Holdings Address) := do
  let holding ← orError (holdings.get (id, investor)) noShares
  let claimable ← computeClaimable holding offering
  ensure (claimable ≠ 0) nothingToClaim
  let claimed ← checkedAdd .trap holding.claimed claimable
  return (claimable, holdings.set (id, investor) { holding with claimed })

end

variable {Address : Type} [DecidableEq Address]

/-- What a state says of one trust or property. -/
structure Book (Address : Type) where
  offering : Option Offering
  holdings : Holdings Address

/-- What a call does for it. -/
inductive Event (Address : Type) where
  | quiet
  | deposited (amount : Int)
  | bought (investor : Address)
  | transferred (source destination : Address) (shares : Nat)
  | claimed (investor : Address) (amount : Int)

/-- The steps of the two contracts. -/
inductive Step (id : Nat) (book : Book Address) : Event Address → Book Address → Prop
  | quiet (next : Book Address)
      (kept : ∀ offering, book.offering = some offering →
        ∃ isActive, next.offering = some { offering with isActive })
      (opened : ∀ offering, book.offering = none → next.offering = some offering →
        0 < offering.totalShares ∧ offering.sharesSold = 0 ∧ offering.totalDeposited = 0)
      (same : ∀ investor, next.holdings.get (id, investor) = book.holdings.get (id, investor)) :
      Step id book .quiet next
  | deposited (amount : Int) (offering : Offering) (stored : book.offering = some offering)
      (positive : 0 < amount) (fits : InI128 (offering.totalDeposited + amount)) :
      Step id book (.deposited amount)
        { book with
          offering := some { offering with totalDeposited := offering.totalDeposited + amount } }
  | bought (investor : Address) (shares : Nat) (offering : Offering)
      (stored : book.offering = some offering)
      (within : offering.sharesSold + shares ≤ offering.totalShares) :
      Step id book (.bought investor) {
        offering := some { offering with sharesSold := offering.sharesSold + shares }
        holdings := book.holdings.set (id, investor)
          { holdingOf id offering book.holdings investor with
            shares := (holdingOf id offering book.holdings investor).shares + shares } }
  | transferred (source destination : Address) (shares : Nat) (claimable : Int)
      (offering : Offering) (sending : Holding) (stored : book.offering = some offering)
      (positive : 0 < shares) (held : book.holdings.get (id, source) = some sending)
      (enough : shares ≤ sending.shares)
      (computed : (computeClaimable sending offering : Outcome Unit Int) = .ok claimable) :
      Step id book (.transferred source destination shares)
        { book with
          holdings := (withdrawFrom id book.holdings source
            { shares := sending.shares - shares, claimed := sending.claimed + claimable }).set
              (id, destination)
              { holdingOf id offering book.holdings destination with
                shares := (holdingOf id offering book.holdings destination).shares + shares } }
  | claimed (investor : Address) (amount : Int) (offering : Offering) (holding : Holding)
      (stored : book.offering = some offering)
      (held : book.holdings.get (id, investor) = some holding)
      (computed : (computeClaimable holding offering : Outcome Unit Int) = .ok amount)
      (nonzero : amount ≠ 0) :
      Step id book (.claimed investor amount)
        { book with
          holdings := book.holdings.set (id, investor)
            { holding with claimed := holding.claimed + amount } }

/-- What a claim would pay; nothing where it fails. -/
def payable {ε : Type} (claimable : Outcome ε Int) : Int := claimable.toOption.getD 0

/-- What an investor can claim. -/
def Book.claimable (book : Book Address) (id : Nat) (investor : Address) : Int :=
  match book.offering, book.holdings.get (id, investor) with
  | some offering, some holding => payable (computeClaimable holding offering : Outcome Unit Int)
  | _, _ => 0

/-- A contract whose calls are the steps of its trusts or properties. -/
structure Issuer (State Call Error Address : Type) [DecidableEq Address] where
  machine : CallMachine State Call Error
  start : State
  bookOf : Nat → State → Book Address
  eventOf : Nat → State → Call → Event Address
  claimable : Nat → Address → State → Int
  Numbered : State → Prop
  numbered : Numbered start
  unopened : ∀ id, bookOf id start = { offering := none, holdings := ∅ }
  claimable_eq : ∀ id investor state,
    claimable id investor state = (bookOf id state).claimable id investor
  keeps : ∀ state call next, Numbered state → machine.exec state call = .ok next → Numbered next
  step : ∀ id state call next, Numbered state → machine.exec state call = .ok next →
    Step id (bookOf id state) (eventOf id state call) (bookOf id next)

theorem computeClaimable_le {ε : Type} {holding : Holding} {offering : Offering} {amount : Int}
    (eq : (computeClaimable holding offering : Outcome ε Int) = .ok amount) :
    0 ≤ amount ∧
      amount * offering.totalShares ≤
        max (offering.totalDeposited - holding.claimed) 0 * holding.shares := by
  have most : 0 ≤ max (offering.totalDeposited - holding.claimed) 0 * (holding.shares : Int) :=
    mul_nonneg (le_max_right _ _) (Int.natCast_nonneg _)
  unfold computeClaimable at eq
  dsimp only at eq
  split_ifs at eq with empty nothing
  · cases eq
    exact ⟨le_rfl, by rwa [zero_mul]⟩
  · cases eq
    exact ⟨le_rfl, by rwa [zero_mul]⟩
  · obtain ⟨-, -, rfl⟩ := checkedDiv_eq_ok.mp eq
    have some := not_le.mp nothing
    have unclaimed : 0 < offering.totalDeposited - holding.claimed := by
      by_contra nonpositive
      have bound := saturateI128_mono (not_lt.mp nonpositive)
      exact absurd some (not_lt.mpr bound)
    have income := saturateI128_le unclaimed.le
    have product : 0 ≤ saturateI128 (offering.totalDeposited - holding.claimed) * holding.shares :=
      mul_nonneg some.le (Int.natCast_nonneg _)
    have divided := Rounding.tdiv_mul_le (saturateI128_nonneg product) (offering.totalShares : Int)
    refine ⟨Int.tdiv_nonneg (saturateI128_nonneg product) (Int.natCast_nonneg _), ?_⟩
    rw [max_eq_left unclaimed.le]
    exact divided.trans ((saturateI128_le product).trans
      (mul_le_mul_of_nonneg_right income (Int.natCast_nonneg _)))

variable {ε : Type} {holding : Holding} {offering : Offering} {amount : Int}

theorem claimable_eq_zero (pos : 0 < offering.totalShares)
    (claimed : holding.claimed = offering.totalDeposited)
    (eq : (computeClaimable holding offering : Outcome ε Int) = .ok amount) : amount = 0 := by
  obtain ⟨nonneg, most⟩ := computeClaimable_le eq
  rw [claimed, sub_self, max_self, zero_mul] at most
  have shares : (0 : Int) < offering.totalShares := Int.natCast_pos.mpr pos
  exact le_antisymm (nonpos_of_mul_nonpos_left most shares) nonneg

theorem computeClaimable_ok {δ : Type}
    (eq : (computeClaimable holding offering : Outcome ε Int) = .ok amount) :
    (computeClaimable holding offering : Outcome δ Int) = .ok amount := by
  unfold computeClaimable at eq ⊢
  dsimp only at eq ⊢
  split_ifs at eq ⊢ with empty nothing
  · exact pure_eq_ok.mpr (pure_eq_ok.mp eq)
  · exact pure_eq_ok.mpr (pure_eq_ok.mp eq)
  · exact checkedDiv_eq_ok.mpr (checkedDiv_eq_ok.mp eq)

theorem payable_computeClaimable {ε : Type} (holding : Holding) (offering : Offering) :
    payable (computeClaimable holding offering : Outcome ε Int) =
      payable (computeClaimable holding offering : Outcome Unit Int) := by
  unfold computeClaimable checkedDiv inI128
  dsimp only
  split_ifs <;> rfl

variable {ε : Type} {id : Nat} {offering : Offering} {holdings : Holdings Address}

theorem offer_eq_ok {emptyName zeroTotalShares zeroPrice : ε} {name : String} {totalShares : Nat}
    {pricePerShare : Int}
    (ran : offer emptyName zeroTotalShares zeroPrice name totalShares pricePerShare =
      .ok offering) :
    0 < offering.totalShares ∧ offering.sharesSold = 0 ∧ offering.totalDeposited = 0 := by
  simp only [offer, call_ok] at ran
  obtain ⟨-, nonzero, -, rfl⟩ := ran
  exact ⟨Nat.pos_of_ne_zero nonzero, rfl, rfl⟩

theorem depositIncome_eq_ok {amount : Int} {next : Offering}
    (ran : (depositIncome amount offering : Outcome ε Offering) = .ok next) :
    InI128 (offering.totalDeposited + amount) ∧
      next = { offering with totalDeposited := offering.totalDeposited + amount } := by
  simp only [depositIncome, call_ok, arith_ok] at ran
  obtain ⟨fits, rfl⟩ := ran
  exact ⟨fits, rfl⟩

variable {investor : Address}

theorem Step.of_buyFrom {exceedsTotalSupply : ε} {shares : Nat}
    {result : Int × Offering × Holdings Address}
    (ran : buyFrom id offering holdings exceedsTotalSupply investor shares = .ok result) :
    Step id { offering := some offering, holdings } (.bought investor)
      { offering := some result.2.1, holdings := result.2.2 } := by
  simp only [buyFrom, call_ok, arith_ok] at ran
  obtain ⟨-, within, -, rfl⟩ := ran
  exact Step.bought investor shares offering rfl (not_lt.mp within)

theorem Step.of_transferBetween {noShares insufficientShares : ε} {source destination : Address}
    {shares : Nat} {result : Holdings Address} (nonzero : shares ≠ 0)
    (ran : transferBetween id offering holdings noShares insufficientShares source destination
      shares = .ok result) :
    Step id { offering := some offering, holdings } (.transferred source destination shares)
      { offering := some offering, holdings := result } := by
  simp only [transferBetween, call_ok, arith_ok] at ran
  obtain ⟨sending, held, enough, claimable, eq, -, -, rfl⟩ := ran
  exact Step.transferred source destination shares claimable offering sending rfl
    (Nat.pos_of_ne_zero nonzero) held (not_lt.mp enough) (computeClaimable_ok eq)

theorem Step.of_claimFor {noShares nothingToClaim : ε} {result : Int × Holdings Address}
    (ran : claimFor id offering holdings noShares nothingToClaim investor = .ok result) :
    Step id { offering := some offering, holdings } (.claimed investor result.1)
      { offering := some offering, holdings := result.2 } := by
  simp only [claimFor, call_ok, arith_ok] at ran
  obtain ⟨holding, held, claimable, eq, nonzero, -, rfl⟩ := ran
  exact Step.claimed investor claimable offering holding rfl held (computeClaimable_ok eq)
    nonzero

theorem Step.holdings_apart {book next : Book Address} {event : Event Address}
    (step : Step id book event next) (wrote : event ≠ .quiet) {other : Nat} (apart : other ≠ id)
    (investor : Address) :
    next.holdings.get (other, investor) = book.holdings.get (other, investor) := by
  have ne : ∀ holder, (other, investor) ≠ (id, holder) :=
    fun holder equal => apart (congrArg Prod.fst equal)
  cases step with
  | quiet => exact absurd rfl wrote
  | deposited => rfl
  | bought => exact get_set_of_ne _ _ (ne _)
  | transferred =>
    refine (get_set_of_ne _ _ (ne _)).trans ?_
    unfold withdrawFrom
    split
    · exact get_remove_of_ne _ (ne _)
    · exact get_set_of_ne _ _ (ne _)
  | claimed => exact get_set_of_ne _ _ (ne _)

variable {offerings : Option Offering} {target : Nat}

theorem Step.write {old new : Offering} {later : Holdings Address}
    {event : Event Address} (step : Step target { offering := some old, holdings } event
      { offering := some new, holdings := later }) (wrote : event ≠ .quiet)
    (got : id = target → offerings = some old) :
    Step id { offering := offerings, holdings } (if target = id then event else .quiet)
      { offering := if id = target then some new else offerings, holdings := later } := by
  by_cases same : target = id
  · subst same
    rw [if_pos rfl, if_pos rfl, got rfl]
    exact step
  · have apart : id ≠ target := fun equal => same equal.symm
    rw [if_neg same, if_neg apart]
    exact Step.quiet _ (fun offering equal => ⟨offering.isActive, equal⟩)
      (fun offering gone here => by cases gone.symm.trans here)
      fun investor => step.holdings_apart wrote apart investor

theorem Step.created {new : Offering} (fresh : id = target → offerings = none)
    (unused : 0 < new.totalShares ∧ new.sharesSold = 0 ∧ new.totalDeposited = 0) :
    Step id { offering := offerings, holdings } .quiet
      { offering := if id = target then some new else offerings, holdings } := by
  refine Step.quiet _ (fun old got => ?_) (fun opened gone got => ?_) fun _ => rfl
  · refine ⟨old.isActive, (if_neg fun same => ?_).trans got⟩
    cases (fresh same).symm.trans got
  · split at got
    · cases got
      exact unused
    · cases gone.symm.trans got

theorem Step.toggled {old : Offering} (got : id = target → offerings = some old) (isActive : Bool) :
    Step id { offering := offerings, holdings } .quiet
      { offering := if id = target then some { old with isActive } else offerings, holdings } := by
  refine Step.quiet _ (fun known held => ?_) (fun opened gone held => ?_) fun _ => rfl
  · by_cases same : id = target
    · obtain rfl := Option.some.inj ((got same).symm.trans held)
      exact ⟨isActive, if_pos same⟩
    · exact ⟨known.isActive, (if_neg same).trans held⟩
  · split at held
    · next same => cases (got same).symm.trans gone
    · cases gone.symm.trans held

theorem Step.idle (book : Book Address) : Step id book .quiet book :=
  Step.quiet _ (fun offering equal => ⟨offering.isActive, equal⟩)
    (fun offering gone here => by cases gone.symm.trans here) fun _ => rfl

/-- The shares that an investor holds. -/
def Book.sharesOf (book : Book Address) (id : Nat) (investor : Address) : Int :=
  ((book.holdings.get (id, investor)).map fun holding => (holding.shares : Int)).getD 0

def heldShares (holdings : Holdings Address) (id : Nat) : Int :=
  holdings.groupTotal (fun key _ => key.1) (fun holding => (holding.shares : Int)) id

theorem Book.sharesOf_nonneg (book : Book Address) (id : Nat) (investor : Address) :
    0 ≤ book.sharesOf id investor := by
  unfold Book.sharesOf
  cases book.holdings.get (id, investor) with
  | none => exact le_rfl
  | some => exact Int.natCast_nonneg _

variable (id offering holdings) in
theorem heldShares_put (investor : Address) (holding : Option Holding) :
    heldShares (holdings.put (id, investor) holding) id =
      heldShares holdings id +
        (holding.elim 0 (fun holding => (holding.shares : Int)) -
          Book.sharesOf { offering := some offering, holdings } id investor) := by
  have sums : heldShares (holdings.put (id, investor) holding) id = _ :=
    groupTotal_put (fun _ _ => rfl) (fun _ _ => rfl) id
  rw [sums, if_pos rfl]
  unfold Book.sharesOf
  cases holdings.get (id, investor) <;> rfl

theorem sharesOf_put (investor other : Address) (holding : Option Holding) :
    Book.sharesOf { offering := some offering, holdings := holdings.put (id, investor) holding } id
        other =
      if other = investor then holding.elim 0 (fun holding => (holding.shares : Int))
      else Book.sharesOf { offering := some offering, holdings } id other := by
  unfold Book.sharesOf
  by_cases same : other = investor
  · subst same
    rw [get_put, if_pos rfl, if_pos rfl]
    cases holding <;> rfl
  · rw [get_put_of_ne _ _ fun equal => same (congrArg Prod.snd equal), if_neg same]

theorem sharesOf_of_held {holding : Holding} (held : holdings.get (id, investor) = some holding) :
    Book.sharesOf { offering := some offering, holdings } id investor = holding.shares := by
  unfold Book.sharesOf
  rw [held]
  rfl

theorem sharesOf_eq_holdingOf (investor : Address) :
    Book.sharesOf { offering := some offering, holdings } id investor =
      (holdingOf id offering holdings investor).shares := by
  unfold Book.sharesOf holdingOf
  cases holdings.get (id, investor) <;> rfl

theorem heldShares_of_same {next : Holdings Address}
    (same : ∀ investor, next.get (id, investor) = holdings.get (id, investor)) :
    heldShares next id = heldShares holdings id := by
  unfold heldShares FiniteMap.groupTotal
  refine total_of_same fun key => ?_
  by_cases inside : key.1 = id
  · rw [← inside] at same
    rw [same key.2]
  · have outside (entry : Option Holding) : FiniteMap.weightAt (fun key (holding : Holding) =>
        if key.1 = id then (holding.shares : Int) else (0 : Int)) key entry = 0 := by
      cases entry with
      | none => rfl
      | some => exact if_neg inside
    exact (outside _).trans (outside _).symm

theorem heldShares_eq_zero (unheld : ∀ investor, holdings.get (id, investor) = none) :
    heldShares holdings id = 0 := by
  refine groupTotal_eq_zero fun key holding got inside => ?_
  rw [← inside] at unheld
  cases (unheld key.2).symm.trans got

theorem withdrawFrom_eq_put (holdings : Holdings Address) (source : Address) (left : Holding) :
    withdrawFrom id holdings source left =
      holdings.put (id, source) (if left.shares = 0 then none else some left) := by
  unfold withdrawFrom
  split <;> rfl

end SorobanPlayground.FractionalShares
