import SorobanPlayground.FractionalShares.Books
import SorobanPlayground.Library.IncomeLog

/-! # What the holders may claim

For one trust or property a log of deposits and claims is kept beside the state, and for
each holder whether all that was deposited was counted as claimed when its holding last
grew or was claimed from. While claims are made from such holdings only, and nobody
transfers shares to itself, nobody is paid more than its shares have earned.
-/

namespace SorobanPlayground.FractionalShares

open Function Int

variable {Address : Type} [DecidableEq Address]

/-- All that was deposited counts as claimed. -/
def Book.Synced (book : Book Address) (id : Nat) (investor : Address) : Prop :=
  (book.holdings.get (id, investor)).map Holding.claimed = book.offering.map Offering.totalDeposited

instance (book : Book Address) (id : Nat) (investor : Address) :
    Decidable (book.Synced id investor) := by
  unfold Book.Synced
  infer_instance

/-- The deposits and claims, and whose holdings were in step with the deposits when they last grew
or were claimed from. -/
structure Journal (Address : Type) where
  log : IncomeLog Address := []
  synced : Address → Bool := fun _ => true

/-- The journal after a call. -/
def Journal.record (id : Nat) (event : Event Address) (book next : Book Address)
    (journal : Journal Address) : Journal Address :=
  let synced := fun investor =>
    Function.update journal.synced investor (decide (next.Synced id investor))
  match event with
  | .quiet => journal
  | .deposited amount =>
      { journal with log := .deposit amount (book.sharesOf id) :: journal.log }
  | .bought investor => { journal with synced := synced investor }
  | .transferred _ destination _ => { journal with synced := synced destination }
  | .claimed investor amount =>
      { log := .claim investor amount :: journal.log
        synced := synced investor }

/-- A claim is made from a holding in step with the deposits; a transfer is to somebody else. -/
def Event.Regular (journal : Journal Address) : Event Address → Prop
  | .transferred source destination _ => source ≠ destination
  | .claimed investor _ => journal.synced investor = true
  | _ => True

instance (journal : Journal Address) (event : Event Address) :
    Decidable (event.Regular journal) := by
  cases event <;> unfold Event.Regular <;> infer_instance

/-- Nobody was paid more than its shares have earned, nor twice between two deposits, and all
payments together are no more than the deposits. -/
structure Fair (book : Book Address) (journal : Journal Address) : Prop where
  within : ∀ offering, book.offering = some offering → journal.log.Within offering.totalShares
  total : IncomeLog.totalPaid journal.log ≤ IncomeLog.deposited journal.log
  once : journal.log.OncePerDeposit

/-- The accounts of an offering: its shares are those of the holdings, nobody was paid more than it
has earned, and what a holding in step with the deposits has not counted as claimed is earned. -/
structure Accounts (id : Nat) (offering : Offering) (holdings : Holdings Address)
    (journal : Journal Address) : Prop where
  positive : 0 < offering.totalShares
  shares : heldShares holdings id = offering.sharesSold
  sold : offering.sharesSold ≤ offering.totalShares
  shared : journal.log.Shared offering.totalShares
  within : journal.log.Within offering.totalShares
  once : journal.log.OncePerDeposit
  credit : ∀ investor holding, holdings.get (id, investor) = some holding →
    journal.synced investor = true →
    (offering.totalDeposited - holding.claimed) * holding.shares +
      journal.log.paid investor * offering.totalShares ≤ journal.log.earned investor
  settled : ∀ investor holding, holdings.get (id, investor) = some holding →
    journal.synced investor = true → journal.log.ClaimedSince investor →
    holding.claimed = offering.totalDeposited

structure Sound (id : Nat) (book : Book Address) (journal : Journal Address) : Prop where
  unopened : book.offering = none →
    (∀ investor, book.holdings.get (id, investor) = none) ∧ journal.log = []
  opened : ∀ offering, book.offering = some offering →
    Accounts id offering book.holdings journal

variable {id : Nat} {offering : Offering} {holdings : Holdings Address} {journal : Journal Address}
  {synced : Bool} {shares : Nat}

section

variable (accounts : Accounts id offering holdings journal)
include accounts

theorem Accounts.sum_sharesOf_le (investors : Finset Address) :
    ∑ investor ∈ investors, Book.sharesOf { offering := some offering, holdings } id investor ≤
      offering.totalShares := by
  have weights : ∀ key holding, holdings.get key = some holding →
      (0 : Int) ≤ if key.1 = id then (holding.shares : Int) else 0 := by
    intro key holding _
    split
    · exact natCast_nonneg _
    · exact le_rfl
  have apart : (investors.toList.map (Prod.mk id)).Nodup :=
    investors.nodup_toList.map (Prod.mk_right_injective id)
  have bound := FiniteMap.sum_weightAt_le_total weights apart
  rw [List.map_map, Finset.sum_map_toList] at bound
  have sold : (offering.sharesSold : Int) ≤ offering.totalShares := ofNat_le.mpr accounts.sold
  rw [← accounts.shares] at sold
  refine le_trans (le_of_eq (Finset.sum_congr rfl fun investor _ => ?_)) (bound.trans sold)
  unfold Book.sharesOf
  dsimp only [comp_apply]
  cases holdings.get (id, investor) with
  | none => rfl
  | some => exact (if_pos rfl).symm

theorem Accounts.deposit {amount : Int} (pos : 0 < amount) :
    Accounts id { offering with totalDeposited := offering.totalDeposited + amount } holdings
      { journal with
        log := .deposit amount
          (Book.sharesOf { offering := some offering, holdings } id) :: journal.log } := by
  have part := fun investor =>
    mul_nonneg pos.le
      (Book.sharesOf_nonneg { offering := some offering, holdings } id investor)
  refine { accounts with
    shared := ⟨pos.le, Book.sharesOf_nonneg _ id, accounts.sum_sharesOf_le, accounts.shared⟩
    within := fun investor =>
      (accounts.within investor).trans (le_add_of_nonneg_left (part investor))
    credit := fun investor holding held synced => ?_
    settled := fun _ _ _ _ => False.elim }
  have credit := accounts.credit investor holding held synced
  have shares : Book.sharesOf { offering := some offering, holdings } id investor =
      holding.shares := by
    unfold Book.sharesOf
    rw [held]
    rfl
  change (offering.totalDeposited + amount - holding.claimed) * holding.shares +
    journal.log.paid investor * offering.totalShares ≤
      amount * Book.sharesOf { offering := some offering, holdings } id investor +
        journal.log.earned investor
  rw [shares]
  linarith [add_mul (offering.totalDeposited - holding.claimed) amount (holding.shares : Int),
    add_sub_right_comm offering.totalDeposited amount holding.claimed]

theorem Accounts.add (investor : Address)
    (within : offering.sharesSold + shares ≤ offering.totalShares) (step : synced = true →
      (holdingOf id offering holdings investor).claimed = offering.totalDeposited) :
    Accounts id { offering with sharesSold := offering.sharesSold + shares }
      (holdings.set (id, investor) { holdingOf id offering holdings investor with
        shares := (holdingOf id offering holdings investor).shares + shares })
      { journal with synced := update journal.synced investor synced } := by
  refine { accounts with
    shares := ?_
    sold := within
    credit := fun other holding held isSynced => ?_
    settled := fun other holding held isSynced since => ?_ }
  · have sums := heldShares_put id offering holdings investor
      (some { holdingOf id offering holdings investor with
        shares := (holdingOf id offering holdings investor).shares + shares })
    rw [sharesOf_eq_holdingOf, accounts.shares] at sums
    refine Eq.trans sums ?_
    dsimp only [Option.elim_some]
    omega
  · dsimp only at isSynced
    rw [get_set] at held
    by_cases same : other = investor
    · subst same
      rw [if_pos rfl] at held
      rw [update_self] at isSynced
      cases held
      rw [step isSynced, sub_self, zero_mul, zero_add]
      exact accounts.within other
    · rw [if_neg fun equal => same (congrArg Prod.snd equal)] at held
      rw [update_of_ne same] at isSynced
      exact accounts.credit other holding held isSynced
  · dsimp only at isSynced
    rw [get_set] at held
    by_cases same : other = investor
    · subst same
      rw [if_pos rfl] at held
      rw [update_self] at isSynced
      cases held
      exact step isSynced
    · rw [if_neg fun equal => same (congrArg Prod.snd equal)] at held
      rw [update_of_ne same] at isSynced
      exact accounts.settled other holding held isSynced since

end

theorem kept_credit_le {unclaimed claimable : Int} {left shares : Nat} (nonneg : 0 ≤ claimable)
    (fewer : left ≤ shares) : (unclaimed - claimable) * left ≤ max 0 (unclaimed * shares) := by
  rcases le_total (unclaimed - claimable) 0 with nothing | some
  · exact (mul_nonpos_of_nonpos_of_nonneg nothing (natCast_nonneg left)).trans (le_max_left _ _)
  · have less := mul_le_mul (sub_le_self unclaimed nonneg) (ofNat_le.mpr fewer)
      (natCast_nonneg left) (some.trans (sub_le_self unclaimed nonneg))
    exact less.trans (le_max_right _ _)

section

variable (accounts : Accounts id offering holdings journal)
include accounts

theorem Accounts.send {source : Address}
    {sending : Holding} (held : holdings.get (id, source) = some sending)
    (enough : shares ≤ sending.shares) {claimable : Int}
    (eq : (computeClaimable sending offering : Outcome Unit Int) = .ok claimable) :
    shares ≤ offering.sharesSold ∧
      Accounts id { offering with sharesSold := offering.sharesSold - shares }
        (withdrawFrom id holdings source
          { shares := sending.shares - shares, claimed := sending.claimed + claimable })
        journal := by
  obtain ⟨nonneg, -⟩ := computeClaimable_le eq
  have part : (sending.shares : Int) ≤ heldShares holdings id :=
    FiniteMap.weight_le_groupTotal (fun _ _ _ _ => natCast_nonneg _) held rfl
  rw [accounts.shares] at part
  have sold : shares ≤ offering.sharesSold := enough.trans (ofNat_le.mp part)
  refine ⟨sold, ?_⟩
  rw [withdrawFrom_eq_put]
  have got : ∀ other holding, (holdings.put (id, source)
      (if sending.shares - shares = 0 then none
        else some {
          shares := sending.shares - shares
          claimed := sending.claimed + claimable })).get
          (id, other) = some holding →
      other = source ∧ holding.shares = sending.shares - shares ∧
          holding.claimed = sending.claimed + claimable ∨
        holdings.get (id, other) = some holding := by
    intro other holding found
    rw [FiniteMap.get_put] at found
    split at found
    · next same =>
      split at found
      · cases found
      · cases found
        exact .inl ⟨congrArg Prod.snd same, rfl, rfl⟩
    · exact .inr found
  refine { accounts with
    shares := ?_
    sold := (Nat.sub_le _ _).trans accounts.sold
    credit := fun other holding found synced => ?_
    settled := fun other holding found synced since => ?_ }
  · have sums := heldShares_put id offering holdings source
      (if sending.shares - shares = 0 then none
        else some { shares := sending.shares - shares, claimed := sending.claimed + claimable })
    refine sums.trans ?_
    have before : Book.sharesOf { offering := some offering, holdings } id source =
        sending.shares := by
      unfold Book.sharesOf
      rw [held]
      rfl
    rw [before, accounts.shares]
    split
    · dsimp only [Option.elim_none]
      omega
    · dsimp only [Option.elim_some]
      omega
  · rcases got other holding found with ⟨rfl, left, claimed⟩ | kept
    · have credit := accounts.credit other sending held synced
      have within := accounts.within other
      rw [left, claimed]
      have less : (offering.totalDeposited - (sending.claimed + claimable)) *
          ((sending.shares - shares : Nat) : Int) ≤
            max 0 ((offering.totalDeposited - sending.claimed) * sending.shares) := by
        rw [← sub_sub]
        exact kept_credit_le nonneg (Nat.sub_le _ _)
      rcases max_choice 0 ((offering.totalDeposited - sending.claimed) * (sending.shares : Int))
        with most | most
      · rw [most] at less
        linarith
      · rw [most] at less
        linarith
    · exact accounts.credit other holding kept synced
  · rcases got other holding found with ⟨rfl, -, claimed⟩ | kept
    · have settled := accounts.settled other sending held synced since
      rw [claimed, claimable_eq_zero accounts.positive settled eq, add_zero]
      exact settled
    · exact accounts.settled other holding kept synced since

theorem Accounts.transfer {source destination : Address} {sending : Holding}
    (held : holdings.get (id, source) = some sending) (enough : shares ≤ sending.shares)
    {claimable : Int} (eq : (computeClaimable sending offering : Outcome Unit Int) = .ok claimable)
    (apart : source ≠ destination) (step : synced = true →
      (holdingOf id offering holdings destination).claimed = offering.totalDeposited) :
    Accounts id offering
      ((withdrawFrom id holdings source
        { shares := sending.shares - shares, claimed := sending.claimed + claimable }).set
          (id, destination)
          { holdingOf id offering holdings destination with
            shares := (holdingOf id offering holdings destination).shares + shares })
      { journal with synced := update journal.synced destination synced } := by
  obtain ⟨sold, sent⟩ := accounts.send held enough eq
  have receiving : holdingOf id { offering with sharesSold := offering.sharesSold - shares }
      (withdrawFrom id holdings source
        { shares := sending.shares - shares, claimed := sending.claimed + claimable })
      destination = holdingOf id offering holdings destination := by
    unfold holdingOf
    rw [withdrawFrom_eq_put, FiniteMap.get_put_of_ne]
    exact fun equal => apart (congrArg Prod.snd equal).symm
  have restored : offering.sharesSold - shares + shares = offering.sharesSold :=
    Nat.sub_add_cancel sold
  rw [← receiving] at step
  have added := sent.add destination (restored.trans_le accounts.sold) step
  rw [receiving] at added
  rwa [restored] at added

theorem Accounts.claim {investor : Address}
    {holding : Holding} (held : holdings.get (id, investor) = some holding) {amount : Int}
    (eq : (computeClaimable holding offering : Outcome Unit Int) = .ok amount)
    (nonzero : amount ≠ 0) (inStep : journal.synced investor = true)
    (step : synced = true → holding.claimed + amount = offering.totalDeposited) :
    Accounts id offering
      (holdings.set (id, investor) { holding with claimed := holding.claimed + amount })
      { log := .claim investor amount :: journal.log
        synced := update journal.synced investor synced } := by
  obtain ⟨nonneg, most⟩ := computeClaimable_le eq
  have first : ¬ journal.log.ClaimedSince investor := fun since =>
    nonzero (claimable_eq_zero accounts.positive
      (accounts.settled investor holding held inStep since) eq)
  have earned : (amount + journal.log.paid investor) * offering.totalShares ≤
      journal.log.earned investor := by
    have credit := accounts.credit investor holding held inStep
    have unclaimed : 0 ≤ offering.totalDeposited - holding.claimed := by
      by_contra negative
      rw [max_eq_right (not_le.mp negative).le, zero_mul] at most
      have shares : (0 : Int) < offering.totalShares := natCast_pos.mpr accounts.positive
      exact nonzero (le_antisymm (nonpos_of_mul_nonpos_left most shares) nonneg)
    rw [max_eq_left unclaimed] at most
    linarith
  have paidOther : ∀ other, other ≠ investor →
      IncomeLog.paid other (.claim investor amount :: journal.log) = journal.log.paid other := by
    intro other ne
    rw [IncomeLog.paid, if_neg ne.symm, zero_add]
  have paidSelf : IncomeLog.paid investor (.claim investor amount :: journal.log) =
      amount + journal.log.paid investor := by
    rw [IncomeLog.paid, if_pos rfl]
  refine { accounts with
    shares := ?_
    within := fun other => ?_
    once := ⟨first, accounts.once⟩
    credit := fun other found atOther isSynced => ?_
    settled := fun other found atOther isSynced since => ?_ }
  · have sums := heldShares_put id offering holdings investor
      (some { holding with claimed := holding.claimed + amount })
    have before : Book.sharesOf { offering := some offering, holdings } id investor =
        holding.shares := by
      unfold Book.sharesOf
      rw [held]
      rfl
    rw [before, accounts.shares] at sums
    refine sums.trans ?_
    dsimp only [Option.elim_some]
    omega
  · by_cases same : other = investor
    · rw [same, paidSelf]
      exact earned
    · rw [paidOther other same]
      exact accounts.within other
  · dsimp only at isSynced ⊢
    rw [get_set] at atOther
    by_cases same : other = investor
    · subst same
      rw [if_pos rfl] at atOther
      rw [update_self] at isSynced
      cases atOther
      rw [step isSynced, sub_self, zero_mul, zero_add, paidSelf]
      exact earned
    · rw [if_neg fun equal => same (congrArg Prod.snd equal)] at atOther
      rw [update_of_ne same] at isSynced
      rw [paidOther other same]
      exact accounts.credit other found atOther isSynced
  · dsimp only at isSynced
    rw [get_set] at atOther
    by_cases same : other = investor
    · subst same
      rw [if_pos rfl] at atOther
      rw [update_self] at isSynced
      cases atOther
      exact step isSynced
    · rw [if_neg fun equal => same (congrArg Prod.snd equal)] at atOther
      rw [update_of_ne same] at isSynced
      rcases since with equal | since
      · exact absurd equal.symm same
      · exact accounts.settled other found atOther isSynced since

end

theorem claimed_of_synced {investor : Address} {holding : Holding}
    (synced : Book.Synced { offering := some offering
                            holdings := holdings.set (id, investor) holding } id investor) :
    holding.claimed = offering.totalDeposited := by
  unfold Book.Synced at synced
  rw [get_set_self] at synced
  exact Option.some.inj synced

theorem Accounts.of_same (accounts : Accounts id offering holdings journal)
    {next : Holdings Address} {isActive : Bool}
    (same : ∀ investor, next.get (id, investor) = holdings.get (id, investor)) :
    Accounts id { offering with isActive } next journal := by
  have shares := heldShares_of_same same
  refine { accounts with
    shares := shares.trans accounts.shares
    credit := fun investor holding held => ?_
    settled := fun investor holding held => ?_ }
  · exact accounts.credit investor holding ((same investor).symm.trans held)
  · exact accounts.settled investor holding ((same investor).symm.trans held)

theorem Accounts.opening (positive : 0 < offering.totalShares) (unsold : offering.sharesSold = 0)
    (unheld : ∀ investor, holdings.get (id, investor) = none) (empty : journal.log = []) :
    Accounts id offering holdings journal where
  positive := positive
  shares := by
    rw [unsold]
    exact heldShares_eq_zero unheld
  sold := unsold.trans_le (Nat.zero_le _)
  shared := by
    rw [empty]
    trivial
  within := by
    rw [empty]
    exact fun _ => le_of_eq (zero_mul _)
  once := by
    rw [empty]
    trivial
  credit investor holding held := by cases (unheld investor).symm.trans held
  settled investor holding held := by cases (unheld investor).symm.trans held

theorem Sound.step {book next : Book Address} {event : Event Address}
    (sound : Sound id book journal) (regular : event.Regular journal)
    (step : Step id book event next) : Sound id next (journal.record id event book next) := by
  obtain ⟨before, _⟩ := book
  cases step with
  | quiet next kept opened same =>
    obtain ⟨_, _⟩ := next
    cases before with
    | none =>
      obtain ⟨unheld, empty⟩ := sound.unopened rfl
      refine ⟨fun _ => ⟨fun investor => (same investor).trans (unheld investor), empty⟩, ?_⟩
      intro offering got
      obtain ⟨pos, unsold, -⟩ := opened offering rfl got
      exact Accounts.opening pos unsold
        (fun investor => (same investor).trans (unheld investor)) empty
    | some offering =>
      obtain ⟨_, got⟩ := kept offering rfl
      obtain rfl := got
      refine ⟨nofun, ?_⟩
      rintro _ ⟨⟩
      exact (sound.opened offering rfl).of_same same
  | deposited _ offering got pos =>
    cases got
    refine ⟨nofun, ?_⟩
    rintro _ ⟨⟩
    exact (sound.opened offering rfl).deposit pos
  | bought investor _ offering got within =>
    cases got
    refine ⟨nofun, ?_⟩
    rintro _ ⟨⟩
    refine (sound.opened offering rfl).add investor within fun inStep => ?_
    have claimed := claimed_of_synced (of_decide_eq_true inStep)
    exact claimed
  | transferred _ _ _ _ offering _ got _ held enough eq =>
    cases got
    refine ⟨nofun, ?_⟩
    rintro _ ⟨⟩
    refine (sound.opened offering rfl).transfer held enough eq regular fun inStep => ?_
    have claimed := claimed_of_synced (of_decide_eq_true inStep)
    exact claimed
  | claimed _ _ offering _ got held eq nonzero =>
    cases got
    refine ⟨nofun, ?_⟩
    rintro _ ⟨⟩
    refine (sound.opened offering rfl).claim held eq nonzero regular fun inStep => ?_
    have claimed := claimed_of_synced (of_decide_eq_true inStep)
    exact claimed

theorem Sound.fair {book : Book Address} (sound : Sound id book journal) : Fair book journal where
  within offering got := (sound.opened offering got).within
  total := by
    cases got : book.offering with
    | none =>
      rw [(sound.unopened got).2]
      exact le_rfl
    | some offering =>
      have accounts := sound.opened offering got
      exact IncomeLog.totalPaid_le_deposited (natCast_pos.mpr accounts.positive)
        accounts.shared accounts.within
  once := by
    cases got : book.offering with
    | none =>
      rw [(sound.unopened got).2]
      trivial
    | some offering => exact (sound.opened offering got).once

namespace Issuer

variable {State Call Error : Type} (issuer : Issuer State Call Error Address) (id : Nat)

/-- The contract beside which the journal of one trust or property is kept. -/
def journaled : CallMachine (State × Journal Address) Call Error :=
  issuer.machine.withGhost fun state call next =>
    Journal.record id (issuer.eventOf id state call) (issuer.bookOf id state)
      (issuer.bookOf id next)

/-- The call is regular for one trust or property. -/
def Regular (state : State × Journal Address) (call : Call) : Prop :=
  (issuer.eventOf id state.1 call).Regular state.2

theorem always_fair {calls : List Call}
    (meets : (issuer.journaled id).Meets (issuer.Regular id) (issuer.start, {}) calls) :
    (issuer.journaled id).Always (fun state => Fair (issuer.bookOf id state.1) state.2)
      (issuer.start, {}) calls := by
  let Held : State × Journal Address → Prop := fun state =>
    issuer.Numbered state.1 ∧ Sound id (issuer.bookOf id state.1) state.2
  have initial : Held (issuer.start, {}) := by
    refine ⟨issuer.numbered, ?_⟩
    rw [issuer.unopened]
    exact ⟨fun _ => ⟨fun investor => get_empty _, rfl⟩, nofun⟩
  have always : (issuer.journaled id).Always Held (issuer.start, {}) calls := by
    refine always_of_meets (fun state call next held regular ran => ?_) initial meets
    obtain ⟨ran, journal⟩ := withGhost_exec_eq_ok.mp ran
    refine ⟨issuer.keeps state.1 call next.1 held.1 ran, ?_⟩
    rw [journal]
    exact held.2.step regular (issuer.step id state.1 call next.1 held.1 ran)
  exact always.mono fun state held => held.2.fair

end Issuer

end SorobanPlayground.FractionalShares
