import SorobanPlayground.FractionalShares.Books

/-! # Shares and earned income under transfers

The shares of all holdings are those that were sold as long as nobody transfers shares to
itself. A transfer counts as claimed what the sender could claim and pays nothing, so the
sender can claim as much afterwards only when enough is left of its income and shares.
-/

namespace SorobanPlayground.FractionalShares

open Int

variable {Address : Type} [DecidableEq Address]

/-- The holdings add up to the shares that were sold, which are no more than there are. -/
structure Conserved (id : Nat) (book : Book Address) : Prop where
  held : ∀ offering, book.offering = some offering →
    heldShares book.holdings id = offering.sharesSold
  sold : ∀ offering, book.offering = some offering → offering.sharesSold ≤ offering.totalShares

/-- The part of the income not counted as claimed that falls to a holding. -/
def worth (holding : Holding) (offering : Offering) : Int :=
  min (max 0 (offering.totalDeposited - holding.claimed) * holding.shares) i128Max /
    offering.totalShares

/-- Shares are transferred to somebody else. -/
def Event.Apart : Event Address → Prop
  | .transferred source destination _ => source ≠ destination
  | _ => True

/-- What the sender could claim is covered by what is left of its income and shares after the
transfer. -/
def Event.Covered (id : Nat) (book : Book Address) : Event Address → Prop
  | .transferred source _ shares =>
      ∀ offering sending, book.offering = some offering →
        book.holdings.get (id, source) = some sending →
        worth sending offering * offering.totalShares ≤
          (max 0 (offering.totalDeposited - sending.claimed) - worth sending offering) *
            (sending.shares - shares)
  | _ => True

/-- What the sender could claim before it can claim afterwards. -/
def Event.Kept (before after : Address → Int) : Event Address → Prop
  | .transferred source _ _ => before source ≤ after source
  | _ => True

/-- What is stored is in range, and holdings are those of an offering. -/
structure Meaningful (id : Nat) (book : Book Address) : Prop where
  unheld : book.offering = none → ∀ investor, book.holdings.get (id, investor) = none
  positive : ∀ offering, book.offering = some offering → 0 < offering.totalShares
  deposited : ∀ offering, book.offering = some offering →
    0 ≤ offering.totalDeposited ∧ offering.totalDeposited ≤ i128Max
  claimed : ∀ investor holding, book.holdings.get (id, investor) = some holding →
    0 ≤ holding.claimed

variable {id : Nat} {offering : Offering} {holdings : Holdings Address} {book next : Book Address}
  {event : Event Address}

theorem heldShares_transfer {source destination : Address} {sending : Holding} {shares : Nat}
    (held : holdings.get (id, source) = some sending) (enough : shares ≤ sending.shares)
    (claimed : Int) :
    heldShares ((withdrawFrom id holdings source
      { shares := sending.shares - shares, claimed }).set (id, destination)
        { holdingOf id offering holdings destination with
          shares := (holdingOf id offering holdings destination).shares + shares }) id =
      heldShares holdings id + if source = destination then (shares : Int) else 0 := by
  rw [withdrawFrom_eq_put]
  have left : (if sending.shares - shares = 0 then none
      else some { shares := sending.shares - shares, claimed } : Option Holding).elim 0
        (fun holding => (holding.shares : Int)) = sending.shares - shares := by
    split
    · rw [Option.elim_none]
      omega
    · exact ofNat_sub enough
  generalize (if sending.shares - shares = 0 then none
      else some { shares := sending.shares - shares, claimed } : Option Holding) = kept at left ⊢
  have sent := heldShares_put id offering holdings source kept
  rw [sharesOf_of_held held, left] at sent
  have received := heldShares_put id offering (holdings.put (id, source) kept) destination
    (some { holdingOf id offering holdings destination with
      shares := (holdingOf id offering holdings destination).shares + shares })
  refine received.trans ?_
  rw [sent, Option.elim_some, sharesOf_put]
  by_cases same : source = destination
  · subst same
    have receiving : holdingOf id offering holdings source = sending := by
      unfold holdingOf
      rw [held, Option.getD_some]
    rw [if_pos rfl, if_pos rfl, receiving, left]
    push_cast
    ring
  · rw [if_neg same, if_neg fun equal => same equal.symm, sharesOf_eq_holdingOf]
    push_cast
    ring

theorem Meaningful.claimed_holdingOf
    (meaningful : Meaningful id { offering := some offering, holdings })
    (investor : Address) : 0 ≤ (holdingOf id offering holdings investor).claimed := by
  unfold holdingOf
  cases held : holdings.get (id, investor) with
  | none => exact (meaningful.deposited offering rfl).1
  | some holding => exact meaningful.claimed investor holding held

theorem claimed_put {investor : Address} {wrote : Option Holding}
    (claimed : ∀ other holding, holdings.get (id, other) = some holding → 0 ≤ holding.claimed)
    (nonneg : ∀ holding, wrote = some holding → 0 ≤ holding.claimed) (other : Address)
    (holding : Holding)
    (held : (holdings.put (id, investor) wrote).get (id, other) = some holding) :
    0 ≤ holding.claimed := by
  rw [FiniteMap.get_put] at held
  split at held
  · exact nonneg holding held
  · exact claimed other holding held

theorem claimed_set {investor : Address} {wrote : Holding}
    (claimed : ∀ other holding, holdings.get (id, other) = some holding → 0 ≤ holding.claimed)
    (nonneg : 0 ≤ wrote.claimed) (other : Address) (holding : Holding)
    (held : (holdings.set (id, investor) wrote).get (id, other) = some holding) :
    0 ≤ holding.claimed := by
  have put : holdings.set (id, investor) wrote = holdings.put (id, investor) (some wrote) := rfl
  rw [put] at held
  refine claimed_put claimed (fun got equal => ?_) other holding held
  cases equal
  exact nonneg

theorem Meaningful.step (meaningful : Meaningful id book) (step : Step id book event next) :
    Meaningful id next := by
  obtain ⟨before, _⟩ := book
  cases step with
  | quiet next kept opened same =>
    obtain ⟨_, later⟩ := next
    have claimed : ∀ investor holding, later.get (id, investor) = some holding →
        0 ≤ holding.claimed := fun investor holding held =>
      meaningful.claimed investor holding ((same investor).symm.trans held)
    cases before with
    | none =>
      refine ⟨fun _ investor => (same investor).trans (meaningful.unheld rfl investor), ?_, ?_,
        claimed⟩
      · exact fun offering got => (opened offering rfl got).1
      · intro offering got
        rw [(opened offering rfl got).2.2]
        exact ⟨le_rfl, by decide⟩
    | some offering =>
      obtain ⟨_, rfl⟩ := kept offering rfl
      refine ⟨nofun, ?_, ?_, claimed⟩
      · rintro _ ⟨⟩
        exact meaningful.positive offering rfl
      · rintro _ ⟨⟩
        exact meaningful.deposited offering rfl
  | deposited _ offering got pos fits =>
    cases got
    refine ⟨nofun, ?_, ?_, meaningful.claimed⟩
    · rintro _ ⟨⟩
      exact meaningful.positive offering rfl
    · rintro _ ⟨⟩
      exact ⟨add_nonneg (meaningful.deposited offering rfl).1 pos.le, fits.2⟩
  | bought investor _ offering got =>
    cases got
    refine ⟨nofun, ?_, ?_, ?_⟩
    · rintro _ ⟨⟩
      exact meaningful.positive offering rfl
    · rintro _ ⟨⟩
      exact meaningful.deposited offering rfl
    · exact claimed_set meaningful.claimed (meaningful.claimed_holdingOf investor)
  | transferred source destination _ claimable _ sending got _ held _ eq =>
    cases got
    have nonneg := (computeClaimable_le eq).1
    have kept : 0 ≤ sending.claimed + claimable :=
      add_nonneg (meaningful.claimed source sending held) nonneg
    refine ⟨nofun, meaningful.positive, meaningful.deposited, ?_⟩
    refine claimed_set ?_ (meaningful.claimed_holdingOf destination)
    rw [withdrawFrom_eq_put]
    refine claimed_put meaningful.claimed fun holding left => ?_
    split at left
    · cases left
    · cases left
      exact kept
  | claimed investor amount _ holding got held eq =>
    cases got
    refine ⟨nofun, meaningful.positive, meaningful.deposited, ?_⟩
    have nonneg := (computeClaimable_le eq).1
    have kept : 0 ≤ holding.claimed + amount :=
      add_nonneg (meaningful.claimed investor holding held) nonneg
    exact claimed_set meaningful.claimed kept

theorem Conserved.step_iff (meaningful : Meaningful id book) (conserved : Conserved id book)
    (step : Step id book event next) : Conserved id next ↔ event.Apart := by
  obtain ⟨got, holdings⟩ := book
  cases step with
  | quiet next kept opened same =>
    obtain ⟨after, _⟩ := next
    refine iff_of_true ?_ trivial
    cases got with
    | none =>
      refine ⟨fun offering got => ?_, fun offering got => ?_⟩
      · rw [(opened offering rfl got).2.1]
        exact heldShares_eq_zero fun investor =>
          (same investor).trans (meaningful.unheld rfl investor)
      · rw [(opened offering rfl got).2.1]
        exact Nat.zero_le _
    | some offering =>
      obtain ⟨_, rfl⟩ := kept offering rfl
      refine ⟨?_, ?_⟩
      · rintro _ ⟨⟩
        exact (heldShares_of_same same).trans (conserved.held offering rfl)
      · rintro _ ⟨⟩
        exact conserved.sold offering rfl
  | deposited _ offering got =>
    cases got
    refine iff_of_true ⟨?_, ?_⟩ trivial
    · rintro _ ⟨⟩
      exact conserved.held offering rfl
    · rintro _ ⟨⟩
      exact conserved.sold offering rfl
  | bought investor shares offering got within =>
    cases got
    refine iff_of_true ⟨?_, ?_⟩ trivial
    · rintro _ ⟨⟩
      have sums := heldShares_put id offering holdings investor
        (some { holdingOf id offering holdings investor with
          shares := (holdingOf id offering holdings investor).shares + shares })
      have held := conserved.held offering rfl
      rw [sharesOf_eq_holdingOf, held] at sums
      refine Eq.trans sums ?_
      dsimp only [Option.elim_some]
      omega
    · rintro _ ⟨⟩
      exact within
  | transferred source destination shares claimable offering sending got _ held enough =>
    cases got
    have moved : heldShares _ id = _ := @heldShares_transfer _ _ id offering holdings source
      destination sending shares held enough (sending.claimed + claimable)
    have sold := conserved.held offering rfl
    constructor
    · intro still same
      have after := still.held offering rfl
      rw [if_pos same] at moved
      have grown := moved.symm.trans after
      dsimp only at grown sold
      omega
    · intro apart
      rw [if_neg apart, add_zero] at moved
      refine ⟨?_, ?_⟩
      · rintro _ ⟨⟩
        exact moved.trans sold
      · rintro _ ⟨⟩
        exact conserved.sold offering rfl
  | claimed investor amount offering holding got held =>
    cases got
    refine iff_of_true ⟨?_, ?_⟩ trivial
    · rintro _ ⟨⟩
      have sums := heldShares_put id offering holdings investor
        (some { holding with claimed := holding.claimed + amount })
      have sold := conserved.held offering rfl
      rw [sharesOf_of_held held, sold] at sums
      refine Eq.trans sums ?_
      dsimp only [Option.elim_some]
      omega
    · rintro _ ⟨⟩
      exact conserved.sold offering rfl

theorem saturateI128_eq_min {value : Int} (nonneg : 0 ≤ value) :
    saturateI128 value = min value i128Max := by
  unfold saturateI128
  rw [min_comm, max_eq_right]
  exact le_min (le_trans (by decide) nonneg) (by decide)

theorem payable_eq_worth {holding : Holding} (pos : 0 < offering.totalShares)
    (sold : offering.sharesSold ≠ 0) (most : offering.totalDeposited ≤ i128Max)
    (claimed : 0 ≤ holding.claimed) :
    payable (computeClaimable holding offering : Outcome Unit Int) = worth holding offering := by
  unfold computeClaimable worth
  dsimp only
  have top : (0 : Int) ≤ i128Max := by decide
  split_ifs with empty nothing
  · rcases empty with unsold | unheld
    · exact absurd unsold sold
    · rw [unheld, Nat.cast_zero, mul_zero, min_eq_left top, zero_ediv]
      rfl
  · have unclaimed : offering.totalDeposited - holding.claimed ≤ 0 := by
      by_contra some
      have fits : InI128 (offering.totalDeposited - holding.claimed) :=
        ⟨le_trans (by decide) (not_le.mp some).le, (sub_le_self _ claimed).trans most⟩
      rw [saturateI128_of_mem fits] at nothing
      exact some nothing
    rw [max_eq_left unclaimed, zero_mul, min_eq_left top, zero_ediv]
    rfl
  · have unclaimed : 0 < offering.totalDeposited - holding.claimed := by
      by_contra none
      exact nothing ((saturateI128_mono (not_lt.mp none)).trans (by decide))
    have fits : InI128 (offering.totalDeposited - holding.claimed) :=
      ⟨le_trans (by decide) unclaimed.le, (sub_le_self _ claimed).trans most⟩
    have product : 0 ≤ (offering.totalDeposited - holding.claimed) * (holding.shares : Int) :=
      mul_nonneg unclaimed.le (natCast_nonneg _)
    have shares : (0 : Int) < offering.totalShares := natCast_pos.mpr pos
    have divided : checkedDiv (.trap : Failure Unit)
        (saturateI128 ((offering.totalDeposited - holding.claimed) * holding.shares))
        offering.totalShares = .ok _ :=
      checkedDiv_eq_ok.mpr ⟨shares.ne', inI128_tdiv (saturateI128_mem _) shares, rfl⟩
    rw [saturateI128_of_mem fits, divided, max_eq_right unclaimed.le, saturateI128_eq_min product,
      tdiv_eq_ediv_of_nonneg (le_min product top)]
    rfl

theorem covered_iff {unclaimed claimed total left : Int} (pos : 0 < total) (rest : 0 ≤ left)
    (nothing : unclaimed ≤ 0 → claimed = 0) :
    claimed * total ≤ max 0 (unclaimed - claimed) * left ↔
      claimed * total ≤ (max 0 unclaimed - claimed) * left := by
  rcases le_or_gt unclaimed 0 with spent | some
  · rw [nothing spent, sub_zero, max_eq_left spent, sub_zero]
  · rw [max_eq_right some.le]
    rcases le_or_gt claimed unclaimed with less | more
    · rw [max_eq_right (sub_nonneg.mpr less)]
    · have due : 0 < claimed * total := mul_pos (some.trans more) pos
      rw [max_eq_left (sub_nonpos.mpr more.le), zero_mul]
      refine iff_of_false (not_le.mpr due) (not_le.mpr (lt_of_le_of_lt ?_ due))
      exact mul_nonpos_of_nonpos_of_nonneg (sub_nonpos.mpr more.le) rest

theorem kept_iff (meaningful : Meaningful id book) (kept : Conserved id book)
    (apart : event.Apart) (step : Step id book event next) :
    event.Kept (book.claimable id) (next.claimable id) ↔ event.Covered id book := by
  obtain ⟨before, holdings⟩ := book
  cases step with
  | quiet => exact Iff.rfl
  | deposited => exact Iff.rfl
  | bought => exact Iff.rfl
  | transferred source destination shares claimable offering sending got _ held enough eq
      =>
    cases got
    have top : (0 : Int) ≤ i128Max := by decide
    have part : (sending.shares : Int) ≤ heldShares holdings id :=
      FiniteMap.weight_le_groupTotal (fun _ _ _ _ => natCast_nonneg _) held rfl
    have sold : offering.sharesSold ≠ 0 := by
      have all := kept.held offering rfl
      dsimp only at all
      omega
    have total : (0 : Int) < offering.totalShares :=
      natCast_pos.mpr (meaningful.positive offering rfl)
    have most := (meaningful.deposited offering rfl).2
    obtain ⟨nonneg, -⟩ := computeClaimable_le eq
    have due := payable_eq_worth (meaningful.positive offering rfl) sold most
      (meaningful.claimed source sending held)
    rw [eq] at due
    change claimable = worth sending offering at due
    have before : Book.claimable { offering := some offering, holdings } id source = claimable := by
      unfold Book.claimable
      rw [held]
      dsimp only
      rw [eq]
      rfl
    have covered : Event.Covered id { offering := some offering, holdings }
        (.transferred source destination shares) ↔
        claimable * offering.totalShares ≤
          (max 0 (offering.totalDeposited - sending.claimed) - claimable) *
            (sending.shares - shares) := by
      rw [due]
      constructor
      · intro all
        exact all offering sending rfl held
      · intro enough _ _ got found
        cases got
        cases held.symm.trans found
        exact enough
    rw [covered]
    change Book.claimable _ id source ≤ Book.claimable _ id source ↔ _
    rw [before, Book.claimable]
    rw [get_set_of_ne _ _ fun equal => apart (congrArg Prod.snd equal),
      withdrawFrom_eq_put, FiniteMap.get_put, if_pos rfl]
    by_cases none : sending.shares - shares = 0
    · have all : (sending.shares : Int) - shares = 0 := by omega
      rw [if_pos none, all, mul_zero]
      exact ⟨fun spent => mul_nonpos_of_nonpos_of_nonneg spent total.le,
        fun spent => nonpos_of_mul_nonpos_left spent total⟩
    · have rest : (0 : Int) ≤ sending.shares - shares := by omega
      have nothing : offering.totalDeposited - sending.claimed ≤ 0 → claimable = 0 := by
        intro spent
        rw [due, worth, max_eq_left spent, zero_mul, min_eq_left top, zero_ediv]
      have bound : claimable * offering.totalShares ≤ i128Max := by
        rw [due]
        exact (Int.ediv_mul_le _ total.ne').trans (min_le_right _ _)
      rw [if_neg none]
      dsimp only
      rw [payable_eq_worth (meaningful.positive offering rfl) sold most (add_nonneg
        (meaningful.claimed source sending held) nonneg), worth, Int.le_ediv_iff_mul_le total,
        le_min_iff, and_iff_left bound]
      rw [← sub_sub, ofNat_sub enough]
      exact covered_iff total rest nothing
  | claimed => exact Iff.rfl

namespace Issuer

variable {State Call Error : Type} (issuer : Issuer State Call Error Address)

/-- The sums of all trusts or properties are right. -/
def Conserved (state : State) : Prop :=
  ∀ id, FractionalShares.Conserved id (issuer.bookOf id state)

/-- The call takes from no sender what it could claim. -/
def Kept (state : State) (call : Call) : Prop :=
  ∀ id, (issuer.eventOf id state call).Kept (fun investor => issuer.claimable id investor state)
    fun investor => issuer.claimable id investor (issuer.machine.apply state call)

/-- The call transfers nothing to the sender itself, and what the sender could claim stays
covered. -/
def Careful (state : State) (call : Call) : Prop :=
  ∀ id, (issuer.eventOf id state call).Apart ∧
    (issuer.eventOf id state call).Covered id (issuer.bookOf id state)

def Apart (state : State) (call : Call) : Prop :=
  ∀ id, (issuer.eventOf id state call).Apart

def Base (state : State) : Prop :=
  issuer.Numbered state ∧ ∀ id, Meaningful id (issuer.bookOf id state)

variable {issuer}

theorem base_start : issuer.Base issuer.start := by
  refine ⟨issuer.numbered, fun id => ?_⟩
  rw [issuer.unopened]
  refine ⟨fun _ investor => get_empty _, nofun, nofun, fun investor holding held => ?_⟩
  cases (get_empty _).symm.trans held

theorem conserved_start : issuer.Conserved issuer.start := by
  intro id
  rw [issuer.unopened]
  exact ⟨nofun, nofun⟩

variable {call : Call}

theorem Base.step {state next : State} (base : issuer.Base state)
    (ran : issuer.machine.exec state call = .ok next) : issuer.Base next :=
  ⟨issuer.keeps state call next base.1 ran,
    fun id => (base.2 id).step (issuer.step id state call next base.1 ran)⟩

theorem conserved_iff_apart {state next : State} (base : issuer.Base state)
    (kept : issuer.Conserved state) (ran : issuer.machine.exec state call = .ok next) :
    issuer.Conserved next ↔ issuer.Apart state call :=
  forall_congr' fun id =>
    (kept id).step_iff (base.2 id) (issuer.step id state call next base.1 ran)

theorem kept_iff_covered {state next : State} (base : issuer.Base state)
    (kept : issuer.Conserved state) (apart : issuer.Apart state call)
    (ran : issuer.machine.exec state call = .ok next) :
    issuer.Kept state call ↔ issuer.Careful state call := by
  refine forall_congr' fun id => ?_
  rw [issuer.machine.apply_of_ok ran, and_iff_right (apart id)]
  simp only [issuer.claimable_eq]
  exact kept_iff (base.2 id) (kept id) (apart id)
    (issuer.step id state call next base.1 ran)

/-- The sums stay right and no transfer takes income from its sender in exactly the runs whose
transfers are careful. -/
theorem conserved_iff_careful (calls : List Call) :
    issuer.machine.Always issuer.Conserved issuer.start calls ∧
        issuer.machine.Meets issuer.Kept issuer.start calls ↔
      issuer.machine.Meets issuer.Careful issuer.start calls := by
  have keeps : ∀ state call next, issuer.Base state →
      issuer.machine.exec state call = .ok next → issuer.Base next :=
    fun _ _ _ base ran => base.step ran
  have sums : issuer.machine.Always issuer.Conserved issuer.start calls ↔
      issuer.machine.Meets issuer.Apart issuer.start calls :=
    always_iff_meets keeps
      (fun _ _ _ base conserved ran => conserved_iff_apart base conserved ran)
      base_start conserved_start
  have income : issuer.machine.Meets issuer.Apart issuer.start calls →
      (issuer.machine.Meets issuer.Kept issuer.start calls ↔
        issuer.machine.Meets issuer.Careful issuer.start calls) := by
    intro apart
    let Held : State → Prop := fun state => issuer.Base state ∧ issuer.Conserved state
    have start : Held issuer.start := ⟨base_start, conserved_start⟩
    refine CallMachine.meets_congr_of_meets (fun state call next held apart _ ran => ?_)
      (fun state call next held apart ran => ?_) start apart
    · exact ⟨held.1.step ran, (conserved_iff_apart held.1 held.2 ran).mpr apart⟩
    · exact kept_iff_covered held.1 held.2 apart ran
  rw [sums]
  constructor
  · rintro ⟨apart, kept⟩
    exact (income apart).mp kept
  · intro careful
    have implies : ∀ state call next, issuer.Base state → issuer.Careful state call →
        issuer.machine.exec state call = .ok next → issuer.Apart state call :=
      fun _ _ _ _ careful _ id => (careful id).1
    have apart : issuer.machine.Meets issuer.Apart issuer.start calls :=
      meets_of_invariant
        (fun state call next base _ ran => keeps state call next base ran) implies
        base_start careful
    exact ⟨apart, (income apart).mpr careful⟩

end Issuer

end SorobanPlayground.FractionalShares
