import SorobanPlayground.Escrow.MilestoneEffects

/-! # The analytics of milestone escrows

The analytics count escrows and their amounts operation by operation. A dispute
is settled for what is left of the escrow only, so that amounts released before it
stay counted as locked and are never counted as paid out.
-/

namespace SorobanPlayground.MilestoneEscrow

open State

variable {Address : Type} {contract : Address}

def Escrow.lockedAmount (escrow : Escrow Address) : Int :=
  if escrow.status = .active ∨ escrow.status = .disputed then escrow.totalAmount else 0

def Escrow.paidOutAmount (escrow : Escrow Address) : Int :=
  if escrow.status = .completed then escrow.totalAmount else 0

/-- What an escrow contributes to the number of active ones. -/
def Escrow.activeCount (escrow : Escrow Address) : Int :=
  if escrow.status = .active then 1 else 0

def CountsActive (state : State Address) : Prop :=
  (state.analytics.activeEscrows : Int) = state.escrows.total fun _ => Escrow.activeCount

/-- The amounts locked and paid out are totals over the escrows. -/
structure CountsAmounts (state : State Address) : Prop where
  locked : state.analytics.totalValueLocked = state.escrows.total fun _ => Escrow.lockedAmount
  paidOut : state.analytics.totalPaidOut = state.escrows.total fun _ => Escrow.paidOutAmount

/-- A dispute is settled only where nothing was released before it. -/
def SettlesUnpaid (state : State Address) (call : Env Address contract × Operation Address) :
    Prop :=
  match call.2 with
  | .resolveDispute escrowId _ _ =>
      ∀ escrow, state.escrows.get escrowId = some escrow → escrow.paidAmount = 0
  | _ => True

/-- New escrows are stored under new ids, and amounts are not negative. -/
structure Booked (state : State Address) : Prop where
  filed : Filed state
  untouched : state.initialized = false → state = {}
  totals : ∀ id escrow, state.escrows.get id = some escrow → 0 ≤ escrow.totalAmount
  representable : InI128 state.analytics.totalValueLocked

theorem booked_empty : Booked ({} : State Address) where
  filed := filed_empty
  untouched _ := rfl
  totals id escrow got := by cases got
  representable := by
    have zero : InI128 0 := by decide
    exact zero

section Steps

variable {state next : State Address} {call : Env Address contract × Operation Address}

theorem Effect.ready (effect : Effect state next call) : next.initialized = true := by
  cases effect with
  | begins => simp [*]
  | _ => simp [*, setEscrow, setAnalytics, setMilestone]

theorem Effect.totals (totals : ∀ id escrow, state.escrows.get id = some escrow →
    0 ≤ escrow.totalAmount) (effect : Effect state next call) :
    ∀ id escrow, next.escrows.get id = some escrow → 0 ≤ escrow.totalAmount := by
  cases effect with
  | begins => simpa [*] using totals
  | create _ _ _ _ _ _ _ _ _ _ _ _ _ _ pos sum wrote =>
    subst wrote
    simp only [setAnalytics, setEscrow, setMilestones_escrows]
    apply forall_set totals
    rw [sum]
    exact List.sum_nonneg fun amount mem => (pos amount mem).le
  | move => simpa [*, setMilestone] using totals
  | deposit _ _ escrow _ _ got _ _ _ _ wrote =>
    subst wrote
    exact forall_set totals (totals _ escrow got)
  | release _ _ escrow _ _ got _ _ _ _ wrote =>
    subst wrote
    simp only [setEscrow, pay_escrows]
    exact forall_set totals (totals _ escrow got)
  | complete _ _ escrow _ _ _ got _ _ _ _ wrote =>
    subst wrote
    simp only [setAnalytics, setEscrow, pay_escrows]
    exact forall_set totals (totals _ escrow got)
  | dispute _ _ escrow _ _ got _ wrote =>
    subst wrote
    exact forall_set totals (totals _ escrow got)
  | resolve _ _ _ escrow _ _ got _ wrote =>
    subst wrote
    exact forall_set totals (totals _ escrow got)
  | cancel _ _ escrow _ _ got _ wrote =>
    subst wrote
    exact forall_set totals (totals _ escrow got)

theorem Effect.booked (booked : Booked state) (effect : Effect state next call) : Booked next where
  filed := effect.filed booked.filed
  untouched unready := (Bool.false_ne_true (unready.symm.trans effect.ready)).elim
  totals := effect.totals booked.totals
  representable := by
    have before := booked.representable
    cases effect with
    | begins => simp [*]; decide
    | _ => simp [*, setEscrow, setAnalytics, setMilestone, saturateI128_mem]

theorem total_rewritten {escrow wrote : Escrow Address} (weight : Escrow Address → Int)
    (got : state.escrows.get escrow.id = some escrow)
    (rewritten : next.escrows = state.escrows.set escrow.id wrote) :
    (next.escrows.total fun _ => weight) =
      (state.escrows.total fun _ => weight) - weight escrow + weight wrote := by
  rw [rewritten, total_set_of_stored _ got]

theorem total_created {escrow : Escrow Address} {weight : Escrow Address → Int}
    (filed : Filed state) (fresh : escrow.id = state.escrowCount + 1)
    (created : next.escrows = state.escrows.set escrow.id escrow) (weightless : weight escrow = 0) :
    (next.escrows.total fun _ => weight) = state.escrows.total fun _ => weight := by
  have gone : state.escrows.get escrow.id = none := by
    apply Option.eq_none_iff_forall_ne_some.mpr
    intro other got
    have below := (filed.named _ other got).2
    omega
  rw [created, total_set, gone, weightAt_none, weightless, sub_zero, add_zero]

variable {escrow : Escrow Address}

theorem Escrow.activeCount_nonneg (escrow : Escrow Address) : 0 ≤ escrow.activeCount := by
  unfold Escrow.activeCount
  split <;> decide

theorem Escrow.lockedAmount_nonneg (nonneg : 0 ≤ escrow.totalAmount) : 0 ≤ escrow.lockedAmount := by
  unfold Escrow.lockedAmount
  split
  · exact nonneg
  · exact le_rfl

theorem CountsActive.pos (counts : CountsActive state)
    (got : state.escrows.get escrow.id = some escrow) (active : escrow.status = .active) :
    1 ≤ state.analytics.activeEscrows := by
  have counted : escrow.activeCount = 1 := if_pos active
  have bound := weight_le_total (fun _ other _ => Escrow.activeCount_nonneg other) got
  unfold CountsActive at counts
  omega

theorem Effect.countsActive (booked : Booked state) (counts : CountsActive state)
    (effect : Effect state next call) : CountsActive next := by
  have before := counts
  unfold CountsActive at counts ⊢
  cases effect with
  | begins _ _ _ unready wrote =>
    obtain rfl := booked.untouched unready
    subst wrote
    rfl
  | create _ _ _ _ _ _ escrow _ _ fresh pending _ _ _ _ _ wrote =>
    have created := congrArg escrows wrote
    simp only [setAnalytics, setEscrow, setMilestones_escrows] at created
    have weightless : escrow.activeCount = 0 := by simp [Escrow.activeCount, pending]
    rw [total_created booked.filed fresh created weightless, ← counts, wrote]
    rfl
  | deposit _ _ _ _ _ got pending _ _ _ wrote =>
    rw [total_rewritten Escrow.activeCount got (congrArg escrows wrote), ← counts]
    simp [wrote, Escrow.activeCount, pending, setAnalytics]
  | move _ _ _ _ _ _ _ _ _ _ _ wrote =>
    subst wrote
    exact counts
  | release _ _ _ _ _ got _ _ _ _ wrote =>
    have rewritten := congrArg escrows wrote
    simp only [setEscrow, pay_escrows] at rewritten
    rw [total_rewritten Escrow.activeCount got rewritten, ← counts]
    simp [wrote, Escrow.activeCount, setEscrow]
  | complete _ _ _ _ _ _ got active _ _ _ wrote =>
    have rewritten := congrArg escrows wrote
    simp only [setEscrow, setAnalytics, pay_escrows] at rewritten
    have pos := before.pos got active
    rw [total_rewritten Escrow.activeCount got rewritten, ← counts]
    simp [wrote, Escrow.activeCount, setEscrow, setAnalytics, active]
    omega
  | dispute _ _ _ _ _ got active wrote =>
    have pos := before.pos got active
    rw [total_rewritten Escrow.activeCount got (congrArg escrows wrote), ← counts]
    simp [wrote, Escrow.activeCount, setEscrow, setAnalytics, active]
    omega
  | resolve _ _ _ _ _ _ got disputed wrote =>
    rw [total_rewritten Escrow.activeCount got (congrArg escrows wrote), ← counts]
    simp [wrote, Escrow.activeCount, setEscrow, setAnalytics, disputed]
  | cancel _ _ _ _ _ got pending wrote =>
    rw [total_rewritten Escrow.activeCount got (congrArg escrows wrote), ← counts]
    simp [wrote, Escrow.activeCount, setEscrow, setAnalytics, pending]

theorem countsAmounts_rewritten {wrote : Escrow Address} (counts : CountsAmounts state)
    (got : state.escrows.get escrow.id = some escrow)
    (rewritten : next.escrows = state.escrows.set escrow.id wrote) :
    CountsAmounts next ↔
      next.analytics.totalValueLocked =
          state.analytics.totalValueLocked - escrow.lockedAmount + wrote.lockedAmount ∧
        next.analytics.totalPaidOut =
          state.analytics.totalPaidOut - escrow.paidOutAmount + wrote.paidOutAmount := by
  have locked := total_rewritten Escrow.lockedAmount got rewritten
  have paidOut := total_rewritten Escrow.paidOutAmount got rewritten
  rw [← counts.locked] at locked
  rw [← counts.paidOut] at paidOut
  rw [← locked, ← paidOut]
  exact ⟨fun counts => ⟨counts.locked, counts.paidOut⟩, fun ⟨locked, paidOut⟩ => ⟨locked, paidOut⟩⟩

theorem Effect.countsAmounts (booked : Booked state) (counts : CountsAmounts state)
    (effect : Effect state next call) : CountsAmounts next ↔ SettlesUnpaid state call := by
  obtain ⟨locked, paidOut⟩ := counts
  have covered {escrow : Escrow Address} (got : state.escrows.get escrow.id = some escrow)
      (live : escrow.status = .active ∨ escrow.status = .disputed) :
      saturateI128 (state.analytics.totalValueLocked - escrow.totalAmount) =
        state.analytics.totalValueLocked - escrow.totalAmount := by
    have bound := weight_le_total (fun id other got =>
      Escrow.lockedAmount_nonneg (booked.totals id other got)) got
    have counted : escrow.lockedAmount = escrow.totalAmount := if_pos live
    have total := booked.totals _ escrow got
    rw [← locked] at bound
    refine saturateI128_of_mem (inI128_of_le ?_ ?_ booked.representable)
    · omega
    · omega
  have amounts {escrow wrote : Escrow Address}
      (got : state.escrows.get escrow.id = some escrow) :=
    @countsAmounts_rewritten _ state next escrow wrote ⟨locked, paidOut⟩ got
  cases effect with
  | begins _ _ _ unready wrote =>
    obtain rfl := booked.untouched unready
    subst wrote
    exact iff_of_true ⟨rfl, rfl⟩ trivial
  | create _ _ _ _ _ _ escrow _ _ fresh pending unpaid _ _ _ _ wrote =>
    have created := congrArg escrows wrote
    simp only [setAnalytics, setEscrow, setMilestones_escrows] at created
    have unlocked : escrow.lockedAmount = 0 := by simp [Escrow.lockedAmount, pending]
    have unpaid : escrow.paidOutAmount = 0 := by simp [Escrow.paidOutAmount, pending]
    refine iff_of_true ⟨?_, ?_⟩ trivial
    · rw [total_created booked.filed fresh created unlocked, ← locked, wrote]
      rfl
    · rw [total_created booked.filed fresh created unpaid, ← paidOut, wrote]
      rfl
  | deposit _ _ _ _ _ got pending _ _ _ wrote =>
    rw [amounts got (congrArg escrows wrote)]
    simp [wrote, Escrow.lockedAmount, Escrow.paidOutAmount, pending, SettlesUnpaid,
      setAnalytics, setEscrow, setMilestone]
  | move _ _ _ _ _ _ _ _ _ _ unresolved wrote =>
    subst wrote
    refine iff_of_true ⟨locked, paidOut⟩ ?_
    unfold SettlesUnpaid
    split
    · next resolves => exact (unresolved _ _ _ resolves).elim
    · trivial
  | release _ _ _ _ _ got _ _ _ _ wrote =>
    have rewritten := congrArg escrows wrote
    simp only [setEscrow, pay_escrows] at rewritten
    rw [amounts got rewritten]
    simp [wrote, Escrow.lockedAmount, Escrow.paidOutAmount, SettlesUnpaid, setEscrow]
  | complete _ _ _ _ _ _ got active _ _ _ wrote =>
    have rewritten := congrArg escrows wrote
    simp only [setEscrow, setAnalytics, pay_escrows] at rewritten
    rw [amounts got rewritten]
    simp [wrote, Escrow.lockedAmount, Escrow.paidOutAmount, SettlesUnpaid, setEscrow,
      setAnalytics, active, covered got (.inl active)]
  | dispute _ _ _ _ _ got active wrote =>
    rw [amounts got (congrArg escrows wrote)]
    simp [wrote, Escrow.lockedAmount, Escrow.paidOutAmount, SettlesUnpaid, setEscrow,
      setAnalytics, active]
  | resolve _ _ _ escrow _ _ got disputed wrote =>
    rw [amounts got (congrArg escrows wrote)]
    simp only [wrote, Escrow.lockedAmount, Escrow.paidOutAmount, SettlesUnpaid, setEscrow,
      setAnalytics, disputed]
    constructor
    · rintro ⟨-, settled⟩ _ found
      cases got.symm.trans found
      simp at settled
      exact settled
    · intro settles
      simp [settles escrow got, covered got (.inr disputed)]
  | cancel _ _ _ _ _ got pending wrote =>
    rw [amounts got (congrArg escrows wrote)]
    simp [wrote, Escrow.lockedAmount, Escrow.paidOutAmount, SettlesUnpaid, setEscrow,
      setAnalytics, pending]

variable [DecidableEq Address]

theorem booked_step (state : State Address) (call : Env Address contract × Operation Address)
    (next : State Address) (booked : Booked state)
    (ran : (machine contract).exec state call = .ok next) : Booked next :=
  (dispatch_effect booked.filed ran).booked booked

end Steps

/-- The analytics count the active escrows, the value locked in active and disputed ones, and
the value of completed ones. -/
def AnalyticsExact (state : State Address) : Prop := CountsActive state ∧ CountsAmounts state

variable [DecidableEq Address]

/-- The analytics are exact throughout a run exactly when no dispute is settled after a
release; the count of active escrows always is. -/
theorem analytics_exact_iff_settles_unpaid
    (calls : List (Env Address contract × Operation Address)) :
    (machine contract).Always CountsActive {} calls ∧
      ((machine contract).Always AnalyticsExact {} calls ↔
        (machine contract).Meets SettlesUnpaid {} calls) := by
  have counted : (machine contract).Always
      (fun state => Booked state ∧ CountsActive state) {} calls := by
    apply always_invariant
    · rintro state call next ⟨booked, counts⟩ ran
      have effect := dispatch_effect booked.filed ran
      exact ⟨effect.booked booked, effect.countsActive booked counts⟩
    · exact ⟨booked_empty, rfl⟩
  refine ⟨counted.mono fun state both => both.2, ?_⟩
  apply always_iff_meets booked_step
  · rintro _ _ _ booked ⟨active, amounts⟩ ran
    have effect := dispatch_effect booked.filed ran
    rw [← effect.countsAmounts booked amounts]
    exact and_iff_right (effect.countsActive booked active)
  · exact booked_empty
  · exact ⟨rfl, rfl, rfl⟩

/-- Every party authorizes a call. -/
def signed : Env Nat 0 := { timestamp := 0, auths := [1, 2, 3], contract_silent := zero_notMem_three_signers }

/-- Client `1` pays the first milestone of `40` to freelancer `2` and disputes the second one
of `60`, which arbiter `3` settles. -/
def releasedThenDisputed : List (Env Nat 0 × Operation Nat) :=
  [(signed, .initializeEscrow 1 200), (signed, .createEscrow 1 2 3 100 [40, 60]),
    (signed, .deposit 1 1), (signed, .submitMilestone 1 2 1), (signed, .approveMilestone 1 1 1),
    (signed, .releasePayment 1 1 1), (signed, .raiseDispute 1 1), (signed, .resolveDispute 1 3 0)]

/-- The settled escrow of `100` leaves `40` locked and counts `60` as paid out. -/
theorem settlement_after_release_leaves_value_locked :
    ((machine 0).run {} releasedThenDisputed).analytics.totalValueLocked = 40 ∧
      ((machine 0).run {} releasedThenDisputed).analytics.totalPaidOut = 60 ∧
      ¬ (machine 0).Always AnalyticsExact {} releasedThenDisputed := by
  have locked : ((machine 0).run {} releasedThenDisputed).analytics.totalValueLocked = 40 := rfl
  have paidOut : ((machine 0).run {} releasedThenDisputed).analytics.totalPaidOut = 60 := rfl
  refine ⟨locked, paidOut, fun always => ?_⟩
  have exact := always.final.2.locked
  cases exact

end SorobanPlayground.MilestoneEscrow
