import SorobanPlayground.Library.Rounding
import SorobanPlayground.TokenVesting.Contract

/-! # Vested amounts

The vested amount of a schedule grows with time and with the approval of milestones, and is
never more than its total. The contract computes it where the cliff is reached and its
product fits into `i128`, and fails elsewhere.
-/

namespace SorobanPlayground.TokenVesting

open List

variable {Address : Type} {schedule : VestingSchedule Address}

def vestedAt (schedule : VestingSchedule Address) (now : Nat) : Int :=
  match schedule.vestingType with
  | .linear =>
      if schedule.endTimestamp ≤ now then schedule.totalAmount
      else (schedule.totalAmount * (now - schedule.cliffTimestamp : Nat)).tdiv
        (schedule.endTimestamp - schedule.cliffTimestamp : Nat)
  | .milestone => (schedule.totalAmount * approvedBps schedule.milestones).tdiv 10000

def Computable (schedule : VestingSchedule Address) (now : Nat) : Prop :=
  match schedule.vestingType with
  | .linear =>
      schedule.endTimestamp ≤ now ∨
        schedule.cliffTimestamp ≤ now ∧
          InI128 (schedule.totalAmount * (now - schedule.cliffTimestamp : Nat))
  | .milestone => InI128 (schedule.totalAmount * approvedBps schedule.milestones)

/-- The terms that the checks of a creation ensure. -/
structure Wellformed (schedule : VestingSchedule Address) : Prop where
  positive : 0 < schedule.totalAmount
  fits : InI128 schedule.totalAmount
  linear : schedule.vestingType = .linear → schedule.cliffTimestamp < schedule.endTimestamp
  milestones : schedule.vestingType = .milestone →
    (schedule.milestones.map Milestone.pctBps).sum = 10000

theorem approvedBps_le (milestones : List Milestone) :
    approvedBps milestones ≤ (milestones.map Milestone.pctBps).sum := by
  unfold approvedBps
  induction milestones with
  | nil => exact le_rfl
  | cons _ _ ih =>
    rw [filter_cons]
    split
    · exact Nat.add_le_add_left ih _
    · exact ih.trans (Nat.le_add_left _ _)

variable {milestones : List Milestone} {milestone : Milestone} {index : Nat}

theorem map_pctBps_approve (found : milestones[index]? = some milestone) :
    (milestones.set index { milestone with approved := true }).map Milestone.pctBps =
      milestones.map Milestone.pctBps := by
  rw [map_set]
  refine ext_getElem? fun other => ?_
  rw [List.getElem?_set]
  split
  · next same =>
    subst same
    rw [List.getElem?_map, found]
    split
    · rfl
    · next beyond =>
      have within := (List.getElem?_eq_some_iff.mp found).1
      rw [length_map] at beyond
      exact absurd within beyond
  · rfl

theorem approvedBps_approve (found : milestones[index]? = some milestone) :
    approvedBps milestones ≤
      approvedBps (milestones.set index { milestone with approved := true }) := by
  unfold approvedBps
  induction milestones generalizing index with
  | nil => exact le_rfl
  | cons _ _ ih =>
    cases index with
    | zero =>
      cases found
      rw [set_cons_zero, filter_cons, filter_cons, if_pos rfl]
      split
      · exact le_rfl
      · exact Nat.le_add_left _ _
    | succ =>
      have later := ih (List.getElem?_cons_succ.symm.trans found)
      rw [set_cons_succ, filter_cons, filter_cons]
      split
      · exact Nat.add_le_add_left later _
      · exact later

variable (wf : Wellformed schedule)
include wf

theorem Wellformed.approved_le
    (kind : schedule.vestingType = .milestone) : approvedBps schedule.milestones ≤ 10000 :=
  (approvedBps_le _).trans (wf.milestones kind).le

theorem Wellformed.vestedAt_bounds (now : Nat) :
    0 ≤ vestedAt schedule now ∧ vestedAt schedule now ≤ schedule.totalAmount := by
  unfold vestedAt
  split
  · next kind =>
    have long := wf.linear kind
    split
    · exact ⟨wf.positive.le, le_rfl⟩
    · exact Rounding.part_bounds wf.positive.le (by omega) (by omega)
  · next kind =>
    exact Rounding.part_bounds wf.positive.le (wf.approved_le kind) (by decide)

theorem Wellformed.vestedAt_mono {now later : Nat}
    (ordered : now ≤ later) : vestedAt schedule now ≤ vestedAt schedule later := by
  have most := (wf.vestedAt_bounds now).2
  unfold vestedAt at most ⊢
  split
  · next kind =>
    have long := wf.linear kind
    rw [kind] at most
    split
    · next ended => rw [if_pos (ended.trans ordered)]
    · next running =>
      rw [if_neg running] at most
      split
      · exact most
      · have duration : 0 < schedule.endTimestamp - schedule.cliffTimestamp := by omega
        refine Int.tdiv_le_tdiv (by exact_mod_cast duration)
          (mul_le_mul_of_nonneg_left ?_ wf.positive.le)
        exact_mod_cast Nat.sub_le_sub_right ordered _
  · exact le_rfl

theorem Wellformed.vestedAt_approve {milestones : List Milestone}
    (more : approvedBps schedule.milestones ≤ approvedBps milestones) (now : Nat) :
    vestedAt schedule now ≤ vestedAt { schedule with milestones } now := by
  unfold vestedAt
  split
  · next kind =>
    rw [kind]
  · next kind =>
    rw [kind]
    exact Int.tdiv_le_tdiv (by decide)
      (mul_le_mul_of_nonneg_left (by exact_mod_cast more) wf.positive.le)

theorem computeVested_eq_ok {now : Nat} {vested : Int} :
    computeVested schedule now = .ok vested ↔
      Computable schedule now ∧ vestedAt schedule now = vested := by
  unfold computeVested Computable vestedAt
  cases kind : schedule.vestingType with
  | linear =>
    dsimp only
    have long := wf.linear kind
    unfold computeLinearVested
    split
    · next ended =>
      rw [pure_eq_ok]
      exact ⟨fun same => ⟨.inl ended, same⟩, fun same => same.2⟩
    · next running =>
      have duration : (0 : Int) < (schedule.endTimestamp - schedule.cliffTimestamp : Nat) := by
        exact_mod_cast Nat.sub_pos_of_lt long
      simp only [bind_eq_ok, checkedSubUnsigned_eq_ok, arith_ok]
      constructor
      · rintro ⟨reached, -, fits, -, -, rfl⟩
        exact ⟨.inr ⟨reached, fits⟩, rfl⟩
      · rintro ⟨ended | ⟨reached, fits⟩, rfl⟩
        · exact absurd ended running
        · exact ⟨reached, long.le, fits, duration.ne',
            inI128_tdiv fits duration, rfl⟩
  | milestone =>
    have few := wf.approved_le kind
    unfold computeMilestoneVested
    simp only [call_ok, arith_ok]
    constructor
    · rintro ⟨-, fits, rfl⟩
      exact ⟨fits, rfl⟩
    · rintro ⟨fits, rfl⟩
      exact ⟨few.trans (by decide), fits, rfl⟩

end SorobanPlayground.TokenVesting
