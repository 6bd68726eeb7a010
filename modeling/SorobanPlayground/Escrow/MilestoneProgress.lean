import Mathlib.Algebra.BigOperators.Fin
import Mathlib.Algebra.BigOperators.Intervals
import Mathlib.Algebra.Order.BigOperators.Group.Finset
import SorobanPlayground.Escrow.MilestoneEffects

/-! # The progress of milestone escrows

The milestones of an escrow form its plan. While the escrow is active or disputed, the
plan is a prefix of paid milestones, one milestone in work and a rest of pending ones,
and the paid amount is what the prefix adds up to. The release of the last milestone
completes the escrow.
-/

namespace SorobanPlayground.MilestoneEscrow

open Finset Option State

variable {Address : Type} {contract : Address}

abbrev Plan := Nat → Option Milestone

variable {milestone : Milestone}

namespace Plan

variable (plan : Plan)

def amountAt (id : Nat) : Int := ((plan id).map Milestone.amount).getD 0

def statusAt (id : Nat) : Option MilestoneStatus := (plan id).map Milestone.status

def amountBefore (id : Nat) : Int := ∑ earlier ∈ Ico 1 id, plan.amountAt earlier

/-- The amounts of the paid milestones among the first ones, added up. -/
def paidSum (count : Nat) : Int :=
  ∑ id ∈ Ico 1 (count + 1), if plan.statusAt id = some .paid then plan.amountAt id else 0

/-- Milestones up to a count are stored, with positive amounts, and no others are. -/
structure Stored (count : Nat) : Prop where
  nonempty : 1 ≤ count
  ids : ∀ id, (plan id).isSome ↔ 1 ≤ id ∧ id ≤ count
  positive : ∀ id milestone, plan id = some milestone → 0 < milestone.amount

/-- The milestones before the current one are paid, it is in work, and those after it are
pending. -/
structure Sequenced (count current : Nat) : Prop where
  within : 1 ≤ current ∧ current ≤ count
  before : ∀ id, 1 ≤ id → id < current → plan.statusAt id = some .paid
  working : plan.statusAt current = some .inProgress ∨
    plan.statusAt current = some .underReview ∨ plan.statusAt current = some .approved
  after : ∀ id, current < id → id ≤ count → plan.statusAt id = some .pending

variable {plan} {next : Plan} {count current : Nat}

theorem Stored.congr (got : plan.Stored count)
    (same : ∀ id, (next id).map Milestone.amount = (plan id).map Milestone.amount) :
    next.Stored count where
  nonempty := got.nonempty
  ids id := by
    have agree := congrArg Option.isSome (same id)
    rw [isSome_map, isSome_map] at agree
    rw [agree]
    exact got.ids id
  positive id milestone found := by
    have agree := same id
    rw [found, map_some] at agree
    obtain ⟨before, stored_before, amount⟩ := map_eq_some_iff.mp agree.symm
    rw [← amount]
    exact got.positive id before stored_before

theorem amountBefore_congr
    (same : ∀ id, (next id).map Milestone.amount = (plan id).map Milestone.amount) (id : Nat) :
    next.amountBefore id = plan.amountBefore id :=
  sum_congr rfl fun earlier _ => congrArg (Option.getD · 0) (same earlier)

theorem amountBefore_succ (first : 1 ≤ current) :
    plan.amountBefore (current + 1) = plan.amountBefore current + plan.amountAt current :=
  sum_Ico_succ_top first _

theorem Stored.amountBefore_lt (got : plan.Stored count) (first : 1 ≤ current)
    (last : current ≤ count) : plan.amountBefore current < plan.amountBefore (count + 1) := by
  have rest : 0 < ∑ id ∈ Ico current (count + 1), plan.amountAt id := by
    apply sum_pos
    · intro id mem
      obtain ⟨above, below⟩ := mem_Ico.mp mem
      have inside : 1 ≤ id ∧ id ≤ count := ⟨first.trans above, Nat.le_of_lt_succ below⟩
      obtain ⟨milestone, found⟩ := isSome_iff_exists.mp ((got.ids id).mpr inside)
      rw [amountAt, found]
      exact got.positive id milestone found
    · exact nonempty_Ico.mpr (Nat.lt_succ_of_le last)
  have split : plan.amountBefore current + ∑ id ∈ Ico current (count + 1), plan.amountAt id =
      plan.amountBefore (count + 1) :=
    sum_Ico_consecutive plan.amountAt first (last.trans (Nat.le_succ count))
  omega

theorem Sequenced.paidSum_eq (sequenced : plan.Sequenced count current) :
    plan.paidSum count = plan.amountBefore current := by
  obtain ⟨first, last⟩ := sequenced.within
  have paid : ∑ id ∈ Ico 1 current,
      (if plan.statusAt id = some .paid then plan.amountAt id else 0) =
        plan.amountBefore current := by
    apply sum_congr rfl
    intro id mem
    obtain ⟨above, below⟩ := mem_Ico.mp mem
    exact if_pos (sequenced.before id above below)
  have unpaid : ∑ id ∈ Ico current (count + 1),
      (if plan.statusAt id = some .paid then plan.amountAt id else 0) = 0 := by
    apply sum_eq_zero
    intro id mem
    obtain ⟨above, below⟩ := mem_Ico.mp mem
    apply if_neg
    rcases above.eq_or_lt with rfl | above
    · rcases sequenced.working with status | status | status <;> rw [status] <;> decide
    · rw [sequenced.after id above (Nat.le_of_lt_succ below)]
      decide
  have split := sum_Ico_consecutive
    (fun id => if plan.statusAt id = some .paid then plan.amountAt id else 0) first
    (last.trans (Nat.le_succ count))
  rw [paidSum, ← split, paid, unpaid, add_zero]

theorem Sequenced.eq_current (sequenced : plan.Sequenced count current) (got : plan.Stored count)
    {id : Nat} (found : plan id = some milestone) (unpaid : milestone.status ≠ .paid)
    (started : milestone.status ≠ .pending) : id = current := by
  have status : plan.statusAt id = some milestone.status := by rw [statusAt, found, map_some]
  have here : (plan id).isSome := by rw [found]; rfl
  obtain ⟨first, last⟩ := (got.ids id).mp here
  rcases Nat.lt_trichotomy id current with below | same | above
  · have paid := sequenced.before id first below
    rw [status] at paid
    exact (unpaid (Option.some.inj paid)).elim
  · exact same
  · have pending := sequenced.after id above last
    rw [status] at pending
    exact (started (Option.some.inj pending)).elim

end Plan

namespace Plan

variable {plan : Plan} {count current : Nat}

def write (plan : Plan) (id : Nat) (milestone : Milestone) : Plan := fun other =>
  if other = id then some milestone else plan other

theorem statusAt_write (id other : Nat) (milestone : Milestone) :
    (plan.write id milestone).statusAt other =
      if other = id then some milestone.status else plan.statusAt other := by
  unfold statusAt write
  split <;> rfl

theorem write_amounts {id : Nat} (found : plan id = some milestone)
    (status : MilestoneStatus) (other : Nat) :
    (plan.write id { milestone with status } other).map Milestone.amount =
      (plan other).map Milestone.amount := by
  unfold write
  split
  · next same => rw [same, found]; rfl
  · rfl

theorem sequenced_start (got : plan.Stored count)
    (pending : ∀ id milestone, plan id = some milestone → milestone.status = .pending)
    (first : Milestone) :
    (plan.write 1 { first with status := .inProgress }).Sequenced count 1 where
  within := ⟨le_rfl, got.nonempty⟩
  before id above below := by omega
  working := .inl (by rw [statusAt_write, if_pos rfl])
  after id above last := by
    obtain ⟨_, found⟩ := isSome_iff_exists.mp ((got.ids id).mpr ⟨above.le, last⟩)
    rw [statusAt_write, if_neg above.ne', statusAt, found, map_some, pending id _ found]

theorem Sequenced.move (sequenced : plan.Sequenced count current)
    {status : MilestoneStatus} (moves : MilestoneMove milestone.status status) :
    (plan.write current { milestone with status }).Sequenced count current where
  within := sequenced.within
  before id above below := by
    rw [statusAt_write, if_neg below.ne]
    exact sequenced.before id above below
  working := by
    rw [statusAt_write, if_pos rfl]
    rcases moves with ⟨-, rfl⟩ | ⟨-, rfl⟩ | ⟨-, rfl⟩
    · exact .inr (.inl rfl)
    · exact .inr (.inr rfl)
    · exact .inl rfl
  after id above last := by
    rw [statusAt_write, if_neg above.ne']
    exact sequenced.after id above last

/-- The plan after the payment of a milestone, which starts the next one. -/
def pay (plan : Plan) (count : Nat) (paid : Milestone) : Plan := fun id =>
  if id = paid.id then some { paid with status := .paid }
  else if id = paid.id + 1 ∧ paid.id + 1 ≤ count then (plan id).map Milestone.start
  else plan id

theorem pay_amounts (count : Nat) {paid : Milestone} (found : plan paid.id = some paid) (id : Nat) :
    (plan.pay count paid id).map Milestone.amount = (plan id).map Milestone.amount := by
  unfold pay
  split
  · next same => rw [same, found]; rfl
  · split
    · rw [Option.map_map]
      congr 1
      funext milestone
      rw [Function.comp_apply, Milestone.start]
      split <;> rfl
    · rfl

theorem statusAt_pay_self (plan : Plan) (paid : Milestone) :
    (plan.pay count paid).statusAt paid.id = some .paid := by
  rw [statusAt, pay, if_pos rfl, map_some]

theorem Sequenced.pay {paid : Milestone} (sequenced : plan.Sequenced count paid.id)
    (more : paid.id < count) : (plan.pay count paid).Sequenced count (paid.id + 1) where
  within := ⟨Nat.le_add_left 1 _, more⟩
  before id above below := by
    by_cases same : id = paid.id
    · rw [same, statusAt_pay_self]
    · have earlier : id < paid.id := by omega
      rw [statusAt, Plan.pay, if_neg same, if_neg (fun both : _ ∧ _ => by omega)]
      exact sequenced.before id above earlier
  working := by
    have pending := sequenced.after (paid.id + 1) (Nat.lt_succ_self _) more
    obtain ⟨_, found, status⟩ := map_eq_some_iff.mp pending
    rw [statusAt, Plan.pay, if_neg (Nat.succ_ne_self _), if_pos ⟨rfl, more⟩, found,
      map_some, map_some, Milestone.start, if_pos status]
    exact .inl rfl
  after id above last := by
    rw [statusAt, Plan.pay, if_neg (by omega), if_neg (fun both : _ ∧ _ => by omega)]
    exact sequenced.after id (by omega) last

end Plan

def State.plan (state : State Address) (escrowId : Nat) : Plan := fun id =>
  state.milestones.get (escrowId, id)

/-- How far an escrow has come along its plan. -/
def Escrow.Advanced (escrow : Escrow Address) (plan : Plan) : Prop :=
  match escrow.status with
  | .pending => escrow.paidAmount = 0 ∧
      ∀ id milestone, plan id = some milestone → milestone.status = .pending
  | .active | .disputed => ∃ current, plan.Sequenced escrow.milestoneCount current ∧
      escrow.paidAmount = plan.amountBefore current
  | .completed | .cancelled => True

/-- The plan of an escrow adds up to its total, and the escrow has advanced along it. -/
structure Escrow.Follows (escrow : Escrow Address) (plan : Plan) : Prop where
  stored : plan.Stored escrow.milestoneCount
  total : plan.amountBefore (escrow.milestoneCount + 1) = escrow.totalAmount
  advanced : escrow.Advanced plan

structure Planned (state : State Address) : Prop where
  filed : Filed state
  follows : ∀ id escrow, state.escrows.get id = some escrow → escrow.Follows (state.plan id)

theorem planned_empty : Planned ({} : State Address) where
  filed := filed_empty
  follows id escrow got := by cases got

variable {state : State Address}

theorem plan_setMilestone (escrowId : Nat) (milestone : Milestone) :
    (state.setMilestone escrowId milestone).plan escrowId =
      (state.plan escrowId).write milestone.id milestone := by
  funext id
  unfold plan setMilestone Plan.write
  rw [get_set]
  by_cases same : id = milestone.id
  · rw [if_pos same, if_pos (by rw [same])]
  · rw [if_neg same, if_neg (fun equal => same (congrArg Prod.snd equal))]

theorem plan_setMilestone_of_ne {escrowId other : Nat} (ne : other ≠ escrowId)
    (milestone : Milestone) :
    (state.setMilestone escrowId milestone).plan other = state.plan other := by
  funext id
  exact get_set_of_ne _ _ fun equal => ne (congrArg Prod.fst equal)

theorem plan_pay (filed : Filed state) (escrow : Escrow Address) (paid : Milestone) :
    (state.pay escrow paid).plan escrow.id =
      (state.plan escrow.id).pay escrow.milestoneCount paid := by
  funext id
  unfold plan Plan.pay
  rw [get_pay filed]
  simp only [Prod.mk.injEq, true_and]

theorem plan_pay_of_ne (filed : Filed state) {escrow : Escrow Address} {other : Nat}
    (ne : other ≠ escrow.id) (paid : Milestone) :
    (state.pay escrow paid).plan other = state.plan other := by
  funext id
  unfold plan
  rw [get_pay filed, if_neg (fun equal => ne (congrArg Prod.fst equal)), if_neg (fun both : _
    ∧ _ => ne (congrArg Prod.fst both.1))]

theorem plan_setMilestones {escrowId : Nat} {amounts : List Int}
    (gone : ∀ id, state.plan escrowId id = none) (id : Nat) :
    (setMilestones escrowId state 1 amounts).plan escrowId id =
      if 1 ≤ id then
        amounts[id - 1]?.map fun amount => { id, amount, status := .pending }
      else none := by
  by_cases first : 1 ≤ id
  · obtain ⟨_, rfl⟩ := Nat.exists_eq_add_of_le first
    rw [if_pos first, Nat.add_sub_cancel_left]
    exact get_setMilestones fun later _ => gone later
  · rw [if_neg first]
    exact (get_setMilestones_of_ne (.inr (not_le.mp first))).trans (gone id)

section Steps

variable {next : State Address} {escrow : Escrow Address}

theorem Planned.step (planned : Planned state) (filed : Filed next) {target : Nat}
    (escrows : ∀ id, id ≠ target → next.escrows.get id = state.escrows.get id)
    (plans : ∀ id, id ≠ target → next.plan id = state.plan id)
    (own : ∀ written, next.escrows.get target = some written → written.Follows (next.plan target)) :
    Planned next := by
  refine ⟨filed, fun id written found => ?_⟩
  by_cases same : id = target
  · rw [same] at found ⊢
    exact own written found
  · rw [escrows id same] at found
    rw [plans id same]
    exact planned.follows id written found

variable {written : Escrow Address}

theorem Planned.write (planned : Planned state) (filed : Filed next) {target : Nat}
    (escrows : next.escrows = state.escrows.set target written)
    (plans : ∀ id, id ≠ target → next.plan id = state.plan id)
    (follows : written.Follows (next.plan target)) : Planned next := by
  apply planned.step filed _ plans
  · intro found got
    rw [escrows, get_set_self] at got
    exact Option.some.inj got ▸ follows
  · intro id ne
    rw [escrows]
    exact get_set_of_ne _ _ ne

theorem Escrow.Follows.ended {plan : Plan} (follows : escrow.Follows plan)
    (count : written.milestoneCount = escrow.milestoneCount)
    (total : written.totalAmount = escrow.totalAmount)
    (ended : written.status = .completed ∨ written.status = .cancelled) : written.Follows plan where
  stored := count ▸ follows.stored
  total := by rw [count, total, follows.total]
  advanced := by
    unfold Escrow.Advanced
    rcases ended with status | status <;> rw [status] <;> trivial

theorem Escrow.Follows.live {plan : Plan} (follows : escrow.Follows plan)
    (live : escrow.status = .active ∨ escrow.status = .disputed) :
    ∃ current, plan.Sequenced escrow.milestoneCount current ∧
      escrow.paidAmount = plan.amountBefore current := by
  have advanced := follows.advanced
  unfold Escrow.Advanced at advanced
  rcases live with status | status <;> rwa [status] at advanced

theorem follows_created {amounts : List Int} {plan : Plan} (made : ∀ id, plan id = if 1 ≤ id then
      amounts[id - 1]?.map fun amount => { id, amount, status := .pending } else none)
    (pending : escrow.status = .pending) (unpaid : escrow.paidAmount = 0)
    (counted : escrow.milestoneCount = amounts.length) (nonempty : amounts ≠ [])
    (pos : ∀ amount ∈ amounts, 0 < amount) (sum : escrow.totalAmount = amounts.sum) :
    escrow.Follows plan := by
  have got : plan.Stored escrow.milestoneCount := by
    refine ⟨?_, fun id => ?_, fun id milestone found => ?_⟩
    · rw [counted]
      exact List.length_pos_iff.mpr nonempty
    · rw [made, counted]
      by_cases first : 1 ≤ id
      · rw [if_pos first, isSome_map, isSome_getElem?]
        omega
      · simp [first]
    · rw [made] at found
      split at found
      · obtain ⟨amount, listed, rfl⟩ := map_eq_some_iff.mp found
        exact pos amount (List.mem_of_getElem? listed)
      · cases found
  refine ⟨got, ?_, ?_⟩
  · have amount (index : Nat) (inside : index < amounts.length) :
        plan.amountAt (1 + index) = amounts[index] := by
      rw [Plan.amountAt, made, if_pos (Nat.le_add_right 1 index), Nat.add_sub_cancel_left,
        List.getElem?_eq_getElem inside]
      rfl
    rw [Plan.amountBefore, sum_Ico_eq_sum_range, Nat.add_sub_cancel, counted, Finset.sum_range, sum,
      ← Fin.sum_univ_getElem]
    exact Finset.sum_congr rfl fun index _ => amount index index.isLt
  · unfold Escrow.Advanced
    rw [pending]
    refine ⟨unpaid, fun id milestone found => ?_⟩
    rw [made] at found
    split at found
    · obtain ⟨_, -, rfl⟩ := map_eq_some_iff.mp found
      rfl
    · cases found

/-- What the payment of a milestone makes of an active escrow: it is the current one, and
the escrow is fully paid exactly when it is the last one. -/
theorem Escrow.Follows.paid {plan : Plan} (follows : escrow.Follows plan)
    (active : escrow.status = .active) (found : plan milestone.id = some milestone)
    (approved : milestone.status = .approved) :
    plan.Sequenced escrow.milestoneCount milestone.id ∧
      escrow.paidAmount + milestone.amount = plan.amountBefore (milestone.id + 1) ∧
      (escrow.totalAmount ≤ escrow.paidAmount + milestone.amount ↔
        milestone.id = escrow.milestoneCount) := by
  obtain ⟨_, sequenced, paid⟩ := follows.live (.inl active)
  have unpaid : milestone.status ≠ .paid := by rw [approved]; decide
  have started : milestone.status ≠ .pending := by rw [approved]; decide
  obtain rfl := sequenced.eq_current follows.stored found unpaid started
  obtain ⟨first, _⟩ := sequenced.within
  have amount : plan.amountAt milestone.id = milestone.amount := by
    rw [Plan.amountAt, found]
    rfl
  have sum : escrow.paidAmount + milestone.amount = plan.amountBefore (milestone.id + 1) := by
    rw [Plan.amountBefore_succ first, paid, amount]
  refine ⟨sequenced, sum, ?_⟩
  rw [sum, ← follows.total]
  constructor
  · by_contra unfinished
    have more : milestone.id + 1 ≤ escrow.milestoneCount := by omega
    have rest := follows.stored.amountBefore_lt (Nat.le_add_left 1 milestone.id) more
    omega
  · intro same
    rw [same]

theorem Effect.planned {call : Env Address contract × Operation Address} (planned : Planned state)
    (effect : Effect state next call) : Planned next := by
  have filed := effect.filed planned.filed
  cases effect with
  | begins _ _ _ _ written =>
    subst written
    exact ⟨filed, planned.follows⟩
  | create _ _ _ _ _ _ escrow _ _ _ pending unpaid counted nonempty pos sum written =>
    subst written
    have gone (id : Nat) : state.plan escrow.id id = none := by
      apply eq_none_iff_forall_ne_some.mpr
      intro milestone found
      have below : escrow.id ≤ state.escrowCount := (planned.filed.numbered _ milestone found).2
      omega
    apply planned.write filed (setMilestones_escrows _ _ _ _)
    · intro id ne
      funext milestoneId
      exact get_setMilestones_of_ne (.inl ne)
    · exact follows_created (plan_setMilestones gone) pending unpaid counted nonempty pos sum
  | deposit _ _ escrow first _ got pending found one _ written =>
    subst written
    have follows := planned.follows _ escrow got
    have own : state.plan escrow.id first.id = some first := found
    have plan :
        (state.setMilestone escrow.id { first with status := .inProgress }).plan escrow.id =
        (state.plan escrow.id).write first.id { first with status := .inProgress } :=
      plan_setMilestone _ _
    have advanced := follows.advanced
    unfold Escrow.Advanced at advanced
    rw [pending] at advanced
    have amounts := Plan.write_amounts own .inProgress
    rw [← plan] at amounts
    apply planned.write filed rfl
    · intro id ne
      exact plan_setMilestone_of_ne ne _
    · refine ⟨follows.stored.congr amounts, ?_, ?_⟩
      · exact (Plan.amountBefore_congr amounts _).trans follows.total
      · have started := Plan.sequenced_start follows.stored advanced.2 first
        rw [← one, ← plan] at started
        exact ⟨_, started, by rw [one]; exact advanced.1⟩
  | move _ escrow milestone status _ got active found moves _ _ written =>
    subst written
    have follows := planned.follows _ escrow got
    obtain ⟨_, sequenced, paid⟩ := follows.live (.inl active)
    have own : state.plan escrow.id milestone.id = some milestone := found
    have plan : (state.setMilestone escrow.id { milestone with status }).plan escrow.id =
        (state.plan escrow.id).write milestone.id { milestone with status } :=
      plan_setMilestone _ _
    have amounts := Plan.write_amounts own status
    rw [← plan] at amounts
    have unpaid : milestone.status ≠ .paid := by
      rcases moves with ⟨before, -⟩ | ⟨before, -⟩ | ⟨before, -⟩ <;> rw [before] <;> decide
    have started : milestone.status ≠ .pending := by
      rcases moves with ⟨before, -⟩ | ⟨before, -⟩ | ⟨before, -⟩ <;> rw [before] <;> decide
    obtain rfl := sequenced.eq_current follows.stored found unpaid started
    have moved := sequenced.move moves
    rw [← plan] at moved
    apply planned.step filed (fun _ _ => rfl)
    · intro id ne
      exact plan_setMilestone_of_ne ne _
    · intro written stored_written
      obtain rfl := mem_unique got stored_written
      refine ⟨follows.stored.congr amounts, ?_, ?_⟩
      · exact (Plan.amountBefore_congr amounts _).trans follows.total
      · unfold Escrow.Advanced
        rw [active]
        exact ⟨_, moved, paid.trans (Plan.amountBefore_congr amounts _).symm⟩
  | release _ _ escrow milestone _ got active found approved _ written =>
    subst written
    have follows := planned.follows _ escrow got
    have own : state.plan escrow.id milestone.id = some milestone := found
    obtain ⟨sequenced, paid, _⟩ := follows.paid active own approved
    have plan := plan_pay planned.filed escrow milestone
    have amounts := Plan.pay_amounts escrow.milestoneCount own
    have more : milestone.id < escrow.milestoneCount := by
      have last := sequenced.within.2
      omega
    have started := sequenced.pay more
    rw [← plan] at amounts started
    apply planned.write filed (by rw [setEscrow, pay_escrows])
    · intro id ne
      exact plan_pay_of_ne planned.filed ne milestone
    · refine ⟨follows.stored.congr amounts, ?_, ?_⟩
      · exact (Plan.amountBefore_congr amounts _).trans follows.total
      · rw [active]
        exact ⟨_, started, paid.trans (Plan.amountBefore_congr amounts _).symm⟩
  | complete _ _ escrow milestone _ _ got _ found _ _ written =>
    subst written
    have follows := planned.follows _ escrow got
    have own : state.plan escrow.id milestone.id = some milestone := found
    have plan := plan_pay planned.filed escrow milestone
    have amounts := Plan.pay_amounts escrow.milestoneCount own
    rw [← plan] at amounts
    apply planned.write filed (by rw [setEscrow, setAnalytics, pay_escrows])
    · intro id ne
      exact plan_pay_of_ne planned.filed ne milestone
    · refine ⟨follows.stored.congr amounts, ?_, trivial⟩
      exact (Plan.amountBefore_congr amounts _).trans follows.total
  | dispute _ _ escrow _ _ got active written =>
    subst written
    have follows := planned.follows _ escrow got
    exact planned.write filed rfl (fun _ _ => rfl)
      ⟨follows.stored, follows.total, follows.live (.inl active)⟩
  | resolve _ _ _ escrow _ _ got _ written =>
    subst written
    exact planned.write filed rfl (fun _ _ => rfl)
      ((planned.follows _ escrow got).ended rfl rfl (.inl rfl))
  | cancel _ _ escrow _ _ got _ written =>
    subst written
    exact planned.write filed rfl (fun _ _ => rfl)
      ((planned.follows _ escrow got).ended rfl rfl (.inr rfl))

theorem Effect.completes {env : Env Address contract} {id : Nat} {client : Address}
    {milestoneId : Nat} (planned : Planned state)
    (effect : Effect state next (env, .releasePayment id client milestoneId)) :
    ∃ escrow, next.escrows.get id = some escrow ∧
      (escrow.status = .completed ↔ milestoneId = escrow.milestoneCount) ∧
      (escrow.status = .completed ↔
        (next.plan id).statusAt escrow.milestoneCount = some .paid) := by
  cases effect with
  | move _ _ _ _ _ _ _ _ _ other =>
    exact (other _ _ _ rfl).elim
  | release _ _ escrow milestone _ got active found approved unfinished written =>
    subst written
    have own : state.plan escrow.id milestone.id = some milestone := found
    obtain ⟨sequenced, -, finished⟩ := (planned.follows _ escrow got).paid active own approved
    have other : milestone.id ≠ escrow.milestoneCount := fun same =>
      not_le.mpr unfinished (finished.mpr same)
    have started := sequenced.pay (Nat.lt_of_le_of_ne sequenced.within.2 other)
    rw [← plan_pay planned.filed escrow milestone] at started
    have open_ : escrow.status ≠ .completed := by rw [active]; decide
    refine ⟨_, get_set_self _ _ _, iff_of_false open_ other, iff_of_false open_ ?_⟩
    change ((state.pay escrow milestone).plan escrow.id).statusAt escrow.milestoneCount ≠ _
    rcases started.within.2.eq_or_lt with last | more
    · rw [← last]
      rcases started.working with status | status | status <;> rw [status] <;> decide
    · rw [started.after _ more le_rfl]
      decide
  | complete _ _ escrow milestone _ _ got active found approved finished written =>
    subst written
    have own : state.plan escrow.id milestone.id = some milestone := found
    obtain ⟨-, -, last⟩ := (planned.follows _ escrow got).paid active own approved
    have same := last.mp finished
    refine ⟨_, get_set_self _ _ _, iff_of_true rfl same, iff_of_true rfl ?_⟩
    change ((state.pay escrow milestone).plan escrow.id).statusAt escrow.milestoneCount = _
    rw [← same, plan_pay planned.filed escrow milestone]
    exact Plan.statusAt_pay_self _ _

variable [DecidableEq Address]

theorem planned_step (state : State Address) (call : Env Address contract × Operation Address)
    (next : State Address) (planned : Planned state)
    (ran : (machine contract).exec state call = .ok next) : Planned next :=
  (dispatch_effect planned.filed ran).planned planned

end Steps

variable [DecidableEq Address]

/-- In every reachable state the milestones of an active or disputed escrow are a paid prefix, one
in work and a pending rest, and the paid amount is that of the paid milestones and below the
total. A release completes its escrow exactly when it pays the last milestone. -/
theorem milestones_progress (calls : List (Env Address contract × Operation Address)) :
    let state := (machine contract).run {} calls
    (∀ id escrow, state.escrows.get id = some escrow →
      escrow.status = .active ∨ escrow.status = .disputed →
        ∃ current, (state.plan id).Sequenced escrow.milestoneCount current ∧
          escrow.paidAmount = (state.plan id).paidSum escrow.milestoneCount ∧
          escrow.paidAmount < escrow.totalAmount) ∧
    ∀ env id client milestoneId next,
      (machine contract).exec state (env, .releasePayment id client milestoneId) = .ok next →
        ∃ escrow, next.escrows.get id = some escrow ∧
          (escrow.status = .completed ↔ milestoneId = escrow.milestoneCount) ∧
          (escrow.status = .completed ↔
            (next.plan id).statusAt escrow.milestoneCount = some .paid) := by
  intro state
  have planned : Planned state := run_invariant planned_step planned_empty calls
  constructor
  · intro id escrow got live
    have follows := planned.follows id escrow got
    obtain ⟨current, sequenced, paid⟩ := follows.live live
    refine ⟨current, sequenced, ?_, ?_⟩
    · rw [paid, sequenced.paidSum_eq]
    · rw [paid, ← follows.total]
      exact follows.stored.amountBefore_lt sequenced.within.1 sequenced.within.2
  · intro env id client milestoneId next ran
    have effect : Effect state next (env, .releasePayment id client milestoneId) :=
      dispatch_effect planned.filed ran
    exact effect.completes planned

/-- Client `1` has paid freelancer `2` the first milestone of `40` out of `100`. -/
def firstReleased : List (Env Nat 0 × Operation Nat) :=
  let signed : Env Nat 0 := { timestamp := 0, auths := [1, 2, 3], contract_silent := zero_notMem_three_signers }
  [(signed, .initializeEscrow 1 200), (signed, .createEscrow 1 2 3 100 [40, 60]),
    (signed, .deposit 1 1), (signed, .submitMilestone 1 2 1), (signed, .approveMilestone 1 1 1),
    (signed, .releasePayment 1 1 1)]

theorem milestones_progress_after_first_release :
    ∃ escrow, ((machine 0).run {} firstReleased).escrows.get 1 = some escrow ∧
      escrow.paidAmount = 40 ∧
      ∃ current, (((machine 0).run {} firstReleased).plan 1).Sequenced 2 current := by
  obtain ⟨live, -⟩ := milestones_progress firstReleased
  obtain ⟨current, sequenced, -⟩ := live 1 _ rfl (.inl rfl)
  exact ⟨_, rfl, rfl, current, sequenced⟩

end SorobanPlayground.MilestoneEscrow
