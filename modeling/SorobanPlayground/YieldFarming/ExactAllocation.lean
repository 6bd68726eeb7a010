import Mathlib.Algebra.BigOperators.Ring.Finset
import SorobanPlayground.YieldFarming.Preview

/-! # An allocation places the whole amount

The proportional split places at most the amount, since its shares are rounded
down. The loop that places the rest stops only when nothing is left or when every
strategy that takes part is at its cap. So what the optimizer returns adds up to
the amount, and it complains about capacity only when the caps add up to less.
-/

namespace SorobanPlayground.YieldFarming

open List

variable {Address : Type} [DecidableEq Address]

theorem sum_filter {ι M : Type} [AddCommMonoid M] {keep : ι → Bool} {weight : ι → M}
    {items : List ι} (light : ∀ item ∈ items, keep item = false → weight item = 0) :
    ((items.filter keep).map weight).sum = (items.map weight).sum := by
  induction items with
  | nil => rfl
  | cons item _ ih =>
    obtain ⟨first, others⟩ := forall_mem_cons.mp light
    cases kept : keep item with
    | false =>
      rw [filter_cons_of_neg (by simp [kept]), ih others, map_cons, sum_cons,
        first kept, zero_add]
    | true => rw [filter_cons_of_pos kept, map_cons, map_cons, sum_cons,
        sum_cons, ih others]

variable (state : State Address) (totalAmount : Int) (maxRisk : Nat)
  (excludedUser : Option Address)

/-- The most that the optimizer may place in a strategy: nothing in one that does
not score. -/
def poolLimit (strategyId : Nat) : Int :=
  match strategyScore state totalAmount maxRisk excludedUser strategyId,
      state.room totalAmount excludedUser strategyId with
  | .ok (_ + 1), .ok room => room
  | _, _ => 0

/-- An allocation to an active strategy whose risk, share of the portfolio and
capacity allow it. -/
structure Allotted (allocation : Allocation) : Prop where
  positive : 0 < allocation.amount
  risk : (state.poolConfigOrDefault allocation.strategyId).riskScore ≤ maxRisk
  share : allocation.amount ≤ totalAmount *
    (state.poolConfigOrDefault allocation.strategyId).maxAllocationBps / bpsDenom
  usable : ∃ strategy, state.strategies.get allocation.strategyId = some strategy ∧
    strategy.isActive = true ∧
    ((state.poolConfigOrDefault allocation.strategyId).capacity ≠ 0 →
      allocation.amount ≤ (state.poolConfigOrDefault allocation.strategyId).capacity -
        state.tvlExcludingUser allocation.strategyId strategy excludedUser)

variable {state totalAmount maxRisk excludedUser}

variable {allocation : Allocation}

theorem Placed.allotted (positiveTotal : 0 < totalAmount)
    (placed : Placed state totalAmount maxRisk excludedUser allocation)
    (pos : 0 < allocation.amount) : Allotted state totalAmount maxRisk excludedUser allocation := by
  obtain ⟨⟨_, scored, nonzero⟩, -, room, roomIs, within⟩ := placed
  simp only [State.room, State.getStrategy, call_ok, portfolioCap, arith_ok] at roomIs
  obtain ⟨strategy, got, _, ⟨-, rfl⟩, rfl⟩ := roomIs
  simp only [strategyScore, State.getStrategy, call_ok, got, Option.some.injEq,
    exists_eq_left'] at scored
  split at scored
  · exact absurd (pure_eq_ok.mp scored).symm nonzero
  · next usable =>
    obtain ⟨active, usable⟩ := not_or.mp usable
    obtain ⟨risk, _⟩ := not_or.mp usable
    refine ⟨pos, not_lt.mp risk, ?_, strategy, got, Bool.not_eq_false _ ▸ active,
      fun bound => ?_⟩
    · rw [← Int.tdiv_eq_ediv_of_nonneg (mul_nonneg positiveTotal.le (Int.natCast_nonneg _))]
      exact within.trans (min_le_left _ _)
    · have below := within.trans (min_le_right _ _)
      rw [capacityRoom, if_neg bound] at below
      exact below.trans (max_le ((by decide : i128Min ≤ 0).trans (by omega)) (min_le_right _ _))

theorem strategyScore_le {strategyId score : Nat}
    (scored : strategyScore state totalAmount maxRisk excludedUser strategyId = .ok score) :
    score ≤ u32Max := by
  simp only [strategyScore, call_ok] at scored
  obtain ⟨_, -, scored⟩ := scored
  split at scored
  · cases scored
    exact Nat.zero_le _
  · simp only [call_ok] at scored
    obtain ⟨_, -, _, -, _, -, _, -, rfl⟩ := scored
    exact (Nat.div_le_self _ _).trans (min_le_left _ _)

theorem totalScore_eq_sum {scores : List Nat} (fits : scores.sum ≤ u64Max) :
    totalScore scores = scores.sum := by
  have generalized : ∀ start : Nat, start + scores.sum ≤ u64Max →
      scores.foldl (fun total score => min u64Max (total + score)) start = start + scores.sum := by
    clear fits
    induction scores with
    | nil => exact fun start _ => (Nat.add_zero _).symm
    | cons score _ ih =>
      intro start fits
      rw [sum_cons, ← Nat.add_assoc] at fits
      have exact' : min u64Max (start + score) = start + score := by omega
      rw [foldl_cons, exact', ih _ fits, sum_cons, Nat.add_assoc]
  exact (generalized 0 (by omega)).trans (Nat.zero_add _)

variable {scores : List Nat}

theorem scores_by_id
    (scored : state.strategyIds.mapM (strategyScore state totalAmount maxRisk excludedUser) =
      .ok scores) : state.strategyIds.map (fun id => scores.getD (id - 1) 0) = scores := by
  have eq : ∀ id ∈ state.strategyIds,
      strategyScore state totalAmount maxRisk excludedUser id = pure (scores.getD (id - 1) 0) :=
    fun id listed => recorded_score scored listed
  rw [mapM_congr eq, mapM_pure] at scored
  exact Except.ok.inj scored

/-- The loop that places the rest: the strategies that score are named, none is beyond its
room, and what is placed and what remains add up to the amount. -/
structure Filling (state : State Address) (totalAmount : Int) (maxRisk : Nat)
    (excludedUser : Option Address) (scores : List Nat) (allocations : List Allocation)
    (remaining : Int) : Prop where
  carried : Carried state totalAmount maxRisk excludedUser allocations
  named : allocations.map Allocation.strategyId =
    state.strategyIds.filter (fun id => scores.getD (id - 1) 0 ≠ 0)
  filled : (allocations.map Allocation.amount).sum + remaining = totalAmount
  left : 0 ≤ remaining

theorem totalScore_scored (counted : state.strategyCount ≤ u32Max)
    (scored : state.strategyIds.mapM (strategyScore state totalAmount maxRisk excludedUser) =
      .ok scores) : totalScore scores = scores.sum := by
  apply totalScore_eq_sum
  have length : scores.length = state.strategyCount := by
    rw [← scores_by_id scored, length_map]
    exact length_range'
  have each : ∀ score ∈ scores, score ≤ u32Max := by
    intro score mem
    obtain ⟨_, -, eq⟩ := mem_of_mapM scored mem
    exact strategyScore_le eq
  calc scores.sum ≤ scores.length * u32Max := sum_le_card_nsmul scores u32Max each
    _ ≤ u32Max * u32Max := by
      rw [length]
      exact Nat.mul_le_mul_right _ counted
    _ ≤ u64Max := by decide

theorem allocateNext_filling {final : List Allocation × Int} (pos : 0 < totalAmount)
    (typed : totalAmount ≤ i128Max) (counted : state.strategyCount ≤ u32Max)
    (scored : state.strategyIds.mapM (strategyScore state totalAmount maxRisk excludedUser) =
      .ok scores) (usable : totalScore scores ≠ 0) (ran : state.strategyIds.foldlM
      (allocateNext state totalAmount excludedUser scores (totalScore scores)) ([], 0) =
        .ok final) :
    Filling state totalAmount maxRisk excludedUser scores final.1
      (saturateI128 (totalAmount - final.2)) := by
  have carried := allocateNext_carried pos scored ran
  obtain ⟨_, finalIs, sumIs, named, shares⟩ := allocateNext_split ran
  rw [nil_append] at finalIs
  rw [zero_add, ← finalIs] at sumIs
  rw [← finalIs] at named shares
  have scoreSum : ((final.1.map fun allocation =>
      (scores.getD (allocation.strategyId - 1) 0 : Int)).sum) = totalScore scores := by
    have byName :=
      congrArg (fun ids => (ids.map fun id => (scores.getD (id - 1) 0 : Int)).sum) named
    rw [map_map, sum_filter fun id _ zero => by simpa using zero] at byName
    rw [totalScore_scored counted scored]
    nth_rewrite 2 [← scores_by_id scored]
    rw [Nat.cast_list_sum, map_map]
    exact byName
  have scaled : (final.1.map Allocation.amount).sum * (totalScore scores : Int) ≤
      totalAmount * totalScore scores := by
    rw [← sum_map_mul_right, ← scoreSum, ← sum_map_mul_left, scoreSum]
    refine sum_le_sum fun allocation mem => ?_
    have share := shares allocation mem
    rw [Int.tdiv_eq_ediv_of_nonneg (mul_nonneg pos.le (Int.natCast_nonneg _))] at share
    exact (Int.le_ediv_iff_mul_le (by omega)).mp share
  have most : final.2 ≤ totalAmount := by
    rw [sumIs]
    exact le_of_mul_le_mul_right scaled (by omega)
  have least : 0 ≤ final.2 := by
    rw [sumIs]
    apply sum_nonneg
    intro amount mem
    obtain ⟨allocation, placed, rfl⟩ := mem_map.mp mem
    exact (carried allocation placed).2.nonnegative
  have remains : saturateI128 (totalAmount - final.2) = totalAmount - final.2 := by
    unfold saturateI128 i128Min
    omega
  exact ⟨carried, named, by omega, by omega⟩

theorem improveCandidate_none {entries : List (Allocation × Nat)} {start : Option Candidate}
    (searched : entries.foldlM (improveCandidate state totalAmount excludedUser scores) start =
      .ok none) :
    start = none ∧ ∀ entry ∈ entries, ∃ room ≤ 0,
      allocationRoom state totalAmount excludedUser entry.1 = .ok room := by
  induction entries generalizing start with
  | nil => exact ⟨pure_eq_ok.mp searched, nofun⟩
  | cons _ _ ih =>
    obtain ⟨next, now, rest⟩ := bind_eq_ok.mp searched
    obtain ⟨rfl, others⟩ := ih rest
    simp only [improveCandidate, call_ok] at now
    obtain ⟨room, roomIs, kept⟩ := now
    split at kept
    · cases kept
    · next full =>
      subst kept
      exact ⟨rfl, forall_mem_cons.mpr
        ⟨⟨room, not_lt.mp fun roomy => full ⟨roomy, rfl⟩, roomIs⟩, others⟩⟩

variable {allocations : List Allocation} {remaining : Int}

theorem Filling.limits_le
    (scored : state.strategyIds.mapM (strategyScore state totalAmount maxRisk excludedUser) =
      .ok scores)
    (filling : Filling state totalAmount maxRisk excludedUser scores allocations remaining)
    (full : ∀ allocation ∈ allocations, ∃ room ≤ 0,
      allocationRoom state totalAmount excludedUser allocation = .ok room) :
    (state.strategyIds.map (poolLimit state totalAmount maxRisk excludedUser)).sum ≤
      (allocations.map Allocation.amount).sum := by
  have unscored : ∀ id ∈ state.strategyIds, decide (scores.getD (id - 1) 0 ≠ 0) = false →
      poolLimit state totalAmount maxRisk excludedUser id = 0 := by
    intro id listed zero
    have scoredHere := recorded_score scored listed
    rw [not_not.mp (of_decide_eq_false zero)] at scoredHere
    unfold poolLimit
    rw [scoredHere]
  rw [← sum_filter unscored, ← filling.named, map_map]
  refine sum_le_sum fun allocation mem => ?_
  obtain ⟨room, roomIs, within⟩ := (filling.carried allocation mem).2.within
  obtain ⟨left, _, leftIs⟩ := full allocation mem
  rw [allocationRoom_eq, roomIs] at leftIs
  have saturated : saturateI128 (room - allocation.amount) = left := pure_eq_ok.mp leftIs
  have limit : poolLimit state totalAmount maxRisk excludedUser allocation.strategyId ≤ room := by
    obtain ⟨score, scoredHere, nonzero⟩ := (filling.carried allocation mem).2.scored
    unfold poolLimit
    rw [scoredHere, roomIs]
    cases score with
    | zero => exact absurd rfl nonzero
    | succ => exact le_rfl
  show poolLimit state totalAmount maxRisk excludedUser allocation.strategyId ≤ allocation.amount
  unfold saturateI128 i128Min i128Max at saturated
  omega

theorem Filling.step {candidate : Candidate}
    (filling : Filling state totalAmount maxRisk excludedUser scores allocations remaining)
    (stands : Stands state totalAmount excludedUser allocations candidate)
    (located : allocations[candidate.index]? = some allocation) :
    Filling state totalAmount maxRisk excludedUser scores
      (allocations.set candidate.index
        { allocation with amount := allocation.amount + min remaining candidate.room })
      (remaining - min remaining candidate.room) where
  carried := carried_set filling.carried stands located (le_min filling.left stands.1.le)
    (min_le_right _ _)
  named := (map_strategyId_set located _).trans filling.named
  filled := by
    obtain ⟨inside, rfl⟩ := List.getElem?_eq_some_iff.mp located
    have before := filling.filled
    rw [map_set, sum_set', dif_pos (by simpa using inside), getElem_map]
    dsimp only
    omega
  left := by omega

theorem assignResidual_filled {allocations final : List Allocation}
    (filling : Filling state totalAmount maxRisk excludedUser scores allocations remaining)
    (ran : assignResidual state totalAmount excludedUser scores remaining.toNat allocations
      remaining = .ok final) : Filling state totalAmount maxRisk excludedUser scores final 0 := by
  obtain ⟨left, still, spent⟩ := assignResidual_invariant
    (Filling state totalAmount maxRisk excludedUser scores)
    (fun _ held stands located => held.step stands located) filling ran
  obtain rfl : left = 0 := le_antisymm (spent (Int.self_le_toNat _)) still.left
  exact still

theorem insufficient_ofWhole : OfWhole .insufficientCapacity := ⟨by decide, by decide⟩

theorem assignResidual_insufficient {rounds : Nat}
    (scored : state.strategyIds.mapM (strategyScore state totalAmount maxRisk excludedUser) =
      .ok scores)
    (filling : Filling state totalAmount maxRisk excludedUser scores allocations remaining)
    (failed : assignResidual state totalAmount excludedUser scores rounds allocations remaining =
      .error (.error .insufficientCapacity)) :
    (state.strategyIds.map (poolLimit state totalAmount maxRisk excludedUser)).sum <
      totalAmount := by
  induction rounds generalizing allocations remaining with
  | zero => exact absurd failed pure_ne_error
  | succ _ ih =>
    unfold assignResidual at failed
    split at failed
    · rcases bind_eq_error.mp failed with searching | ⟨_, searched, failed⟩
      · exact absurd searching
          (foldlM_ne_error (fun _ _ _ => improveCandidate_ne insufficient_ofWhole) none)
      rcases bind_eq_error.mp failed with missing | ⟨candidate, chosen, placing⟩
      · obtain ⟨rfl, -⟩ := orError_eq_error.mp missing
        have placed := filling.limits_le scored fun allocation mem => by
          obtain ⟨index, atIndex⟩ := mem_iff_getElem?.mp mem
          exact (improveCandidate_none searched).2 (allocation, index)
            (mem_zipIdx_iff_getElem?.mpr atIndex)
        have filled := filling.filled
        omega
      obtain rfl := orError_eq_ok.mp chosen
      have stands := improveCandidate_stands searched candidate rfl
      simp only [bind_eq_error, orTrap_eq_error, checkedAdd_eq_error,
        checkedSub_eq_error, orTrap_eq_ok, arith_ok, reduceCtorEq, and_false, false_or,
        Failure.error.injEq] at placing
      obtain ⟨_, located, -, -, later⟩ := placing
      exact ih (filling.step stands located) later
    · exact absurd failed pure_ne_error

theorem Filling.finished {filled final : List Allocation}
    (filling : Filling state totalAmount maxRisk excludedUser scores filled 0)
    (targets : final.map Allocation.target =
      (filled.filter fun allocation => allocation.amount ≠ 0).map Allocation.target) :
    (final.map Allocation.amount).sum = totalAmount := by
  have amounts := congrArg (fun targets => (targets.map Prod.snd).sum) targets
  simp only [map_map] at amounts
  refine (amounts.trans (sum_filter fun other _ empty => ?_)).trans
    ((add_zero _).symm.trans filling.filled)
  exact not_not.mp (of_decide_eq_false empty)

/-- Whatever the strategies, the pools and the amount, an allocation adds up to the amount and to
all of the weight, within the caps of usable strategies that it names once. The residual loop
needs no more rounds than units remain, and a lack of capacity is reported only when the caps of
the strategies that score fall short of the amount. -/
theorem allocation_exact {state : State Address} {totalAmount : Int} {maxRisk : Nat}
    {excludedUser : Option Address} (typed : totalAmount ≤ i128Max)
    (counted : state.strategyCount ≤ u32Max) :
    (∀ allocations, buildAllocation state totalAmount maxRisk excludedUser = .ok allocations →
      (allocations.map Allocation.amount).sum = totalAmount ∧
      (allocations.map Allocation.weightBps).sum = bpsDenom ∧
      (allocations.map Allocation.strategyId).Nodup ∧
      ∀ allocation ∈ allocations, Allotted state totalAmount maxRisk excludedUser allocation) ∧
    (buildAllocation state totalAmount maxRisk excludedUser =
        .error (.error .insufficientCapacity) →
      (state.strategyIds.map (poolLimit state totalAmount maxRisk excludedUser)).sum <
        totalAmount) ∧
    ∀ scores allocations (remaining : Int) more,
      assignResidual state totalAmount excludedUser scores (remaining.toNat + more) allocations
          remaining =
        assignResidual state totalAmount excludedUser scores remaining.toNat allocations
          remaining := by
  refine ⟨fun allocations built => ?_, fun failed => ?_,
    fun scores allocations remaining more => ?_⟩
  · obtain ⟨ordered, carried, nonempty⟩ := buildAllocation_carried built
    simp only [buildAllocation, call_ok] at built
    obtain ⟨pos, -, scores, scored, usable, split, allocated, filled, assigned, finished,
      finalized, completed⟩ := built
    have filling := assignResidual_filled
      (allocateNext_filling pos typed counted scored usable allocated) assigned
    obtain ⟨kept, weights⟩ := finalizeNext_targets finalized ⟨rfl, by decide⟩
    obtain ⟨targets, whole⟩ := completeWeights_targets weights completed
    refine ⟨filling.finished (targets.trans kept), whole, ordered.nodup (nodup_range' ..),
      fun allocation mem => ?_⟩
    have placed := (carried allocation mem).2
    exact placed.allotted pos
      (lt_of_le_of_ne placed.nonnegative (nonempty allocation mem).symm)
  · have whole := insufficient_ofWhole
    rcases bind_eq_error.mp failed with zero | ⟨⟨⟩, pos, failed⟩
    · simp [ensure_eq_error] at zero
    have pos := ensure_eq_ok.mp pos
    rcases bind_eq_error.mp failed with risky | ⟨-, -, failed⟩
    · simp [ensure_eq_error] at risky
    rcases bind_eq_error.mp failed with scoring | ⟨_, scored, failed⟩
    · exact absurd scoring (mapM_ne_error fun id _ => strategyScore_ne whole)
    rcases bind_eq_error.mp failed with unusable | ⟨⟨⟩, usable, failed⟩
    · simp [ensure_eq_error] at unusable
    have usable := ensure_eq_ok.mp usable
    rcases bind_eq_error.mp failed with split | ⟨split, allocated, failed⟩
    · exact absurd split (foldlM_ne_error (fun id _ progress => allocateNext_ne whole) _)
    have filling := allocateNext_filling pos typed counted scored usable allocated
    rcases bind_eq_error.mp failed with filledUp | ⟨_, assigned, failed⟩
    · exact assignResidual_insufficient scored filling filledUp
    rcases bind_eq_error.mp failed with last | ⟨⟨finished, _⟩, finalized, completing⟩
    · exact absurd last (foldlM_ne_error (fun allocation _ progress => finalizeNext_ne whole) _)
    -- the whole amount is placed, so there is a last allocation
    obtain rfl : finished = [] := by
      rcases bind_eq_error.mp completing with missing | ⟨_, -, changed⟩
      · exact List.getLast?_eq_none_iff.mp (orError_eq_error.mp missing).1
      · exact absurd changed pure_ne_error
    have filling := assignResidual_filled filling assigned
    have nothing := filling.finished (finalizeNext_targets finalized ⟨rfl, by decide⟩).1
    exact absurd nothing pos.ne
  · induction more with
    | zero => rfl
    | succ more ih =>
      rw [← ih]
      have enough : remaining ≤ (remaining.toNat + more : Nat) := by omega
      exact assignResidual_rounds_enough enough

theorem allocation_exact_shared_farm :
    let farm := (machine 0).run {} sharedFarm
    ∃ allocations, buildAllocation farm 10000 100 (some 2) = .ok allocations ∧
      (allocations.map Allocation.amount).sum = 10000 := by
  have counted : ((machine 0).run {} sharedFarm).strategyCount ≤ u32Max := by decide
  have succeeds : ∃ allocations,
      buildAllocation ((machine 0).run {} sharedFarm) 10000 100 (some 2) = .ok allocations :=
    ⟨_, rfl⟩
  obtain ⟨allocations, built⟩ := succeeds
  exact ⟨allocations, built, ((allocation_exact (by decide) counted).1 _ built).1⟩

end SorobanPlayground.YieldFarming
