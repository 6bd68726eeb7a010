import SorobanPlayground.YieldFarming.Optimizer

/-! # The shape of an allocation

Whatever the amount, the risk bound and the pools, the optimizer names each
strategy at most once, in the order of their ids, and never places a negative
amount.
-/

namespace SorobanPlayground.YieldFarming

open List

variable {Address : Type} [DecidableEq Address]

/-- The allocations name some of the given strategies, in order and without
repetition, with nonnegative amounts. -/
structure WellShaped (ids : List Nat) (allocations : List Allocation) : Prop where
  ordered : (allocations.map Allocation.strategyId).Sublist ids
  nonnegative : ∀ allocation ∈ allocations, 0 ≤ allocation.amount

theorem WellShaped.nodup {ids : List Nat} {allocations : List Allocation}
    (shaped : WellShaped ids allocations) (apart : ids.Nodup) :
    (allocations.map Allocation.strategyId).Nodup :=
  shaped.ordered.nodup apart

variable (state : State Address) (totalAmount : Int) (maxRisk : Nat)
  (excludedUser : Option Address)

/-- The amount that the optimizer can place in a strategy. -/
def State.room (strategyId : Nat) : Outcome Error Int := do
  let strategy ← state.getStrategy strategyId
  let config := state.poolConfigOrDefault strategyId
  let cap ← portfolioCap totalAmount config
  let baseTvl := state.tvlExcludingUser strategyId strategy excludedUser
  return min cap (capacityRoom totalAmount config baseTvl)

/-- The yield projected for an amount placed in a strategy. -/
def State.projectedApy (strategyId : Nat) (amount : Int) : Outcome Error Nat := do
  let strategy ← state.getStrategy strategyId
  let baseTvl := state.tvlExcludingUser strategyId strategy excludedUser
  let projectedTvl ← checkedAdd (.error .arithmeticOverflow) baseTvl amount
  calculateDynamicApy strategy (state.poolConfigOrDefault strategyId) projectedTvl

/-- A strategy takes part in the allocation. -/
def Scored (strategyId : Nat) : Prop :=
  ∃ score, strategyScore state totalAmount maxRisk excludedUser strategyId = .ok score ∧ score ≠ 0

/-- An allocation to a strategy that takes part, within its room. -/
structure Placed (allocation : Allocation) : Prop where
  scored : Scored state totalAmount maxRisk excludedUser allocation.strategyId
  nonnegative : 0 ≤ allocation.amount
  within : ∃ room, state.room totalAmount excludedUser allocation.strategyId = .ok room ∧
    allocation.amount ≤ room

variable {state totalAmount maxRisk excludedUser}

theorem proportionalShare_eq (total strategyId score : Nat) :
    proportionalShare state totalAmount excludedUser total strategyId score = (do
      let _ ← state.getStrategy strategyId
      let scaled ← checkedMul (.error .arithmeticOverflow) totalAmount score
      let room ← state.room totalAmount excludedUser strategyId
      return min (scaled.tdiv total) room) := by
  unfold proportionalShare State.room
  cases got : state.getStrategy strategyId with
  | error => rfl
  | ok =>
    refine bind_congr_ok fun found same => bind_congr_ok fun scaled _ => ?_
    cases same
    change _ = ((portfolioCap totalAmount _ >>= _) >>= _)
    rw [bind_assoc]
    apply bind_congr_ok
    intro cap _
    rw [pure_bind, min_assoc]

theorem allocationRoom_eq (allocation : Allocation) :
    allocationRoom state totalAmount excludedUser allocation = (do
      let room ← state.room totalAmount excludedUser allocation.strategyId
      return saturateI128 (room - allocation.amount)) := by
  unfold allocationRoom State.room
  rw [bind_assoc]
  apply bind_congr_ok
  intro strategy _
  rw [bind_assoc]
  apply bind_congr_ok
  intro cap _
  rw [pure_bind]

theorem finalizeNext_eq (progress : List Allocation × Nat) (allocation : Allocation) :
    finalizeNext state totalAmount excludedUser progress allocation =
      if allocation.amount = 0 then pure progress
      else do
        let projectedApyBps ←
          state.projectedApy excludedUser allocation.strategyId allocation.amount
        let scaled ← checkedMul (.error .arithmeticOverflow) allocation.amount bpsDenom
        let weightBps := min (castU32 (scaled.tdiv totalAmount)) (bpsDenom - progress.2)
        return (progress.1 ++ [{ allocation with projectedApyBps, weightBps }],
          min u32Max (progress.2 + weightBps)) := by
  unfold finalizeNext State.projectedApy
  split
  · rfl
  · rw [bind_assoc]
    apply bind_congr_ok
    intro strategy _
    rw [bind_assoc]

variable {scores : List Nat} {strategyId score : Nat}

theorem capacityRoom_nonneg_of_scored {strategy : Strategy} (pos : 0 < totalAmount)
    (scored : strategyScore state totalAmount maxRisk excludedUser strategyId = .ok score)
    (nonzero : score ≠ 0) (got : state.strategies.get strategyId = some strategy) :
    0 ≤ capacityRoom totalAmount (state.poolConfigOrDefault strategyId)
      (state.tvlExcludingUser strategyId strategy excludedUser) := by
  simp only [strategyScore, State.getStrategy, call_ok, got, Option.some.injEq,
    exists_eq_left'] at scored
  split at scored
  · cases scored
    exact absurd rfl nonzero
  · unfold capacityRoom
    split
    · exact pos.le
    · exact le_max_of_le_right (le_min (by decide) (by omega))

theorem portfolioCap_nonneg {config : PoolConfig} {cap : Int} (pos : 0 < totalAmount)
    (eq : portfolioCap totalAmount config = .ok cap) : 0 ≤ cap := by
  simp only [portfolioCap, call_ok, arith_ok] at eq
  obtain ⟨-, rfl⟩ := eq
  exact Int.tdiv_nonneg (mul_nonneg pos.le (Int.natCast_nonneg _)) (by decide)

variable {total : Nat}

theorem proportionalShare_nonneg {amount : Int} (pos : 0 < totalAmount)
    (scored : strategyScore state totalAmount maxRisk excludedUser strategyId = .ok score)
    (nonzero : score ≠ 0)
    (eq : proportionalShare state totalAmount excludedUser total strategyId score = .ok amount) :
    0 ≤ amount := by
  simp only [proportionalShare, State.getStrategy, call_ok, arith_ok] at eq
  obtain ⟨_, got, -, _, capped, rfl⟩ := eq
  have share : 0 ≤ (totalAmount * (score : Int)).tdiv (total : Int) :=
    Int.tdiv_nonneg (mul_nonneg pos.le (Int.natCast_nonneg _)) (Int.natCast_nonneg _)
  have room := capacityRoom_nonneg_of_scored pos scored nonzero got
  exact le_min (le_min share (portfolioCap_nonneg pos capped)) room

/-- The allocations that the loops of the optimizer pass on. -/
def Carried (state : State Address) (totalAmount : Int) (maxRisk : Nat)
    (excludedUser : Option Address) (allocations : List Allocation) : Prop :=
  ∀ allocation ∈ allocations, allocation.strategyId ∈ state.strategyIds ∧
    Placed state totalAmount maxRisk excludedUser allocation

theorem recorded_score {scores : List Nat}
    (scored : state.strategyIds.mapM (strategyScore state totalAmount maxRisk excludedUser) =
      .ok scores) {id : Nat} (listed : id ∈ state.strategyIds) :
    strategyScore state totalAmount maxRisk excludedUser id = .ok (scores.getD (id - 1) 0) := by
  obtain ⟨index, below, rfl⟩ := mem_range'.mp listed
  have found : state.strategyIds[index]? = some (1 + 1 * index) := List.getElem?_range' below
  obtain ⟨_, atIndex, scoredHere⟩ := mapM_getElem? scored found
  rw [scoredHere, show 1 + 1 * index - 1 = index by omega, getD_eq_getElem?_getD, atIndex]
  rfl

theorem allocateNext_carried {scores : List Nat} (pos : 0 < totalAmount)
    (scored : state.strategyIds.mapM (strategyScore state totalAmount maxRisk excludedUser) =
      .ok scores) {final : List Allocation × Int}
    (ran : state.strategyIds.foldlM (allocateNext state totalAmount excludedUser scores total)
      ([], 0) = .ok final) : Carried state totalAmount maxRisk excludedUser final.1 := by
  refine foldlM_invariant
    (fun progress => Carried state totalAmount maxRisk excludedUser progress.1) ?_ ?_ ran
  · intro progress id next listed carried succeeded
    unfold allocateNext at succeeded
    dsimp only at succeeded
    split at succeeded
    · cases succeeded
      exact carried
    · next nonzero =>
      have scoredHere := recorded_score scored listed
      simp only [call_ok, arith_ok] at succeeded
      obtain ⟨_, eq, _, -, rfl⟩ := succeeded
      intro allocation mem
      rcases mem_append.mp mem with before | new
      · exact carried allocation before
      · obtain rfl := mem_singleton.mp new
        refine ⟨listed, ⟨_, scoredHere, nonzero⟩,
          proportionalShare_nonneg pos scoredHere nonzero eq, ?_⟩
        rw [proportionalShare_eq] at eq
        simp only [call_ok] at eq
        obtain ⟨-, -, _, -, room, roomIs, rfl⟩ := eq
        exact ⟨room, roomIs, min_le_right _ _⟩
  · intro allocation mem
    cases mem

theorem allocateNext_split {total : Nat} {ids : List Nat} {start final : List Allocation × Int}
    (ran : ids.foldlM (allocateNext state totalAmount excludedUser scores total) start =
      .ok final) :
    ∃ added, final.1 = start.1 ++ added ∧
      final.2 = start.2 + (added.map Allocation.amount).sum ∧
      added.map Allocation.strategyId = ids.filter (fun id => scores.getD (id - 1) 0 ≠ 0) ∧
      ∀ allocation ∈ added, allocation.amount ≤
        (totalAmount * (scores.getD (allocation.strategyId - 1) 0 : Nat)).tdiv total := by
  induction ids generalizing start with
  | nil =>
    cases ran
    exact ⟨[], (append_nil _).symm, (add_zero _).symm, rfl, nofun⟩
  | cons id _ ih =>
    obtain ⟨next, now, rest⟩ := bind_eq_ok.mp ran
    obtain ⟨added, finalIs, sumIs, named, shares⟩ := ih rest
    simp only [allocateNext] at now
    split at now
    · next zero =>
      cases now
      refine ⟨added, finalIs, sumIs, ?_, shares⟩
      rw [filter_cons_of_neg (by simpa using zero), named]
    · next nonzero =>
      simp only [call_ok, arith_ok] at now
      obtain ⟨amount, eq, -, rfl⟩ := now
      have share : amount ≤ (totalAmount * (scores.getD (id - 1) 0 : Nat)).tdiv total := by
        simp only [proportionalShare_eq, call_ok, arith_ok] at eq
        obtain ⟨-, -, -, _, -, rfl⟩ := eq
        exact min_le_left _ _
      refine ⟨⟨id, amount, 0, 0⟩ :: added, ?_, ?_, ?_, forall_mem_cons.mpr ⟨share, shares⟩⟩
      · rw [finalIs, append_assoc]
        rfl
      · rw [sumIs, map_cons, sum_cons, add_assoc]
      · rw [map_cons, named, filter_cons_of_pos (by simpa using nonzero)]

/-- A candidate stands for an allocation, with the room that this one has left. -/
def Stands (state : State Address) (totalAmount : Int) (excludedUser : Option Address)
    (allocations : List Allocation) (candidate : Candidate) : Prop :=
  0 < candidate.room ∧ ∃ allocation, allocations[candidate.index]? = some allocation ∧
    allocationRoom state totalAmount excludedUser allocation = .ok candidate.room

variable {allocations : List Allocation}

theorem improveCandidate_stands {scores : List Nat} {best : Option Candidate}
    (searched : allocations.zipIdx.foldlM (improveCandidate state totalAmount excludedUser scores)
      none = .ok best) :
    ∀ candidate ∈ best, Stands state totalAmount excludedUser allocations candidate := by
  refine foldlM_invariant
    (fun best => ∀ candidate ∈ best, Stands state totalAmount excludedUser allocations candidate)
    ?_ ?_ searched
  · intro best entry next mem stands succeeded
    simp only [improveCandidate, call_ok] at succeeded
    obtain ⟨_, roomIs, rfl⟩ := succeeded
    split
    · next better =>
      intro candidate isBest
      cases isBest
      exact ⟨better.1, entry.1, mem_zipIdx_iff_getElem?.mp mem, roomIs⟩
    · exact stands
  · intro candidate isBest
    cases isBest

variable {remaining : Int} {rounds : Nat}

/-- Each round places at least one unit, so a round beyond as many as there are
units changes nothing. -/
theorem assignResidual_rounds_enough {scores : List Nat}
    {allocations : List Allocation} (enough : remaining ≤ rounds) :
    assignResidual state totalAmount excludedUser scores (rounds + 1) allocations remaining =
      assignResidual state totalAmount excludedUser scores rounds allocations remaining := by
  induction rounds generalizing allocations remaining with
  | zero =>
    have nothing : ¬ 0 < remaining := by omega
    exact if_neg nothing
  | succ rounds ih =>
    rw [assignResidual, assignResidual]
    split
    · cases searched : allocations.zipIdx.foldlM
        (improveCandidate state totalAmount excludedUser scores) none with
      | error => rfl
      | ok found =>
        cases found with
        | none => rfl
        | some best =>
          have roomy := (improveCandidate_stands searched best rfl).1
          have left : remaining - min remaining best.room ≤ rounds := by omega
          show (orTrap allocations[best.index]? >>= _) = (orTrap allocations[best.index]? >>= _)
          refine bind_congr fun allocation => bind_congr fun amount => ?_
          unfold checkedSub inI128
          split
          · exact ih left
          · rfl
    · rfl

variable {allocation : Allocation}

theorem carried_set {allocations : List Allocation} {candidate : Candidate} {added : Int}
    (carried : Carried state totalAmount maxRisk excludedUser allocations)
    (stands : Stands state totalAmount excludedUser allocations candidate)
    (located : allocations[candidate.index]? = some allocation) (nonneg : 0 ≤ added)
    (fits : added ≤ candidate.room) :
    Carried state totalAmount maxRisk excludedUser
      (allocations.set candidate.index
        { allocation with amount := allocation.amount + added }) := by
  obtain ⟨_, same, found, roomIs⟩ := stands
  obtain rfl : same = allocation := Option.mem_unique found located
  obtain ⟨listed, placed⟩ := carried same (mem_of_getElem? located)
  obtain ⟨room, wholeRoom, within⟩ := placed.within
  intro other mem
  rcases mem_or_eq_of_mem_set mem with kept | rfl
  · exact carried other kept
  · refine ⟨listed, placed.scored, add_nonneg placed.nonnegative nonneg, room, wholeRoom, ?_⟩
    rw [allocationRoom_eq, wholeRoom] at roomIs
    have left : saturateI128 (room - same.amount) = candidate.room :=
      pure_eq_ok.mp roomIs
    have below : saturateI128 (room - same.amount) ≤ room - same.amount :=
      max_le (le_trans (by decide : i128Min ≤ 0) (sub_nonneg.mpr within)) (min_le_right _ _)
    show same.amount + added ≤ room
    omega

/-- What handing a candidate what remains preserves holds when the loop stops. With as many rounds
as units, nothing remains then. -/
theorem assignResidual_invariant {final : List Allocation} (holds : List Allocation → Int → Prop)
    (preserved : ∀ {allocations remaining candidate allocation}, 0 < remaining →
      holds allocations remaining → Stands state totalAmount excludedUser allocations candidate →
      allocations[candidate.index]? = some allocation →
      holds (allocations.set candidate.index
          { allocation with amount := allocation.amount + min remaining candidate.room })
        (remaining - min remaining candidate.room)) (initial : holds allocations remaining)
    (ran : assignResidual state totalAmount excludedUser scores rounds allocations remaining =
      .ok final) : ∃ left, holds final left ∧ (remaining ≤ rounds → left ≤ 0) := by
  induction rounds generalizing allocations remaining with
  | zero =>
    cases ran
    exact ⟨remaining, initial, id⟩
  | succ _ ih =>
    unfold assignResidual at ran
    split at ran
    · next remains =>
      simp only [call_ok, orTrap_eq_ok, arith_ok] at ran
      obtain ⟨_, searched, best, rfl, _, located, -, -, rest⟩ := ran
      have stands := improveCandidate_stands searched best rfl
      have roomy := stands.1
      obtain ⟨left, held, spent⟩ := ih (preserved remains initial stands located) rest
      exact ⟨left, held, fun enough => spent (by omega)⟩
    · next spent =>
      cases ran
      exact ⟨remaining, initial, fun _ => not_lt.mp spent⟩

theorem map_strategyId_set {allocations : List Allocation} {index : Nat}
    (located : allocations[index]? = some allocation) (amount : Int) :
    (allocations.set index { allocation with amount }).map Allocation.strategyId =
      allocations.map Allocation.strategyId :=
  ext_getElem (by simp) (by grind)

theorem assignResidual_carried {allocations final : List Allocation}
    (carried : Carried state totalAmount maxRisk excludedUser allocations)
    (ran : assignResidual state totalAmount excludedUser scores rounds allocations remaining =
      .ok final) :
    Carried state totalAmount maxRisk excludedUser final ∧
      final.map Allocation.strategyId = allocations.map Allocation.strategyId := by
  obtain ⟨-, held, -⟩ := assignResidual_invariant (fun filled _ =>
    Carried state totalAmount maxRisk excludedUser filled ∧
      filled.map Allocation.strategyId = allocations.map Allocation.strategyId)
    (fun remains held stands located => ⟨carried_set held.1 stands located
      (le_min remains.le stands.1.le) (min_le_right _ _),
      (map_strategyId_set located _).trans held.2⟩) ⟨carried, rfl⟩ ran
  exact held

/-- The strategy and the amount of an allocation. -/
def Allocation.target (allocation : Allocation) : Nat × Int :=
  (allocation.strategyId, allocation.amount)

/-- The final pass keeps the targets that are not empty, and the weights it has given are the
ones it counts. -/
theorem finalizeNext_targets {allocations : List Allocation} {start final : List Allocation × Nat}
    (ran : allocations.foldlM (finalizeNext state totalAmount excludedUser) start = .ok final)
    (weighed : (start.1.map Allocation.weightBps).sum = start.2 ∧ start.2 ≤ bpsDenom) :
    final.1.map Allocation.target = start.1.map Allocation.target ++
        (allocations.filter fun allocation => allocation.amount ≠ 0).map Allocation.target ∧
      (final.1.map Allocation.weightBps).sum = final.2 ∧ final.2 ≤ bpsDenom := by
  induction allocations generalizing start with
  | nil =>
    cases ran
    exact ⟨(append_nil _).symm, weighed⟩
  | cons _ _ ih =>
    obtain ⟨next, now, rest⟩ := bind_eq_ok.mp ran
    rw [finalizeNext_eq] at now
    split at now
    · next empty =>
      cases now
      rw [filter_cons_of_neg (by simpa using empty)]
      exact ih rest weighed
    · next nonzero =>
      simp only [call_ok] at now
      obtain ⟨_, -, scaled, -, rfl⟩ := now
      have counted : min u32Max (start.2 +
          min (castU32 (scaled.tdiv totalAmount)) (bpsDenom - start.2)) =
          start.2 + min (castU32 (scaled.tdiv totalAmount)) (bpsDenom - start.2) := by
        unfold bpsDenom u32Max at *
        omega
      rw [counted] at rest
      obtain ⟨targets, weights⟩ := ih rest ⟨by simp [weighed.1], by omega⟩
      refine ⟨?_, weights⟩
      rw [targets, filter_cons_of_pos (by simpa using nonzero)]
      simp [Allocation.target]

theorem completeWeights_targets {allocations final : List Allocation} {assigned : Nat}
    (weighed : (allocations.map Allocation.weightBps).sum = assigned ∧ assigned ≤ bpsDenom)
    (completed : completeWeights allocations assigned = .ok final) :
    final.map Allocation.target = allocations.map Allocation.target ∧
      (final.map Allocation.weightBps).sum = bpsDenom := by
  simp only [completeWeights, call_ok] at completed
  obtain ⟨last, isLast, rfl⟩ := completed
  have split := (dropLast_append_getLast? last isLast).symm
  rw [split, map_append, sum_append, map_singleton, sum_singleton] at weighed
  have whole : min u32Max (last.weightBps + (bpsDenom - assigned)) =
      last.weightBps + (bpsDenom - assigned) := by
    unfold bpsDenom u32Max at *
    omega
  constructor
  · conv_rhs => rw [split]
    simp [Allocation.target]
  · rw [map_append, sum_append, map_singleton, sum_singleton]
    dsimp only
    omega

variable (built : buildAllocation state totalAmount maxRisk excludedUser = .ok allocations)
include built

theorem buildAllocation_carried :
    (allocations.map Allocation.strategyId).Sublist state.strategyIds ∧
      Carried state totalAmount maxRisk excludedUser allocations ∧
      ∀ allocation ∈ allocations, allocation.amount ≠ 0 := by
  simp only [buildAllocation, call_ok] at built
  obtain ⟨pos, -, _, scored, -, _, allocated, filled, assigned, _, finalized,
    completed⟩ := built
  obtain ⟨_, splitIs, -, named, -⟩ := allocateNext_split allocated
  obtain ⟨carried, sameNames⟩ := assignResidual_carried
    (allocateNext_carried pos scored allocated) assigned
  obtain ⟨kept, weights⟩ := finalizeNext_targets finalized ⟨rfl, by decide⟩
  have targets := (completeWeights_targets weights completed).1.trans kept
  rw [map_nil, nil_append] at targets
  constructor
  · have names := congrArg (List.map Prod.fst) targets
    rw [map_map, map_map] at names
    have sub : ((filled.filter fun allocation => allocation.amount ≠ 0).map
        Allocation.strategyId).Sublist state.strategyIds := by
      refine (filter_sublist.map _).trans ?_
      rw [sameNames, splitIs, nil_append, named]
      exact filter_sublist
    exact names ▸ sub
  · have kept : ∀ allocation ∈ allocations, (allocation.strategyId ∈ state.strategyIds ∧
        Placed state totalAmount maxRisk excludedUser allocation) ∧ allocation.amount ≠ 0 := by
      intro allocation mem
      have named : allocation.target ∈ allocations.map Allocation.target :=
        mem_map_of_mem mem
      rw [targets] at named
      obtain ⟨original, listed, same⟩ := mem_map.mp named
      obtain ⟨inFilled, nonempty⟩ := mem_filter.mp listed
      obtain ⟨sameId, sameAmount⟩ := Prod.mk.inj same
      have before := carried original inFilled
      rw [sameId] at before
      exact ⟨⟨before.1, sameId ▸ before.2.scored, sameAmount ▸ before.2.nonnegative,
        sameId ▸ sameAmount ▸ before.2.within⟩, sameAmount ▸ of_decide_eq_true nonempty⟩
    exact ⟨fun allocation mem => (kept allocation mem).1,
      fun allocation mem => (kept allocation mem).2⟩

theorem buildAllocation_wellShaped : WellShaped state.strategyIds allocations := by
  obtain ⟨ordered, carried, -⟩ := buildAllocation_carried built
  exact ⟨ordered, fun allocation mem => (carried allocation mem).2.nonnegative⟩

end SorobanPlayground.YieldFarming
