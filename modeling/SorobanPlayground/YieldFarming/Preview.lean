import SorobanPlayground.YieldFarming.Compounding

/-! # The preview of a rebalance

A rebalance allocates with the user's own principal taken out of the totals of the
strategies, and the preview with the totals as they are. Both agree when the
principal changes nothing that the optimizer reads.
-/

namespace SorobanPlayground.YieldFarming

open List

variable {Address : Type} [DecidableEq Address] {contract : Address} {state : State Address}
  {totalAmount : Int} {maxRisk : Nat} {first second : Option Address}

/-- Two exclusions leave the same numbers to read of one strategy: its score, its room, and the
yield projected for every amount that fits the room. -/
structure ReadsAlike (state : State Address) (totalAmount : Int) (maxRisk : Nat)
    (first second : Option Address) (strategyId : Nat) : Prop where
  score : strategyScore state totalAmount maxRisk first strategyId =
    strategyScore state totalAmount maxRisk second strategyId
  room : Scored state totalAmount maxRisk first strategyId →
    state.room totalAmount first strategyId = state.room totalAmount second strategyId
  projected : Scored state totalAmount maxRisk first strategyId →
    ∀ room, state.room totalAmount first strategyId = .ok room →
      ∀ amount, 0 < amount → amount ≤ room →
        state.projectedApy first strategyId amount = state.projectedApy second strategyId amount

theorem allocateNext_alike {scores : List Nat} {total : Nat}
    (alike : ∀ id ∈ state.strategyIds, ReadsAlike state totalAmount maxRisk first second id)
    (scored : state.strategyIds.mapM (strategyScore state totalAmount maxRisk first) = .ok scores)
    {id : Nat} (listed : id ∈ state.strategyIds) (progress : List Allocation × Int) :
    allocateNext state totalAmount first scores total progress id =
      allocateNext state totalAmount second scores total progress id := by
  unfold allocateNext
  dsimp only
  split
  · rfl
  · next nonzero =>
    have takesPart : Scored state totalAmount maxRisk first id :=
      ⟨_, recorded_score scored listed, nonzero⟩
    rw [proportionalShare_eq, proportionalShare_eq, (alike id listed).room takesPart]

variable {allocation : Allocation}

section

variable (alike : ∀ id ∈ state.strategyIds, ReadsAlike state totalAmount maxRisk first second id)
include alike

theorem improveCandidate_alike {scores : List Nat} {allocations : List Allocation}
    (carried : Carried state totalAmount maxRisk first allocations) (start : Option Candidate) :
    allocations.zipIdx.foldlM (improveCandidate state totalAmount first scores) start =
      allocations.zipIdx.foldlM (improveCandidate state totalAmount second scores) start := by
  apply foldlM_congr
  intro entry mem best
  obtain ⟨listed, placed⟩ := carried entry.1
    (mem_of_getElem? (mem_zipIdx_iff_getElem?.mp mem))
  unfold improveCandidate
  rw [allocationRoom_eq, allocationRoom_eq, (alike _ listed).room placed.scored]

theorem assignResidual_alike {scores : List Nat} {rounds : Nat} {allocations : List Allocation}
    {remaining : Int} (carried : Carried state totalAmount maxRisk first allocations) :
    assignResidual state totalAmount first scores rounds allocations remaining =
      assignResidual state totalAmount second scores rounds allocations remaining := by
  induction rounds generalizing allocations remaining with
  | zero => rfl
  | succ _ ih =>
    unfold assignResidual
    split
    · next remains =>
      rw [← improveCandidate_alike alike carried]
      apply bind_congr_ok
      intro best searched
      apply bind_congr_ok
      intro candidate chosen
      have stands := improveCandidate_stands searched candidate (orError_eq_ok.mp chosen)
      apply bind_congr_ok
      intro allocation located
      apply bind_congr_ok
      intro amount added
      obtain ⟨-, rfl⟩ := checkedAdd_eq_ok.mp added
      apply bind_congr_ok
      intro left _
      exact ih (carried_set carried stands (orTrap_eq_ok.mp located)
        (le_min remains.le stands.1.le) (min_le_right _ _))
    · rfl

theorem finalizeNext_alike (listed : allocation.strategyId ∈ state.strategyIds)
    (placed : Placed state totalAmount maxRisk first allocation)
    (progress : List Allocation × Nat) :
    finalizeNext state totalAmount first progress allocation =
      finalizeNext state totalAmount second progress allocation := by
  rw [finalizeNext_eq, finalizeNext_eq]
  split
  · rfl
  · next nonzero =>
    obtain ⟨room, roomIs, within⟩ := placed.within
    have pos : 0 < allocation.amount :=
      lt_of_le_of_ne placed.nonnegative (Ne.symm nonzero)
    rw [(alike _ listed).projected placed.scored room roomIs _ pos within]

theorem buildAllocation_alike :
    buildAllocation state totalAmount maxRisk first =
      buildAllocation state totalAmount maxRisk second := by
  have scores : state.strategyIds.mapM (strategyScore state totalAmount maxRisk first) =
      state.strategyIds.mapM (strategyScore state totalAmount maxRisk second) :=
    mapM_congr fun id listed => (alike id listed).score
  unfold buildAllocation
  rw [← scores]
  apply bind_congr_ok
  intro _ amountPositive
  have pos := ensure_eq_ok.mp amountPositive
  apply bind_congr_ok
  intro _ _
  apply bind_congr_ok
  intro scores scored
  apply bind_congr_ok
  intro _ _
  rw [← foldlM_congr fun id listed => allocateNext_alike alike scored listed]
  apply bind_congr_ok
  rintro ⟨_, _⟩ split
  have carried := allocateNext_carried pos scored split
  dsimp only
  rw [← assignResidual_alike alike carried]
  apply bind_congr_ok
  intro filled assigned
  have stillCarried := (assignResidual_carried carried assigned).1
  rw [foldlM_congr fun allocation mem => finalizeNext_alike alike (stillCarried allocation
    mem).1 (stillCarried allocation mem).2]

end

variable {user : Address}

/-- A pool without emissions and without a capacity, with room for the amount in its total. -/
structure Plain (state : State Address) (totalAmount : Int) (strategyId : Nat)
    (strategy : Strategy) : Prop where
  books : Books state
  stored : state.strategies.get strategyId = some strategy
  noEmissions : (state.poolConfigOrDefault strategyId).annualRewards = 0
  noCapacity : (state.poolConfigOrDefault strategyId).capacity = 0
  representable : strategy.totalDeposited + max totalAmount 1 ≤ i128Max

variable {strategy : Strategy} {strategyId : Nat}

section

variable (plain : Plain state totalAmount strategyId strategy)
include plain

section

variable (excludedUser : Option Address)
include excludedUser

theorem Plain.excluding_bounds :
    0 ≤ state.tvlExcludingUser strategyId strategy excludedUser ∧
      state.tvlExcludingUser strategyId strategy excludedUser ≤ strategy.totalDeposited := by
  obtain ⟨-, nonneg, -⟩ := plain.books.counted strategyId strategy plain.stored
  cases excludedUser with
  | none => exact ⟨nonneg, le_rfl⟩
  | some user =>
    cases held : state.positions.get (strategyId, user) with
    | none =>
      simp only [State.tvlExcludingUser, held]
      exact ⟨nonneg, le_rfl⟩
    | some position =>
      have principal := (plain.books.sound _ position held).deposited_nonneg
      have fits := plain.representable
      have lowest : i128Min ≤ 0 := by decide
      have representable :
          InI128 (strategy.totalDeposited - min position.deposited strategy.totalDeposited) :=
        ⟨by omega, by omega⟩
      simp only [State.tvlExcludingUser, held, saturateI128_of_mem representable]
      omega

theorem Plain.probe {amount : Int} (nonneg : 0 ≤ amount) (fits : amount ≤ max totalAmount 1) :
    (do
      let projectedTvl ← checkedAdd (.error .arithmeticOverflow)
        (state.tvlExcludingUser strategyId strategy excludedUser) amount
      calculateDynamicApy strategy (state.poolConfigOrDefault strategyId) projectedTvl) =
    calculateDynamicApy strategy (state.poolConfigOrDefault strategyId) 0 := by
  obtain ⟨_, _⟩ := plain.excluding_bounds excludedUser
  have representable := plain.representable
  have lowest : i128Min ≤ 0 := by decide
  have added : checkedAdd (Failure.error Error.arithmeticOverflow)
      (state.tvlExcludingUser strategyId strategy excludedUser) amount =
      .ok (state.tvlExcludingUser strategyId strategy excludedUser + amount) :=
    checkedAdd_eq_ok.mpr ⟨⟨by omega, by omega⟩, rfl⟩
  rw [added]
  change calculateDynamicApy _ _ _ = _
  unfold calculateDynamicApy
  have quiet : ∀ tvl : Int,
      ¬ (0 < (state.poolConfigOrDefault strategyId).annualRewards ∧ 0 < tvl) := by
    rintro _ ⟨emits, -⟩
    exact absurd plain.noEmissions emits.ne'
  rw [if_neg (quiet _), if_neg (quiet _)]

theorem Plain.score :
    strategyScore state totalAmount maxRisk excludedUser strategyId =
      if strategy.isActive = false ∨ maxRisk < (state.poolConfigOrDefault strategyId).riskScore
      then pure 0
      else do
        let _ ← portfolioCap totalAmount (state.poolConfigOrDefault strategyId)
        let netApy ← calculateDynamicApy strategy (state.poolConfigOrDefault strategyId) 0
        let safety ← checkedSubUnsigned .trap maxRiskScore
          (state.poolConfigOrDefault strategyId).riskScore
        return min u32Max (netApy * safety) / maxRiskScore := by
  unfold strategyScore State.getStrategy
  rw [orError_eq_ok.mpr plain.stored]
  change (if _ then _ else _) = _
  have open' : ∀ tvl : Int, ((state.poolConfigOrDefault strategyId).capacity = 0 ∨
      tvl < (state.poolConfigOrDefault strategyId).capacity) := fun _ => .inl plain.noCapacity
  simp only [open', not_true_eq_false, or_false]
  split
  · rfl
  · apply bind_congr_ok
    intro cap _
    unfold capacityRoom
    rw [if_pos plain.noCapacity, ← bind_assoc]
    rw [plain.probe excludedUser (le_max_of_le_right (by decide)) (max_le_max (min_le_right _ _)
      le_rfl)]

theorem Plain.room_eq :
    state.room totalAmount excludedUser strategyId = (do
      let cap ← portfolioCap totalAmount (state.poolConfigOrDefault strategyId)
      return min cap totalAmount) := by
  unfold State.room State.getStrategy capacityRoom
  rw [orError_eq_ok.mpr plain.stored]
  change (portfolioCap _ _ >>= _) = _
  simp only [if_pos plain.noCapacity]

end

theorem Plain.readsAlike : ReadsAlike state totalAmount maxRisk none (some user) strategyId where
  score := (plain.score none).trans (plain.score (some user)).symm
  room _ := (plain.room_eq none).trans (plain.room_eq (some user)).symm
  projected := by
    intro _ room roomIs amount pos within
    rw [plain.room_eq] at roomIs
    simp only [call_ok] at roomIs
    have fits : amount ≤ max totalAmount 1 := by omega
    unfold State.projectedApy State.getStrategy
    rw [orError_eq_ok.mpr plain.stored]
    exact (plain.probe none pos.le fits).trans (plain.probe (some user) pos.le fits).symm

end

variable {excludedUser : Option Address} {reason : Error}

/-- A complaint that no part of the optimizer makes: these only miss a strategy or overflow. -/
def OfWhole (reason : Error) : Prop := reason ≠ .arithmeticOverflow ∧ reason ≠ .strategyNotFound

theorem noStrategy_ofWhole : OfWhole .noOptimizableStrategy := ⟨by decide, by decide⟩

variable {config : PoolConfig}

section

variable (whole : OfWhole reason)
include whole

theorem calculateDynamicApy_ne {strategy : Strategy} {tvl : Int} :
    calculateDynamicApy strategy config tvl ≠ .error (.error reason) := by
  intro failed
  rcases bind_eq_error.mp failed with gross | ⟨_, -, net⟩
  · split at gross
    · simp [map_eq_error, checkedMul_eq_error, whole.1] at gross
    · exact pure_ne_error gross
  · simp [map_eq_error, checkedSubUnsigned_eq_error] at net

theorem portfolioCap_ne : portfolioCap totalAmount config ≠ .error (.error reason) := by
  simp [portfolioCap, map_eq_error, checkedMul_eq_error, whole.1]

theorem strategyScore_ne {strategyId : Nat} :
    strategyScore state totalAmount maxRisk excludedUser strategyId ≠ .error (.error reason) := by
  intro failed
  rcases bind_eq_error.mp failed with missing | ⟨_, -, scoring⟩
  · simp [State.getStrategy, orError_eq_error, whole.2] at missing
  · dsimp only at scoring
    split at scoring
    · exact pure_ne_error scoring
    · simp [bind_eq_error, map_eq_error, portfolioCap_ne whole, checkedAdd_eq_error,
        calculateDynamicApy_ne whole, checkedSubUnsigned_eq_error,
        whole.1] at scoring

theorem room_ne {strategyId : Nat} :
    state.room totalAmount excludedUser strategyId ≠ .error (.error reason) := by
  simp [State.room, State.getStrategy, bind_eq_error, map_eq_error,
    orError_eq_error, portfolioCap_ne whole, whole.2]

theorem allocateNext_ne {scores : List Nat}
    {total strategyId : Nat} {progress : List Allocation × Int} :
    allocateNext state totalAmount excludedUser scores total progress strategyId ≠
      .error (.error reason) := by
  intro failed
  unfold allocateNext at failed
  dsimp only at failed
  split at failed
  · exact pure_ne_error failed
  · simp [proportionalShare_eq, State.getStrategy, bind_eq_error, map_eq_error,
      orError_eq_error, checkedMul_eq_error, room_ne whole, checkedAdd_eq_error, whole.1,
      whole.2] at failed

end

variable {scores : List Nat}

theorem improveCandidate_ne (whole : OfWhole reason) {best : Option Candidate}
    {entry : Allocation × Nat} :
    improveCandidate state totalAmount excludedUser scores best entry ≠ .error (.error reason) := by
  simp [improveCandidate, allocationRoom_eq, map_eq_error, room_ne whole]

theorem assignResidual_ne (whole : OfWhole reason) (capable : reason ≠ .insufficientCapacity)
    {scores : List Nat} {rounds : Nat} {allocations : List Allocation} {remaining : Int} :
    assignResidual state totalAmount excludedUser scores rounds allocations remaining ≠
      .error (.error reason) := by
  induction rounds generalizing allocations remaining with
  | zero => exact pure_ne_error
  | succ _ ih =>
    intro failed
    unfold assignResidual at failed
    split at failed
    · have searches : allocations.zipIdx.foldlM
          (improveCandidate state totalAmount excludedUser scores) none ≠ .error (.error reason) :=
        foldlM_ne_error (fun entry _ best => improveCandidate_ne whole) none
      simp [bind_eq_error, searches, orError_eq_error, orTrap_eq_error,
        checkedAdd_eq_error, checkedSub_eq_error, ih, capable, whole.1] at failed
    · exact pure_ne_error failed

theorem finalizeNext_ne (whole : OfWhole reason) {progress : List Allocation × Nat} :
    finalizeNext state totalAmount excludedUser progress allocation ≠ .error (.error reason) := by
  intro failed
  unfold finalizeNext at failed
  split at failed
  · exact pure_ne_error failed
  · simp [State.getStrategy, bind_eq_error, map_eq_error, orError_eq_error,
      checkedAdd_eq_error, calculateDynamicApy_ne whole, checkedMul_eq_error, whole.1,
      whole.2] at failed

theorem totalScore_eq_zero_iff : totalScore scores = 0 ↔ ∀ score ∈ scores, score = 0 := by
  have generalized : ∀ start : Nat,
      scores.foldl (fun total score => min u64Max (total + score)) start = 0 ↔
        start = 0 ∧ ∀ score ∈ scores, score = 0 := by
    induction scores with
    | nil => simp
    | cons score _ ih =>
      intro start
      rw [foldl_cons, ih, forall_mem_cons, ← and_assoc]
      have step : min u64Max (start + score) = 0 ↔ start = 0 ∧ score = 0 := by
        unfold u64Max
        omega
      rw [step]
  rw [totalScore, generalized]
  exact and_iff_right rfl

variable {allocations : List Allocation}

theorem scored_of_built
    (built : buildAllocation state totalAmount maxRisk excludedUser = .ok allocations) :
    ∃ id ∈ state.strategyIds, Scored state totalAmount maxRisk excludedUser id := by
  simp only [buildAllocation, call_ok] at built
  obtain ⟨-, -, _, scored, usable, -⟩ := built
  by_contra none'
  push Not at none'
  apply usable
  rw [totalScore_eq_zero_iff]
  intro score mem
  obtain ⟨id, listed, eq⟩ := mem_of_mapM scored mem
  by_contra nonzero
  exact none' id listed ⟨score, eq, nonzero⟩

theorem unscored_of_failed (failed : buildAllocation state totalAmount maxRisk excludedUser =
      .error (.error .noOptimizableStrategy)) :
    ∀ id ∈ state.strategyIds, ¬ Scored state totalAmount maxRisk excludedUser id := by
  have whole := noStrategy_ofWhole
  rcases bind_eq_error.mp failed with zero | ⟨-, -, failed⟩
  · simp [ensure_eq_error] at zero
  rcases bind_eq_error.mp failed with risky | ⟨-, -, failed⟩
  · simp [ensure_eq_error] at risky
  rcases bind_eq_error.mp failed with scoring | ⟨_, scored, failed⟩
  · exact absurd scoring (mapM_ne_error fun id _ => strategyScore_ne whole)
  rcases bind_eq_error.mp failed with unusable | ⟨-, -, failed⟩
  · obtain ⟨vanishes, -⟩ := ensure_eq_error.mp unusable
    rintro id listed ⟨_, eq, nonzero⟩
    have zeros := totalScore_eq_zero_iff.mp (not_not.mp vanishes)
    obtain ⟨_, atIndex⟩ := mem_iff_getElem?.mp listed
    obtain ⟨noted, found, same⟩ := mapM_getElem? scored atIndex
    obtain rfl := Except.ok.inj (same.symm.trans eq)
    exact nonzero (zeros noted (mem_of_getElem? found))
  · exfalso
    rcases bind_eq_error.mp failed with split | ⟨⟨_, _⟩, -, failed⟩
    · exact foldlM_ne_error (fun id _ progress => allocateNext_ne whole) _ split
    rcases bind_eq_error.mp failed with filling | ⟨_, -, failed⟩
    · exact assignResidual_ne whole (by decide) filling
    rcases bind_eq_error.mp failed with last | ⟨⟨_, _⟩, -, completing⟩
    · exact foldlM_ne_error (fun allocation _ progress => finalizeNext_ne whole) _ last
    · simp [completeWeights, map_eq_error, orError_eq_error] at completing

/-- The yields in an allocation are the projected ones. -/
def Truthful (state : State Address) (excludedUser : Option Address)
    (allocations : List Allocation) : Prop :=
  ∀ allocation ∈ allocations,
    state.projectedApy excludedUser allocation.strategyId allocation.amount =
      .ok allocation.projectedApyBps

theorem finalizeNext_truthful {final : List Allocation × Nat}
    (ran : allocations.foldlM (finalizeNext state totalAmount excludedUser) ([], 0) = .ok final) :
    Truthful state excludedUser final.1 := by
  refine foldlM_invariant (fun progress => Truthful state excludedUser progress.1) ?_ ?_ ran
  · intro progress allocation next _ truthful succeeded
    rw [finalizeNext_eq] at succeeded
    split at succeeded
    · cases succeeded
      exact truthful
    · simp only [call_ok] at succeeded
      obtain ⟨_, projected, _, -, rfl⟩ := succeeded
      intro other mem
      rcases mem_append.mp mem with before | new
      · exact truthful other before
      · obtain rfl := mem_singleton.mp new
        exact projected
  · intro allocation mem
    cases mem

theorem completeWeights_truthful {final : List Allocation} {assigned : Nat}
    (truthful : Truthful state excludedUser allocations)
    (completed : completeWeights allocations assigned = .ok final) :
    Truthful state excludedUser final := by
  simp only [completeWeights, call_ok] at completed
  obtain ⟨last, isLast, rfl⟩ := completed
  intro allocation mem
  rcases mem_append.mp mem with kept | changed
  · exact truthful allocation (mem_of_mem_dropLast kept)
  · obtain rfl := mem_singleton.mp changed
    exact truthful last (mem_of_getLast? isLast)

theorem buildAllocation_truthful
    (built : buildAllocation state totalAmount maxRisk excludedUser = .ok allocations) :
    Truthful state excludedUser allocations := by
  simp only [buildAllocation, bind_eq_ok] at built
  obtain ⟨-, -, -, -, _, -, -, -, _, -, _, -, _, finalized, completed⟩ := built
  exact completeWeights_truthful (finalizeNext_truthful finalized) completed

variable {env : Env Address contract} {user : Address} {maxRisk : Nat}

theorem rebalance_built {result : RebalanceResult} {next : State Address}
    (ran : rebalance env user maxRisk state = .ok (result, next)) :
    ∃ portfolio, state.portfolio user env.timestamp = .ok portfolio ∧
      result.totalBalance = portfolio.totalBalance ∧ 0 < portfolio.totalBalance ∧
      buildAllocation state portfolio.totalBalance maxRisk (some user) = .ok result.allocations ∧
      ∃ total, weightedYield result.allocations = .ok total ∧
        result.newWeightedApyBps = castU32 (total.tdiv portfolio.totalBalance) := by
  simp only [rebalance, call_ok] at ran
  obtain ⟨-, -, -, -, portfolio, held, owned, _, built, total, yields, -, -, -, -, -, rfl, rfl⟩ :=
    ran
  exact ⟨portfolio, held, rfl, not_le.mp (not_or.mp owned).2, built, total, yields, rfl⟩

/-- A rebalance that finds nothing to gain has no strategy to use, or an allocation that yields no
more than the portfolio does. -/
theorem rebalance_nothing_to_gain
    (failed : rebalance env user maxRisk state = .error (.error .noOptimizableStrategy)) :
    assertInitialized state = .ok () ∧ requireAuth env user = (.ok () : Outcome Error Unit) ∧
      maxRisk ≤ maxRiskScore ∧
      ∃ portfolio, state.portfolio user env.timestamp = .ok portfolio ∧
        ¬ (portfolio.found = false ∨ portfolio.totalBalance ≤ 0) ∧
        (buildAllocation state portfolio.totalBalance maxRisk (some user) =
            .error (.error .noOptimizableStrategy) ∨
          ∃ allocations total,
            buildAllocation state portfolio.totalBalance maxRisk (some user) = .ok allocations ∧
            weightedYield allocations = .ok total ∧
            castU32 (total.tdiv portfolio.totalBalance) ≤
              castU32 (portfolio.weightedYield.tdiv portfolio.totalBalance)) := by
  rcases bind_eq_error.mp failed with closed | ⟨⟨⟩, opened, failed⟩
  · simp [assertInitialized, ensure_eq_error] at closed
  rcases bind_eq_error.mp failed with unsigned | ⟨⟨⟩, signed, failed⟩
  · simp [requireAuth_eq_error] at unsigned
  rcases bind_eq_error.mp failed with risky | ⟨⟨⟩, bound, failed⟩
  · simp [ensure_eq_error] at risky
  refine ⟨opened, signed, ensure_eq_ok.mp bound, ?_⟩
  rcases bind_eq_error.mp failed with counting | ⟨portfolio, held, failed⟩
  · exfalso
    refine foldlM_ne_error (fun id _ portfolio wrong => ?_) _ counting
    unfold portfolioNext at wrong
    split at wrong
    · simp [State.getStrategy, State.getPosition, bind_eq_error, map_eq_error,
        orError_eq_error, calculateDynamicApy_ne noStrategy_ofWhole,
        checkedAdd_eq_error, checkedMul_eq_error] at wrong
    · exact pure_ne_error wrong
  rcases bind_eq_error.mp failed with empty | ⟨⟨⟩, owned, failed⟩
  · simp [ensure_eq_error] at empty
  refine ⟨portfolio, held, ensure_eq_ok.mp owned, ?_⟩
  rcases bind_eq_error.mp failed with unbuilt | ⟨allocations, built, failed⟩
  · exact .inl unbuilt
  rcases bind_eq_error.mp failed with adding | ⟨total, yields, failed⟩
  · exfalso
    refine foldlM_ne_error (fun allocation _ total wrong => ?_) _ adding
    simp [bind_eq_error, checkedAdd_eq_error, checkedMul_eq_error] at wrong
  rcases bind_eq_error.mp failed with worse | ⟨⟨⟩, -, failed⟩
  · exact .inr ⟨allocations, total, built, yields, not_lt.mp (ensure_eq_error.mp worse).1⟩
  · exfalso
    rcases bind_eq_error.mp failed with removing | ⟨_, -, failed⟩
    · refine foldlM_ne_error (fun id _ state wrong => ?_) _ removing
      unfold removeNext at wrong
      split at wrong
      · simp [State.getStrategy, State.getPosition, bind_eq_error, map_eq_error,
          orError_eq_error] at wrong
      · exact pure_ne_error wrong
    · rcases bind_eq_error.mp failed with opening | ⟨_, -, failed⟩
      · refine foldlM_ne_error (fun allocation _ state wrong => ?_) _ opening
        simp [openNext, State.getStrategy, bind_eq_error, map_eq_error,
          orError_eq_error, checkedAdd_eq_error] at wrong
      · exact pure_ne_error failed

/-- The optimizer reads the same numbers with the user's principal as without it, in every
strategy that is listed. -/
def PrincipalUnread (state : State Address) (user : Address) (totalAmount : Int)
    (maxRisk : Nat) : Prop :=
  ∀ id ∈ state.strategyIds, ReadsAlike state totalAmount maxRisk none (some user) id

/-- User `2` holds `9000` at one percent, and `1000` of the `10000` in a farm that emits `1000` a
year. -/
def sharedFarm : List (Env Nat 0 × Operation Nat) :=
  [(signedAt 0, .initializeVault 1), (signedAt 0, .addStrategy 1 "lending" 100),
    (signedAt 0, .addStrategy 1 "farm" 100),
    (signedAt 0, .configurePool 1 2 { annualRewards := 1000, capacity := 0, feeBps := 0,
                                      riskScore := 0, maxAllocationBps := 10000 }),
    (signedAt 0, .deposit 1 2 9000), (signedAt 0, .deposit 2 2 1000),
    (signedAt 0, .deposit 2 1 9000)]

/-- A second strategy with twice the yield of the one that user `2` is in. -/
def betterStrategy : List (Env Nat 0 × Operation Nat) :=
  thousandDeposited ++ [(signedAt 0, .addStrategy 1 "liquidity" 2000)]

end SorobanPlayground.YieldFarming
