import SorobanPlayground.YieldFarming.AllocationShape
import SorobanPlayground.YieldFarming.Settlement

/-! # Total value locked

Over whole runs, the running total of each strategy is the sum of its stored
balances as long as no rebalance finds a position that has grown. Removing such
a position takes its balance out of the sum but only its principal out of the
total.
-/

namespace SorobanPlayground.YieldFarming

open List State

variable {Address : Type} [DecidableEq Address] {contract : Address}

/-- What removing a user's position leaves in the running total: the balance
less the principal that leaves it. -/
def State.excess (state : State Address) (id : Nat) (user : Address) : Int :=
  (state.positions.get (id, user)).elim 0 fun position =>
    position.compoundedBalance - min position.deposited (state.lockedTotal id)

variable {env : Env Address contract} {user : Address} {now id : Nat} {state next : State Address}

theorem removeNext_settles (books : Books state) {position : Position}
    (held : state.positions.get (id, user) = some position)
    (removed : removeNext user now state id = .ok next) :
    Settlement (state.excess id user) id user state next ∧
      next.positions.get (id, user) = none := by
  have has : state.hasPosition id user = true := has_eq_true.mpr ⟨position, held⟩
  simp only [removeNext, if_pos has, State.getStrategy, State.getPosition, call_ok, held,
    Option.some.injEq, exists_eq_left', compoundPosition_deposited] at removed
  obtain ⟨strategy, got, rfl⟩ := removed
  have excess : state.excess id user =
      position.compoundedBalance - min position.deposited strategy.totalDeposited := by
    unfold State.excess lockedTotal
    rw [held, got]
    rfl
  have nonneg := (books.sound _ position held).deposited_nonneg
  obtain ⟨-, _⟩ := books.counted id strategy got
  have balance := storedBalance_of_get held
  have lowest : i128Min ≤ 0 := by decide
  have representable :
      InI128 (strategy.totalDeposited - min position.deposited strategy.totalDeposited) :=
    ⟨by omega, by omega⟩
  rw [saturateI128_of_mem representable]
  refine ⟨Settlement.of_remove got ⟨?_, representable.2⟩ ?_, get_remove_self _ _⟩
  · show 0 ≤ strategy.totalDeposited - min position.deposited strategy.totalDeposited
    omega
  · rw [excess, balance]
    ring

theorem removeNext_spec (books : Books state) (removed : removeNext user now state id = .ok next) :
    Books next ∧
      (∀ other, next.positions.get (other, user) =
        if other = id then none else state.positions.get (other, user)) ∧
      (∀ other, other ≠ id → next.lockedTotal other = state.lockedTotal other) ∧
      ∀ other, next.drift other =
        state.drift other + if other = id then state.excess id user else 0 := by
  cases held : state.positions.get (id, user) with
  | some =>
    obtain ⟨settled, gone⟩ := removeNext_settles books held removed
    refine ⟨settled.books books, fun other => ?_, fun other ne => ?_, settled.drift⟩
    · split
      · next same => rw [same, gone]
      · next ne =>
        exact settled.positions _ fun same => ne (congrArg Prod.fst same)
    · unfold lockedTotal
      rw [settled.strategies other ne]
  | none =>
    have lacks : ¬ state.hasPosition id user = true := by
      rw [Bool.not_eq_true]
      exact has_eq_false.mpr held
    rw [removeNext, if_neg lacks] at removed
    cases removed
    have nothing : state.excess id user = 0 := by
      unfold State.excess
      rw [held]
      rfl
    refine ⟨books, fun other => ?_, fun _ _ => rfl, fun other => ?_⟩
    · split
      · next same => rw [same, held]
      · rfl
    · rw [nothing, ite_self, add_zero]

/-- Removing a portfolio empties the strategies it goes through and leaves their
excess in the running totals. -/
theorem removeAll_spec {ids : List Nat} (books : Books state) (apart : ids.Nodup)
    (removed : ids.foldlM (removeNext user now) state = .ok next) :
    Books next ∧
      (∀ id, next.positions.get (id, user) =
        if id ∈ ids then none else state.positions.get (id, user)) ∧
      ∀ id, next.drift id = state.drift id + if id ∈ ids then state.excess id user else 0 := by
  induction ids generalizing state with
  | nil =>
    cases removed
    exact ⟨books, by simp, by simp⟩
  | cons head _ ih =>
    obtain ⟨middle, first, rest⟩ := bind_eq_ok.mp removed
    obtain ⟨gone, apart⟩ := nodup_cons.mp apart
    obtain ⟨middleBooks, emptied, totals, drifted⟩ := removeNext_spec books first
    obtain ⟨finalBooks, positions, drifts⟩ := ih middleBooks apart rest
    refine ⟨finalBooks, fun id => ?_, fun id => ?_⟩
    · rw [positions id, emptied id]
      by_cases here : id = head <;> simp [here]
    · rw [drifts id, drifted id]
      by_cases here : id = head
      · rw [here, if_pos rfl, if_neg gone, if_pos mem_cons_self, add_zero]
      · have same : middle.excess id user = state.excess id user := by
          unfold State.excess
          rw [emptied, if_neg here, totals id here]
        rw [if_neg here, same, add_zero]
        simp [here]

theorem openNext_settles (books : Books state) {allocation : Allocation}
    (nonneg : 0 ≤ allocation.amount)
    (vacant : state.positions.get (allocation.strategyId, user) = none)
    (opened : openNext user now state allocation = .ok next) :
    Settlement 0 allocation.strategyId user state next := by
  simp only [openNext, State.getStrategy, call_ok, checkedAdd_eq_ok] at opened
  obtain ⟨strategy, got, total, ⟨fits, _⟩, rfl⟩ := opened
  have empty : state.storedBalance allocation.strategyId user = 0 := by
    unfold storedBalance
    rw [vacant]
    rfl
  have totalNonneg := (books.counted _ strategy got).2.1
  have bound := fits.2
  refine Settlement.of_write got ⟨nonneg, le_rfl, ?_⟩ ⟨?_, ?_⟩ ?_ rfl rfl rfl rfl
  · show allocation.amount ≤ i128Max
    omega
  · show 0 ≤ total
    omega
  · show total ≤ i128Max
    omega
  · show total - strategy.totalDeposited =
      allocation.amount - state.storedBalance allocation.strategyId user + 0
    omega

/-- Writing target positions in distinct strategies where the user has none keeps
every drift. -/
theorem openAll_keeps {allocations : List Allocation} (books : Books state)
    (apart : (allocations.map Allocation.strategyId).Nodup)
    (nonneg : ∀ allocation ∈ allocations, 0 ≤ allocation.amount)
    (vacant : ∀ allocation ∈ allocations, state.positions.get (allocation.strategyId, user) = none)
    (opened : allocations.foldlM (openNext user now) state = .ok next) :
    Books next ∧ ∀ id, next.drift id = state.drift id := by
  induction allocations generalizing state with
  | nil =>
    cases opened
    exact ⟨books, fun _ => rfl⟩
  | cons head allocations ih =>
    obtain ⟨middle, first, rest⟩ := bind_eq_ok.mp opened
    obtain ⟨gone, apart⟩ := nodup_cons.mp apart
    have settled := openNext_settles books (nonneg head mem_cons_self)
      (vacant head mem_cons_self) first
    have stillVacant : ∀ allocation ∈ allocations,
        middle.positions.get (allocation.strategyId, user) = none := by
      intro allocation mem
      have ne : (allocation.strategyId, user) ≠ (head.strategyId, user) := by
        intro same
        have named := mem_map_of_mem (f := Allocation.strategyId) mem
        have sameId : allocation.strategyId = head.strategyId := congrArg Prod.fst same
        exact gone (sameId ▸ named)
      rw [settled.positions _ ne]
      exact vacant allocation (mem_cons_of_mem _ mem)
    obtain ⟨finalBooks, drifts⟩ := ih (settled.books books) apart
      (fun allocation mem => nonneg allocation (mem_cons_of_mem _ mem))
      stillVacant rest
    refine ⟨finalBooks, fun id => ?_⟩
    rw [drifts id, settled.drift id, ite_self, add_zero]

omit [DecidableEq Address] in
theorem State.strategyIds_nodup (state : State Address) : state.strategyIds.Nodup :=
  nodup_range'

theorem rebalance_drifts {maxRisk : Nat} {result : RebalanceResult} (books : Books state)
    (ran : rebalance env user maxRisk state = .ok (result, next)) :
    Books next ∧ ∀ id, next.drift id = state.drift id + state.excess id user := by
  simp only [rebalance, assertInitialized, call_ok] at ran
  obtain ⟨-, -, -, _, -, -, allocations, built, -, -, -, emptied, removed, _, filled,
    -, rfl⟩ := ran
  obtain ⟨emptiedBooks, positions, drifts⟩ := removeAll_spec books state.strategyIds_nodup removed
  have shaped := buildAllocation_wellShaped built
  have vacant : ∀ allocation ∈ allocations,
      emptied.positions.get (allocation.strategyId, user) = none := by
    intro allocation mem
    have listed := shaped.ordered.subset (mem_map_of_mem (f := Allocation.strategyId) mem)
    rw [positions, if_pos listed]
  obtain ⟨openedBooks, kept⟩ := openAll_keeps emptiedBooks (shaped.nodup state.strategyIds_nodup)
    shaped.nonnegative vacant filled
  refine ⟨openedBooks, fun id => ?_⟩
  rw [kept, drifts]
  by_cases listed : id ∈ state.strategyIds
  · rw [if_pos listed]
  · have nothing : state.excess id user = 0 := by
      unfold State.excess
      cases held : state.positions.get (id, user) with
      | none => rfl
      | some position =>
        obtain ⟨strategy, got⟩ := books.listed _ position held
        exact absurd (books.counted id strategy got).1 listed
    rw [if_neg listed, nothing]

/-- All positions of a user hold their principal and nothing more. -/
def Settled (state : State Address) (user : Address) : Prop :=
  ∀ id position, state.positions.get (id, user) = some position →
    position.deposited = position.compoundedBalance

/-- With exact totals, removing a portfolio leaves nothing exactly when it is
settled. -/
theorem excess_eq_zero_iff (books : Books state) (exact : TvlExact state) :
    (∀ id, state.excess id user = 0) ↔ Settled state user := by
  have excessIs : ∀ id position, state.positions.get (id, user) = some position →
      state.excess id user = position.compoundedBalance - position.deposited := by
    intro id position held
    obtain ⟨strategy, got⟩ := books.listed _ position held
    have part := books.storedBalance_le held
    rw [← exact id strategy got] at part
    have locked : state.lockedTotal id = strategy.totalDeposited := by
      unfold lockedTotal
      rw [got]
      rfl
    have principal := (books.sound _ position held).deposited_le
    unfold State.excess
    rw [held]
    show position.compoundedBalance - min position.deposited (state.lockedTotal id) = _
    omega
  constructor
  · intro nothing id position held
    have here := nothing id
    rw [excessIs id position held] at here
    omega
  · intro settled id
    cases held : state.positions.get (id, user) with
    | none =>
      unfold State.excess
      rw [held]
      rfl
    | some position =>
      have same := settled id position held
      rw [excessIs id position held]
      omega

variable {admin : Address}

section

variable (books : Books state)

include books

theorem Settlement.of_rewrite {strategy updated : Strategy} (user : Address)
    (got : state.strategies.get id = some strategy)
    (same : updated.totalDeposited = strategy.totalDeposited) :
    Settlement 0 id user state (state.setStrategy id updated) where
  admin := rfl
  strategyCount := rfl
  positions := fun _ _ => rfl
  strategies := fun other ne => get_set_of_ne _ _ ne
  existing := ⟨strategy, got⟩
  updated := ⟨updated, get_set_self _ _ _, by
    rw [same]
    exact (books.counted id strategy got).2⟩
  sound := fun position held => books.sound _ position held
  moved := by
    have after : (state.setStrategy id updated).lockedTotal id = updated.totalDeposited :=
      congrArg (Option.elim · 0 Strategy.totalDeposited) (get_set_self _ _ _)
    have before : state.lockedTotal id = strategy.totalDeposited := by
      unfold lockedTotal
      rw [got]
      rfl
    have balance : (state.setStrategy id updated).storedBalance id user =
        state.storedBalance id user := rfl
    omega

theorem updateStrategyApy_settles {newApyBps : Nat}
    (ran : updateStrategyApy env admin id newApyBps state = .ok next) :
    Settlement 0 id admin state next := by
  simp only [updateStrategyApy, State.getStrategy, call_ok] at ran
  obtain ⟨_, -, -, _, got, rfl⟩ := ran
  exact Settlement.of_rewrite books admin got rfl

theorem setStrategyActive_settles {isActive : Bool}
    (ran : setStrategyActive env admin id isActive state = .ok next) :
    Settlement 0 id admin state next := by
  simp only [setStrategyActive, State.getStrategy, call_ok] at ran
  obtain ⟨_, -, _, got, rfl⟩ := ran
  exact Settlement.of_rewrite books admin got rfl

theorem Books.of_same (strategies : next.strategies = state.strategies)
    (positions : next.positions = state.positions)
    (count : next.strategyCount = state.strategyCount)
    (unopened : next.admin = none → state.admin = none) :
    Books next ∧ ∀ id, next.drift id = state.drift id := by
  refine ⟨⟨?_, ?_, ?_, ?_⟩, ?_⟩
  · rw [positions]
    exact books.sound
  · rw [positions, strategies]
    exact books.listed
  · intro id strategy got
    rw [strategies] at got
    unfold strategyIds
    rw [count]
    exact books.counted id strategy got
  · rw [count]
    exact fun closed => books.unopened (unopened closed)
  · intro id
    unfold drift lockedTotal balanceSum
    rw [strategies, positions]

theorem initializeVault_keeps (ran : initializeVault env admin state = .ok next) :
    Books next ∧ ∀ id, next.drift id = state.drift id := by
  simp only [initializeVault, call_ok] at ran
  obtain ⟨closed, -, rfl⟩ := ran
  have unset : state.admin = none := by
    rw [Option.isSome_eq_false_iff, Option.isNone_iff_eq_none] at closed
    exact closed
  exact books.of_same rfl rfl (books.unopened unset).symm fun _ => unset

theorem configurePool_keeps {config : PoolConfig}
    (ran : configurePool env admin id config state = .ok next) :
    Books next ∧ ∀ id, next.drift id = state.drift id := by
  simp only [configurePool, call_ok] at ran
  obtain ⟨_, -, _, -, -, -, -, rfl⟩ := ran
  exact books.of_same rfl rfl rfl fun closed => closed

theorem addStrategy_keeps {name : String} {apyBps newId : Nat}
    (ran : addStrategy env admin name apyBps state = .ok (newId, next)) :
    Books next ∧ ∀ id, next.drift id = state.drift id := by
  simp only [addStrategy, assertAdmin, assertInitialized, call_ok, arith_ok] at ran
  obtain ⟨⟨-, -, _, ownerIs, -⟩, -, -, -, rfl, nextIs⟩ := ran
  have fresh : state.strategies.get (state.strategyCount + 1) = none := by
    cases got : state.strategies.get (state.strategyCount + 1) with
    | none => rfl
    | some strategy =>
      have listed := (books.counted _ strategy got).1
      rw [strategyIds, mem_range'_1] at listed
      omega
  have positions : next.positions = state.positions := by rw [← nextIs]; rfl
  obtain ⟨opened, empty, strategies⟩ : ∃ opened : Strategy, opened.totalDeposited = 0 ∧
      ∀ other, next.strategies.get other =
        if other = state.strategyCount + 1 then some opened else state.strategies.get other := by
    rw [← nextIs]
    exact ⟨_, rfl, fun other => get_set _ _ other _⟩
  refine ⟨⟨?_, ?_, ?_, ?_⟩, fun id => ?_⟩
  · rw [positions]
    exact books.sound
  · intro key position held
    rw [positions] at held
    obtain ⟨strategy, got⟩ := books.listed key position held
    rw [strategies]
    split
    · exact ⟨_, rfl⟩
    · exact ⟨strategy, got⟩
  · intro other strategy got
    rw [strategies] at got
    have count : next.strategyCount = state.strategyCount + 1 := by
      rw [← nextIs]
      rfl
    rw [strategyIds, mem_range'_1, count]
    split at got
    · cases got
      rw [empty]
      exact ⟨by omega, le_rfl, by decide⟩
    · obtain ⟨listed, bound⟩ := books.counted other strategy got
      rw [strategyIds, mem_range'_1] at listed
      exact ⟨by omega, bound⟩
  · intro closed
    rw [← nextIs] at closed
    have unset : state.admin = none := closed
    cases ownerIs.symm.trans unset
  · have sum : next.balanceSum id = state.balanceSum id := by
      unfold balanceSum
      rw [positions]
    have total : next.lockedTotal id = state.lockedTotal id := by
      unfold lockedTotal
      rw [strategies]
      split
      · next same =>
        rw [same, fresh]
        exact empty
      · rfl
    unfold drift
    rw [sum, total]

end

/-- The user has a portfolio and the preview promises the improvement that
`auto_rebalance_threshold` asks for, so that it rebalances. -/
def MeetsThreshold (env : Env Address contract) (user : Address) (maxRisk minImprovementBps : Nat)
    (state : State Address) : Prop :=
  ∃ portfolio preview, state.portfolio user env.timestamp = .ok portfolio ∧
    portfolio.found = true ∧ 0 < portfolio.totalBalance ∧
    getOptimizationPreview portfolio.totalBalance maxRisk state = .ok preview ∧
    minImprovementBps ≤ preview.2 - castU32 (portfolio.weightedYield.tdiv portfolio.totalBalance)

/-- A call that rebalances finds only settled positions of its user. -/
def RebalancesSettled (state : State Address) (call : Env Address contract × Operation Address) :
    Prop :=
  match call.2 with
  | .rebalance user _ => Settled state user
  | .autoRebalanceThreshold user maxRisk minImprovementBps =>
      MeetsThreshold call.1 user maxRisk minImprovementBps state → Settled state user
  | _ => True

/-- The one saturating addition to a running total stays below the maximum. -/
def Unsaturated (state : State Address) (call : Env Address contract × Operation Address) : Prop :=
  match call.2 with
  | .compound user id => ∀ strategy position, state.strategies.get id = some strategy →
      state.positions.get (id, user) = some position →
      strategy.totalDeposited +
        earned position (compoundPosition position strategy call.1.timestamp) ≤ i128Max
  | _ => True

/-- A call's effect on the drifts, and that it is none exactly under a condition. -/
structure Drifting (exactly condition : Prop) (state next : State Address) : Prop where
  books : Books next
  slips : ∃ slip : Nat → Int, (∀ id, next.drift id = state.drift id + slip id) ∧
    (exactly → ((∀ id, slip id = 0) ↔ condition))

variable {exactly condition : Prop}

theorem Drifting.of_keeps {state next : State Address}
    (kept : Books next ∧ ∀ id, next.drift id = state.drift id) (always : condition) :
    Drifting exactly condition state next where
  books := kept.1
  slips := ⟨0, fun id => by rw [kept.2 id, Pi.zero_apply, add_zero],
    fun _ => iff_of_true (fun _ => rfl) always⟩

theorem Drifting.of_settlement {slip : Int} {id : Nat} {user : Address} {state next : State Address}
    (books : Books state) (settled : Settlement slip id user state next) (none : exactly → slip = 0)
    (always : condition) : Drifting exactly condition state next where
  books := settled.books books
  slips := ⟨fun other => if other = id then slip else 0, settled.drift, fun exact =>
    iff_of_true (fun _ => ite_eq_right_iff.mpr fun _ => none exact) always⟩

theorem Drifting.of_rebalance {state next : State Address} {user : Address} (books : Books state)
    (rebalanced : Books next ∧ ∀ id, next.drift id = state.drift id + state.excess id user)
    (iff : Settled state user ↔ condition) : Drifting (TvlExact state) condition state next where
  books := rebalanced.1
  slips := ⟨fun id => state.excess id user, rebalanced.2, fun exact =>
    (excess_eq_zero_iff books exact).trans iff⟩

theorem Drifting.mono {weaker stronger : Prop} {state next : State Address}
    (drifting : Drifting weaker condition state next) (weaken : stronger → weaker) :
    Drifting stronger condition state next where
  books := drifting.books
  slips := by
    obtain ⟨slip, drifts, iff⟩ := drifting.slips
    exact ⟨slip, drifts, fun exact => iff (weaken exact)⟩

theorem autoRebalanceThreshold_drifts {env : Env Address contract} {user : Address}
    {maxRisk minImprovementBps : Nat} {moved : Bool} {state next : State Address}
    (books : Books state)
    (ran : autoRebalanceThreshold env user maxRisk minImprovementBps state = .ok (moved, next)) :
    Drifting (TvlExact state)
      (MeetsThreshold env user maxRisk minImprovementBps state → Settled state user) state
      next := by
  simp only [autoRebalanceThreshold, assertInitialized, call_ok] at ran
  obtain ⟨-, -, -, portfolio, found, ran⟩ := ran
  split at ran
  · next nothing =>
    cases ran
    refine Drifting.of_keeps ⟨books, fun _ => rfl⟩ ?_
    rintro ⟨other, _, foundOther, has, pos, -, -⟩
    obtain rfl := Except.ok.inj (found.symm.trans foundOther)
    rcases nothing with gone | _
    · rw [has] at gone
      cases gone
    · omega
  · next something =>
    obtain ⟨preview, previewed, ran⟩ := bind_eq_ok.mp ran
    split at ran
    · cases ran
      refine Drifting.of_keeps ⟨books, fun _ => rfl⟩ ?_
      rintro ⟨_, _, foundOther, -, -, previewedOther, _⟩
      obtain rfl := Except.ok.inj (found.symm.trans foundOther)
      obtain rfl := Except.ok.inj (previewed.symm.trans previewedOther)
      omega
    · obtain ⟨⟨_, _⟩, rebalanced, ran⟩ := bind_eq_ok.mp ran
      cases ran
      have threshold : MeetsThreshold env user maxRisk minImprovementBps state := by
        obtain ⟨has, _⟩ := not_or.mp something
        exact ⟨portfolio, preview, found, Bool.not_eq_false _ ▸ has, by omega, previewed, by omega⟩
      exact Drifting.of_rebalance books (rebalance_drifts books rebalanced)
        ⟨fun settled _ => settled, fun settled => settled threshold⟩

theorem dispatch_drifts {state next : State Address}
    {call : Env Address contract × Operation Address} (books : Books state)
    (ran : dispatch state call = .ok next) :
    Drifting (TvlExact state ∧ Unsaturated state call) (RebalancesSettled state call)
      state next := by
  obtain ⟨_, op⟩ := call
  cases op with
  | initializeVault => exact .of_keeps (initializeVault_keeps books ran) trivial
  | addStrategy =>
    obtain ⟨⟨_, left⟩, added, rfl⟩ := map_eq_ok.mp ran
    exact .of_keeps (addStrategy_keeps books added) trivial
  | updateStrategyApy =>
    exact .of_settlement books (updateStrategyApy_settles books ran) (fun _ => rfl) trivial
  | setStrategyActive =>
    exact .of_settlement books (setStrategyActive_settles books ran) (fun _ => rfl) trivial
  | configurePool =>
    exact .of_keeps (configurePool_keeps books ran) trivial
  | deposit =>
    exact .of_settlement books (deposit_settles books ran) (fun _ => rfl) trivial
  | withdraw =>
    obtain ⟨⟨_, left⟩, withdrawn, rfl⟩ := map_eq_ok.mp ran
    obtain ⟨slip, settled, covered⟩ := withdraw_settles books withdrawn
    exact .of_settlement books settled (fun exact => covered exact.1) trivial
  | compound =>
    obtain ⟨⟨_, left⟩, compounded, rfl⟩ := map_eq_ok.mp ran
    obtain ⟨_, settled, unsaturated⟩ := compound_settles books compounded
    exact .of_settlement books settled (fun exact => unsaturated exact.2) trivial
  | compoundAll =>
    obtain ⟨⟨_, left⟩, compounded, rfl⟩ := map_eq_ok.mp ran
    exact .of_keeps (compoundAll_keeps books compounded) trivial
  | rebalance =>
    obtain ⟨⟨_, left⟩, rebalanced, rfl⟩ := map_eq_ok.mp ran
    exact (Drifting.of_rebalance books (rebalance_drifts books rebalanced) Iff.rfl).mono And.left
  | autoRebalanceThreshold =>
    obtain ⟨⟨_, left⟩, gated, rfl⟩ := map_eq_ok.mp ran
    exact (autoRebalanceThreshold_drifts books gated).mono And.left

theorem books_empty : Books ({} : State Address) where
  sound := fun _ _ held => by cases held
  listed := fun _ _ held => by cases held
  counted := fun _ _ got => by cases got
  unopened := fun _ => rfl

/-- In every run that saturates no running total, the totals are exact throughout
exactly when every call that rebalances finds only settled positions. -/
theorem tvl_exact_iff_rebalances_settled
    (calls : List (Env Address contract × Operation Address))
    (unsaturated : (machine contract).Meets Unsaturated {} calls) :
    (machine contract).Always TvlExact {} calls ↔
      (machine contract).Meets RebalancesSettled {} calls := by
  refine always_iff_meets_of_meets ?_ ?_ books_empty ?_ unsaturated
  · intro state call next books ran
    exact (dispatch_drifts books ran).books
  · intro state call next books exact unsaturatedCall ran
    have drifting := dispatch_drifts books ran
    obtain ⟨_, drifts, iff⟩ := drifting.slips
    rw [← iff ⟨exact, unsaturatedCall⟩, drifting.books.tvlExact_iff]
    have before := books.tvlExact_iff.mp exact
    simp only [drifts, before, zero_add]
  · intro id strategy got
    cases got

/-- Every address authorizes a call at the given time. -/
def signedAt (timestamp : Nat) : Env Nat 0 :=
  { timestamp, auths := [1, 2], contract_silent := zero_notMem_two_signers }

/-- User `2` deposits `1000` at ten percent and rebalances after a year, when the
position has grown to `1100` and a better strategy is there. -/
def yearThenRebalance : List (Env Nat 0 × Operation Nat) :=
  [(signedAt 0, .initializeVault 1), (signedAt 0, .addStrategy 1 "lending" 1000),
    (signedAt 0, .deposit 2 1 1000), (signedAt 31536000, .compound 2 1),
    (signedAt 31536000, .addStrategy 1 "liquidity" 2000), (signedAt 31536000, .rebalance 2 100)]

theorem tvl_exact_iff_rebalances_settled_after_year :
    (machine 0).Always TvlExact {} yearThenRebalance ↔
      (machine 0).Meets RebalancesSettled {} yearThenRebalance := by
  apply tvl_exact_iff_rebalances_settled yearThenRebalance
  refine ⟨fun _ => trivial, fun _ => trivial, fun _ => trivial, fun _ => ?_, fun _ => trivial,
    fun _ => trivial, trivial⟩
  intro strategy position got held
  cases got
  cases held
  decide

/-- The rebalance takes the principal of `1000` out of the total of `1100`, and
the total of the first strategy ends `100` above its balances. -/
theorem rebalance_leaves_phantom_tvl :
    ((machine 0).run {} yearThenRebalance).lockedTotal 1 = 466 ∧
      ((machine 0).run {} yearThenRebalance).balanceSum 1 = 366 ∧
      ¬ (machine 0).Always TvlExact {} yearThenRebalance := by
  have total : ((machine 0).run {} yearThenRebalance).lockedTotal 1 = 466 := by decide
  have sum : ((machine 0).run {} yearThenRebalance).balanceSum 1 = 366 := by decide
  refine ⟨total, sum, fun always => ?_⟩
  have exact := always.final 1
  unfold lockedTotal at total
  cases got : ((machine 0).run {} yearThenRebalance).strategies.get 1 with
  | none =>
    rw [got] at total
    cases total
  | some strategy =>
    rw [got] at total
    have balanced := exact strategy got
    rw [Option.elim_some, balanced] at total
    cases total

end SorobanPlayground.YieldFarming
