import SorobanPlayground.PriceFeedAggregator.Aggregation

/-! # Availability of the price feed

A first price is not bounded, so that the products and sums of an aggregation can exceed
`i128`, as can the product that the circuit breaker compares.
-/

namespace SorobanPlayground.PriceFeedAggregator

variable {Address : Type} [DecidableEq Address] {contract : Address}

/-- Weights are positive, the share that is trimmed off is the one set at the start, and
sources belong to a feed with an admin. -/
structure WellSet (state : State Address) : Prop where
  weights : ∀ id source, state.sources.get id = some source → 0 < source.weight
  trimPct : state.trimPct = 10
  governed : ∀ id source, state.sources.get id = some source → state.admin.isSome = true

omit [DecidableEq Address] in
theorem wellSet_empty : WellSet ({} : State Address) where
  weights id source found := by rw [get_empty] at found; cases found
  trimPct := rfl
  governed id source found := by rw [get_empty] at found; cases found

variable {state next : State Address}

section

omit [DecidableEq Address]

theorem WellSet.settings (wellSet : WellSet state) (sources : next.sources = state.sources)
    (trimPct : next.trimPct = state.trimPct)
    (admin : state.admin.isSome = true → next.admin.isSome = true) : WellSet next where
  weights id source found := wellSet.weights id source (sources ▸ found)
  trimPct := trimPct.trans wellSet.trimPct
  governed id source found := admin (wellSet.governed id source (sources ▸ found))

theorem WellSet.setSource (wellSet : WellSet state) {id : Nat} {source : PriceSource Address}
    (weight : 0 < source.weight) (admin : state.admin.isSome = true) :
    WellSet (state.setSource id source) where
  weights := forall_set wellSet.weights weight
  trimPct := wellSet.trimPct
  governed _ _ _ := admin

end

theorem ensureAdmin_eq_ok {env : Env Address contract} {admin : Address} {result : Unit} :
    ensureAdmin env admin state = .ok result ↔
      state.admin.isSome = true ∧ admin ∈ env.auths ∧ state.admin = some admin := by
  simp only [ensureAdmin, ensureInitialized, requireAdmin, call_ok, exists_eq_right]

theorem wellSet_step (state : State Address) (call : Env Address contract × Operation Address)
    (next : State Address) (wellSet : WellSet state)
    (ran : (machine contract).exec state call = .ok next) : WellSet next := by
  obtain ⟨_, op⟩ := call
  cases op with
  | initializeFeed =>
    obtain ⟨_, -, ran⟩ := bind_eq_ok.mp ran
    obtain ⟨_, -, ran⟩ := bind_eq_ok.mp ran
    cases ran
    exact wellSet.settings rfl rfl fun _ => rfl
  | addSource _ reporter description weight =>
    obtain ⟨⟨_, _⟩, added, rfl⟩ := map_eq_ok.mp ran
    simp only [addSource, ensureInitialized, notPaused, requireAdmin, call_ok, arith_ok] at added
    obtain ⟨governed, -, -, -, bounded, _, -, -, rfl⟩ := added
    let source : PriceSource Address := ⟨reporter, description, weight.getD 1, 0, 0, true⟩
    have pos : 0 < source.weight := Nat.pos_of_ne_zero (not_or.mp bounded).1
    have wrote : WellSet (state.setSource state.sourceCount source) :=
      wellSet.setSource pos governed
    exact wrote.settings rfl rfl fun here => here
  | removeSource _ sourceId =>
    obtain ⟨_, checked, ran⟩ := bind_eq_ok.mp ran
    obtain ⟨source, found, ran⟩ := bind_eq_ok.mp ran
    cases ran
    exact wellSet.setSource (wellSet.weights sourceId source (orError_eq_ok.mp found))
      (ensureAdmin_eq_ok.mp checked).1
  | setWeight =>
    obtain ⟨_, checked, ran⟩ := bind_eq_ok.mp ran
    obtain ⟨_, bounded, ran⟩ := bind_eq_ok.mp ran
    obtain ⟨source, found, ran⟩ := bind_eq_ok.mp ran
    cases ran
    have pos := Nat.pos_of_ne_zero (not_or.mp (ensure_eq_ok.mp bounded)).1
    exact wellSet.setSource pos (ensureAdmin_eq_ok.mp checked).1
  | updatePrice _ sourceId =>
    simp only [machine, dispatch, updatePrice, ensureInitialized, notPaused, State.getSource,
      call_ok] at ran
    obtain ⟨governed, -, -, -, source, found, -, -, _, -, rfl⟩ := ran
    exact wellSet.setSource (wellSet.weights sourceId source found) governed
  | pause admin | unpause admin | setStrategy admin strategy =>
    obtain ⟨_, -, ran⟩ := bind_eq_ok.mp ran
    cases ran
    exact wellSet.settings rfl rfl fun here => here
  | setMaxPriceAge admin bound | setOutlierBps admin bound | setCircuitBreakerBps admin bound =>
    obtain ⟨_, -, ran⟩ := bind_eq_ok.mp ran
    obtain ⟨_, -, ran⟩ := bind_eq_ok.mp ran
    cases ran
    exact wellSet.settings rfl rfl fun here => here

theorem wellSet_of_reachable (reached : (machine contract).Reachable {} state) : WellSet state := by
  obtain ⟨calls, rfl⟩ := reached
  exact run_invariant wellSet_step wellSet_empty calls

variable {env : Env Address contract}

section

omit [DecidableEq Address]

theorem WellSet.positive (wellSet : WellSet state) (env : Env Address contract) :
    Positive (freshQuotes env state) := by
  intro quote mem
  obtain ⟨id, -, fresh⟩ := List.mem_filterMap.mp mem
  obtain ⟨source, found, quoted⟩ := Option.bind_eq_some_iff.mp fresh
  split at quoted
  · next counts =>
    cases quoted
    exact ⟨counts.2.1, wellSet.weights id source found⟩
  · cases quoted

theorem WellSet.admin_of_fresh (wellSet : WellSet state) (fresh : freshQuotes env state ≠ []) :
    state.admin.isSome = true := by
  obtain ⟨_, mem⟩ := List.exists_mem_of_ne_nil _ fresh
  obtain ⟨id, -, quoted⟩ := List.mem_filterMap.mp mem
  obtain ⟨source, found, -⟩ := Option.bind_eq_some_iff.mp quoted
  exact wellSet.governed id source found

end

/-- An update reaches the circuit breaker with a source that has a price. -/
structure Braked (state : State Address) (reporter : Address) (source : PriceSource Address) :
    Prop where
  governed : state.admin.isSome = true
  running : state.paused = false
  active : source.active = true
  reports : source.reporter = reporter
  priced : 0 < source.lastPrice

theorem checkSwing_eq_trap_iff {circuitBreakerBps : Nat} {price lastPrice : Int} :
    checkSwing circuitBreakerBps price lastPrice = .error .trap ↔
      0 < lastPrice ∧ ¬ InI128 (|price - lastPrice| * 10000) := by
  have nonneg : 0 ≤ |price - lastPrice| := abs_nonneg _
  have scaled : 0 ≤ |price - lastPrice| * 10000 := by omega
  unfold checkSwing
  by_cases priced : 0 < lastPrice
  · rw [if_pos priced]
    simp only [priced, true_and, bind_eq_error, absDiff_eq, inI128_eq_error, inI128_eq_ok,
      checkedMul_eq_error, arith_ok, checkedDiv_eq_error, ensure_eq_error, reduceCtorEq, and_false,
      exists_false, or_false, and_true]
    constructor
    · rintro (wide | ⟨-, wide | ⟨fits, zero | wide⟩⟩)
      · exact fun fits => wide (inI128_of_le nonneg (by omega) fits)
      · exact wide
      · exact absurd zero priced.ne'
      · have quotient := Int.tdiv_nonneg scaled priced.le
        exact absurd (inI128_of_le quotient (Int.tdiv_le_self _ scaled) fits) wide
    · intro wide
      by_cases narrow : InI128 |price - lastPrice|
      · exact .inr ⟨narrow, .inl wide⟩
      · exact .inl narrow
  · rw [if_neg priced]
    exact iff_of_false (by simp) fun swings => priced swings.1

theorem updatePrice_eq_trap_iff {env : Env Address contract} {state : State Address}
    {reporter : Address} {sourceId : Nat} {price : Int} (signed : reporter ∈ env.auths)
    (pos : 0 < price) :
    updatePrice env reporter sourceId price state = .error .trap ↔
      ∃ source, state.sources.get sourceId = some source ∧ Braked state reporter source ∧
        ¬ InI128 (|price - source.lastPrice| * 10000) := by
  simp only [updatePrice, ensureInitialized, notPaused, State.getSource, bind_eq_error,
    ensure_eq_error, call_ok, requireAuth_eq_error, orError_eq_error, checkSwing_eq_trap_iff,
    pure_ne_error, reduceCtorEq, and_false, and_true, false_or, or_false, signed,
    pos, true_and, not_true_eq_false]
  constructor
  · rintro ⟨governed, running, source, found, active, reports, priced, wide⟩
    exact ⟨source, found, ⟨governed, running, active, reports, priced⟩, wide⟩
  · rintro ⟨source, found, braked, wide⟩
    exact ⟨braked.governed, braked.running, source, found, braked.active, braked.reports,
      braked.priced, wide⟩

/-- The aggregated price is returned under each strategy. -/
def Available (env : Env Address contract) (state : State Address) : Prop :=
  ∀ strategy, ∃ result, getAggregatedPrice env { state with strategy } = .ok result

omit [DecidableEq Address] in
theorem WellSet.available_iff {env : Env Address contract} {state : State Address}
    (wellSet : WellSet state) (fresh : freshQuotes env state ≠ []) :
    Available env state ↔ Fits state.outlierBps state.trimPct (freshQuotes env state) := by
  have governed := wellSet.admin_of_fresh fresh
  have pos := wellSet.positive env
  have remain : survivors state.outlierBps (freshQuotes env state) ≠ [] := survivors_ne_nil fresh
  have counted := List.length_pos_iff.mpr remain
  have aggregates := aggregates_iff remain (pos.survivors state.outlierBps)
    (show 2 * (_ * state.trimPct / 100) < _ by rw [wellSet.trimPct]; omega)
  constructor
  · intro available
    have computes : ∀ strategy, FilterFits (freshQuotes env state) ∧ ∃ price, aggregate strategy
        state.trimPct (survivors state.outlierBps (freshQuotes env state)) = .ok price := by
      intro strategy
      obtain ⟨_, returned⟩ := available strategy
      obtain ⟨-, -, _, filtered, price, eq, -⟩ := getAggregatedPrice_eq_ok_iff.mp returned
      obtain ⟨fits, rfl⟩ := (filterOutliers_eq_ok_iff pos).mp filtered
      exact ⟨fits, price, eq⟩
    obtain ⟨weighted, trimmed⟩ := aggregates.mp fun strategy => (computes strategy).2
    exact ⟨(computes .median).1, weighted, trimmed⟩
  · intro fits strategy
    obtain ⟨price, eq⟩ := aggregates.mpr ⟨fits.weighted, fits.trimmed⟩ strategy
    refine ⟨_, getAggregatedPrice_eq_ok_iff.mpr ⟨governed, fresh, _, ?_, price, eq, rfl⟩⟩
    exact (filterOutliers_eq_ok_iff pos).mpr ⟨fits.filter, rfl⟩

/-- In a reachable state with fresh quotes all three aggregates are returned exactly when
what they compute fits, and an update to a positive price aborts exactly when the circuit
breaker is reached with a scaled difference that does not fit. -/
theorem available_iff_fits {state : State Address} (reached : (machine contract).Reachable {} state)
    (env : Env Address contract) :
    (freshQuotes env state ≠ [] →
      (Available env state ↔ Fits state.outlierBps state.trimPct (freshQuotes env state))) ∧
    ∀ reporter sourceId price, reporter ∈ env.auths → 0 < price →
      (updatePrice env reporter sourceId price state ≠ .error .trap ↔
        ∀ source, state.sources.get sourceId = some source → Braked state reporter source →
          InI128 (|price - source.lastPrice| * 10000)) := by
  have wellSet := wellSet_of_reachable reached
  refine ⟨wellSet.available_iff, fun reporter sourceId price authorized pos => ?_⟩
  rw [ne_eq, updatePrice_eq_trap_iff authorized pos]
  push Not
  rfl

/-- The addresses 1 and 2 authorize at a time. -/
def signedEnv (timestamp : Nat) : Env Nat 0 where
  timestamp
  auths := [1, 2]
  contract_silent := zero_notMem_two_signers

/-- The admin 1 adds a source of weight 2, for which account 2 reports a first price. -/
def reporting (price : Int) : List (Env Nat 0 × Operation Nat) :=
  [(signedEnv 0, .initializeFeed 1 "XLM" none none none none none),
    (signedEnv 0, .addSource 1 2 "exchange" (some 2)), (signedEnv 0, .updatePrice 2 0 price)]

theorem available_iff_fits_at_hundred :
    let state := (machine 0).run {} (reporting 100)
    (Available (signedEnv 0) state ↔
      Fits state.outlierBps state.trimPct (freshQuotes (signedEnv 0) state)) ∧
    (updatePrice (signedEnv 1) 2 0 110 state ≠ .error .trap ↔
      ∀ source, state.sources.get 0 = some source → Braked state 2 source →
        InI128 (|110 - source.lastPrice| * 10000)) :=
  ⟨(available_iff_fits ⟨reporting 100, rfl⟩ (signedEnv 0)).1 (by decide),
    (available_iff_fits ⟨reporting 100, rfl⟩ (signedEnv 1)).2 2 0 110 (by decide) (by decide)⟩

/-- The largest price is accepted as a first price, but neither can it be averaged with its
weight, nor can it be updated. -/
theorem largest_price_overflows :
    let state := (machine 0).run {} (reporting i128Max)
    freshQuotes (signedEnv 0) state ≠ [] ∧ ¬ Available (signedEnv 0) state ∧
      updatePrice (signedEnv 1) 2 0 1 state = .error .trap := by
  refine ⟨by decide, fun available => ?_, rfl⟩
  obtain ⟨_, returned⟩ := available .weightedAverage
  cases returned

end SorobanPlayground.PriceFeedAggregator
