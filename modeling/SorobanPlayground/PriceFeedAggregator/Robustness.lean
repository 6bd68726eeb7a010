import SorobanPlayground.PriceFeedAggregator.Availability

/-! # Robustness of the median

The median of the fresh prices lies where more than half of them lie. The filter then drops
prices far from it, which can leave those just beyond an interval as the majority: what the
median strategy returns is near the first median, and in the interval if a majority of the
prices that are left is.
-/

namespace SorobanPlayground.PriceFeedAggregator

open OrderStatistics List

variable {prices : List Int} {lo hi : Int}

theorem lowerMiddle_le_upperMiddle (nonempty : prices ≠ []) :
    lowerMiddle prices ≤ upperMiddle prices := by
  have counted := length_pos_iff.mpr nonempty
  rw [← length_ascending] at counted
  unfold lowerMiddle upperMiddle
  rw [← length_ascending, getD_eq_getElem _ _ (by omega), getD_eq_getElem _ _ (by omega)]
  exact (sortedLE_ascending prices).getElem_le_getElem_of_le (by omega)

theorem medianOf_between (pos : ∀ price ∈ prices, 0 < price) (nonempty : prices ≠ []) :
    lowerMiddle prices ≤ medianOf prices ∧ medianOf prices ≤ upperMiddle prices := by
  have lower := pos _ (lowerMiddle_mem nonempty)
  have ordered := lowerMiddle_le_upperMiddle nonempty
  unfold medianOf
  rw [Int.tdiv_eq_ediv_of_nonneg (by omega)]
  omega

theorem ascending_mem_of_majority (majority : Majority lo hi prices) {index : Nat}
    (within : index < prices.length) (middle : Middle prices.length index) :
    lo ≤ (ascending prices).getD index 0 ∧ (ascending prices).getD index 0 ≤ hi := by
  rw [← length_ascending] at within middle
  rw [getD_eq_getElem _ _ within]
  exact (majority.perm (ascending_perm prices)).middle_mem (sortedLE_ascending prices) within middle

theorem medianOf_mem_of_majority (majority : Majority lo hi prices)
    (pos : ∀ price ∈ prices, 0 < price) : lo ≤ medianOf prices ∧ medianOf prices ≤ hi := by
  have nonempty := majority.ne_nil
  have counted := length_pos_iff.mpr nonempty
  have lower : lo ≤ lowerMiddle prices ∧ _ :=
    ascending_mem_of_majority majority (by omega) ⟨by omega, by omega⟩
  have upper : _ ∧ upperMiddle prices ≤ hi :=
    ascending_mem_of_majority majority (by omega) ⟨by omega, by omega⟩
  obtain ⟨above, below⟩ := medianOf_between pos nonempty
  exact ⟨lower.1.trans above, below.trans upper.2⟩

variable {base : Int} {outlierBps : Nat} {price : Int}

theorem near_iff (pos : 0 < base) :
    Near base outlierBps price ↔ |price - base| * 10000 < (outlierBps + 1) * base := by
  have nonneg : 0 ≤ |price - base| := abs_nonneg _
  unfold Near
  rw [Int.tdiv_eq_ediv_of_nonneg (by omega), ← Int.lt_add_one_iff, Int.ediv_lt_iff_lt_mul pos]

theorem near_self (base : Int) (outlierBps : Nat) : Near base outlierBps base := by
  unfold Near
  rw [sub_self, abs_zero, zero_mul, Int.zero_tdiv]
  exact Int.natCast_nonneg _

theorem Near.between {low high : Int} (pos : 0 < base) (lowNear : Near base outlierBps low)
    (highNear : Near base outlierBps high) (above : low ≤ price) (below : price ≤ high) :
    Near base outlierBps price := by
  rw [near_iff pos] at *
  have farthest : |price - base| ≤ max |low - base| |high - base| :=
    abs_le_max_abs_abs (sub_le_sub_right above base) (sub_le_sub_right below base)
  rcases le_max_iff.mp farthest with within | within
  · omega
  · omega

theorem near_medianOf_survivors {quotes : List (Int × Nat)} (pos : Positive quotes)
    (nonempty : quotes ≠ []) :
    Near (medianOf (pricesOf quotes)) outlierBps
      (medianOf (pricesOf (survivors outlierBps quotes))) := by
  rcases survivors_cases outlierBps quotes with all | ⟨-, remain, near⟩
  · rw [all]
    exact near_self _ _
  · have priced := pricesOf_ne_nil remain
    have close : ∀ price ∈ pricesOf (survivors outlierBps quotes),
        Near (medianOf (pricesOf quotes)) outlierBps price := by
      intro price mem
      obtain ⟨_, left, rfl⟩ := mem_map.mp mem
      rw [near] at left
      exact of_decide_eq_true (mem_filter.mp left).2
    obtain ⟨above, below⟩ :=
      medianOf_between (pos.survivors outlierBps).price_pos priced
    exact (close _ (lowerMiddle_mem priced)).between (medianOf_pos pos nonempty)
      (close _ (upperMiddle_mem priced)) above below

variable {quotes : List (Int × Nat)}

theorem majority_survivors {lo hi : Int} (majority : Majority lo hi (pricesOf quotes))
    (kept : ∀ quote ∈ quotes, lo ≤ quote.1 → quote.1 ≤ hi →
      Near (medianOf (pricesOf quotes)) outlierBps quote.1) :
    Majority lo hi (pricesOf (survivors outlierBps quotes)) := by
  rcases survivors_cases outlierBps quotes with all | ⟨-, -, near⟩
  · rw [all]
    exact majority
  · have same : countWithin lo hi (pricesOf (survivors outlierBps quotes)) =
        countWithin lo hi (pricesOf quotes) := by
      unfold countWithin pricesOf
      rw [near, countP_map, countP_map, countP_filter]
      apply countP_congr
      intro quote mem
      simp only [Function.comp_apply, decide_eq_true_eq, Bool.and_eq_true]
      exact ⟨And.left, fun inside => ⟨inside, kept quote mem inside.1 inside.2⟩⟩
    have fewer := (survivors_sublist outlierBps quotes).length_le
    unfold Majority at *
    rw [same, length_pricesOf]
    rw [length_pricesOf] at majority
    omega

variable {Address : Type} {contract : Address}

def MedianFits (outlierBps : Nat) (quotes : List (Int × Nat)) : Prop :=
  FilterFits quotes ∧ ((survivors outlierBps quotes).length % 2 = 0 →
    InI128 (lowerMiddle (pricesOf (survivors outlierBps quotes)) +
      upperMiddle (pricesOf (survivors outlierBps quotes))))

theorem WellSet.median_eq_ok_iff {env : Env Address contract} {state : State Address}
    {result : AggregatedPrice} (wellSet : WellSet state) (fresh : freshQuotes env state ≠ [])
    (median : state.strategy = .median) :
    getAggregatedPrice env state = .ok result ↔
      MedianFits state.outlierBps (freshQuotes env state) ∧
        { price := medianOf (pricesOf (survivors state.outlierBps (freshQuotes env state))),
          numSources := (survivors state.outlierBps (freshQuotes env state)).length,
          timestamp := env.timestamp } = result := by
  have governed := wellSet.admin_of_fresh fresh
  have pos := wellSet.positive env
  have remain : pricesOf (survivors state.outlierBps (freshQuotes env state)) ≠ [] :=
    pricesOf_ne_nil (survivors_ne_nil fresh)
  rw [getAggregatedPrice_eq_ok_iff, median]
  simp only [filterOutliers_eq_ok_iff pos, governed, fresh, ne_eq, not_false_eq_true, true_and,
    aggregate]
  constructor
  · rintro ⟨_, ⟨filters, rfl⟩, _, eq, rfl⟩
    obtain ⟨fits, rfl⟩ := (PriceFeedAggregator.median_eq_ok_iff remain).mp eq
    rw [length_pricesOf] at fits
    exact ⟨⟨filters, fits⟩, rfl⟩
  · rintro ⟨⟨filters, fits⟩, rfl⟩
    rw [← length_pricesOf] at fits
    exact ⟨_, ⟨filters, rfl⟩, _, (PriceFeedAggregator.median_eq_ok_iff remain).mpr ⟨fits, rfl⟩, rfl⟩

variable [DecidableEq Address]

/-- Let more than half of the fresh prices lie in an interval. Then their median does. The
median strategy returns a price whenever its arithmetic fits, and this price is near that
median; it lies in the interval if more than half of the prices that the filter leaves do,
as when the filter drops none that lies there. -/
theorem returned_near_median {state : State Address}
    (reached : (machine contract).Reachable {} state) (median : state.strategy = .median)
    (env : Env Address contract) {lo hi : Int}
    (majority : Majority lo hi (pricesOf (freshQuotes env state))) :
    (lo ≤ medianOf (pricesOf (freshQuotes env state)) ∧
      medianOf (pricesOf (freshQuotes env state)) ≤ hi) ∧
    ((∃ result, getAggregatedPrice env state = .ok result) ↔
      MedianFits state.outlierBps (freshQuotes env state)) ∧
    ∀ result, getAggregatedPrice env state = .ok result →
      Near (medianOf (pricesOf (freshQuotes env state))) state.outlierBps result.price ∧
      (Majority lo hi (pricesOf (survivors state.outlierBps (freshQuotes env state))) ∨
        (∀ quote ∈ freshQuotes env state, lo ≤ quote.1 → quote.1 ≤ hi →
          Near (medianOf (pricesOf (freshQuotes env state))) state.outlierBps quote.1) →
        lo ≤ result.price ∧ result.price ≤ hi) := by
  have wellSet := wellSet_of_reachable reached
  have pos := wellSet.positive env
  have fresh : freshQuotes env state ≠ [] :=
    fun nothing => majority.ne_nil (congrArg pricesOf nothing)
  refine ⟨medianOf_mem_of_majority majority pos.price_pos, ?_, fun result returned => ?_⟩
  · simp only [wellSet.median_eq_ok_iff fresh median, exists_and_left, exists_eq', and_true]
  · obtain ⟨-, rfl⟩ := (wellSet.median_eq_ok_iff fresh median).mp returned
    refine ⟨near_medianOf_survivors pos fresh, fun condition => ?_⟩
    have remains : Majority lo hi (pricesOf (survivors state.outlierBps (freshQuotes env state))) :=
      condition.elim id (majority_survivors majority)
    exact medianOf_mem_of_majority remains (pos.survivors state.outlierBps).price_pos

/-- The admin 1 adds a source for each price that account 2 reports, with a threshold of
10%. -/
def quoting (prices : List Int) : List (Env Nat 0 × Operation Nat) :=
  (signedEnv 0, .initializeFeed 1 "XLM" none none (some 1000) none none) ::
    prices.zipIdx.flatMap fun report =>
      [(signedEnv 0, .addSource 1 2 "exchange" none),
        (signedEnv 0, .updatePrice 2 report.2 report.1)]

theorem returned_near_median_at_three :
    let state := (machine 0).run {} (quoting [100, 101, 200])
    Near (medianOf (pricesOf (freshQuotes (signedEnv 0) state))) state.outlierBps 100 := by
  have both := (returned_near_median ⟨quoting [100, 101, 200], rfl⟩ rfl (signedEnv 0)
    (show Majority 100 101 _ by decide)).2.2 ⟨100, 2, 0⟩ rfl
  exact both.1

/-- Three of five prices lie between 80 and 100, but of the three that are within 10% of the
median 100 two are 101. -/
theorem prices_beyond_interval_left :
    let state := (machine 0).run {} (quoting [80, 80, 100, 101, 101])
    Majority 80 100 (pricesOf (freshQuotes (signedEnv 0) state)) ∧ state.strategy = .median ∧
      getAggregatedPrice (signedEnv 0) state =
        .ok { price := 101, numSources := 3, timestamp := 0 } := by
  refine ⟨by decide, rfl, rfl⟩

section

variable {first second : List Int}

section

variable (permuted : first.Perm second)

include permuted

theorem ascending_congr : ascending first = ascending second :=
  ((ascending_perm first).trans (permuted.trans (ascending_perm second).symm)).eq_of_pairwise'
    (pairwise_insertionSort _ _) (pairwise_insertionSort _ _)

theorem median_congr : median first = median second := by
  have sorted : first.insertionSort (· ≤ ·) = second.insertionSort (· ≤ ·) :=
    ascending_congr permuted
  unfold median
  rw [sortVec_eq, sortVec_eq, sorted]

theorem trimmedMean_congr (trimPct : Nat) :
    trimmedMean first trimPct = trimmedMean second trimPct := by
  have sorted : first.insertionSort (· ≤ ·) = second.insertionSort (· ≤ ·) :=
    ascending_congr permuted
  unfold trimmedMean
  rw [sortVec_eq, sortVec_eq, sorted]

theorem middles_congr :
    lowerMiddle first = lowerMiddle second ∧ upperMiddle first = upperMiddle second := by
  unfold lowerMiddle upperMiddle
  rw [ascending_congr permuted, permuted.length_eq]
  exact ⟨rfl, rfl⟩

theorem medianOf_congr : medianOf first = medianOf second := by
  obtain ⟨lower, upper⟩ := middles_congr permuted
  unfold medianOf
  rw [lower, upper]

end

end

variable {strategy : AggregationStrategy}

section

variable {first second : List (Int × Nat)} {trimPct : Nat} (permuted : first.Perm second)
include permuted

theorem pricesOf_perm : (pricesOf first).Perm (pricesOf second) :=
  permuted.map _

theorem survivors_perm (outlierBps : Nat) :
    (survivors outlierBps first).Perm (survivors outlierBps second) := by
  let close (quote : Int × Nat) : Bool := Near (medianOf (pricesOf second)) outlierBps quote.1
  have near : (first.filter close).Perm (second.filter close) := permuted.filter close
  have nothing : first.filter close = [] ↔ second.filter close = [] := by
    rw [← length_eq_zero_iff, near.length_eq, length_eq_zero_iff]
  have filters := and_congr_right_iff.mpr fun _ : 2 < second.length => not_congr nothing
  unfold survivors
  dsimp only
  rw [medianOf_congr (pricesOf_perm permuted), permuted.length_eq, if_congr filters rfl rfl]
  split
  · exact near
  · exact permuted

theorem FilterFits.congr (fits : FilterFits first) : FilterFits second := by
  obtain ⟨lower, upper⟩ := middles_congr (pricesOf_perm permuted)
  unfold FilterFits at fits ⊢
  rw [← lower, ← upper, ← medianOf_congr (pricesOf_perm permuted), ← permuted.length_eq]
  intro many
  obtain ⟨middles, distances⟩ := fits many
  exact ⟨middles, fun quote mem => distances quote (permuted.mem_iff.mpr mem)⟩

theorem aggregate_congr {price : Int} (nonempty : first ≠ []) (pos : Positive first)
    (eq : aggregate strategy trimPct first = .ok price) :
    aggregate strategy trimPct second = .ok price := by
  cases strategy with
  | median => exact (median_congr (pricesOf_perm permuted)).symm.trans eq
  | weightedAverage =>
    have nonempty' : second ≠ [] := fun none => nonempty (List.Perm.eq_nil (none ▸ permuted))
    have positive' : Positive second :=
      fun quote mem => pos quote (permuted.mem_iff.mpr mem)
    have sums : weightedSum second = weightedSum first ∧ weightSum second = weightSum first :=
      ⟨(permuted.map _).sum_eq.symm, (permuted.map _).sum_eq.symm⟩
    apply (weightedAverage_eq_ok_iff nonempty' positive').mpr
    rw [sums.1, sums.2]
    exact (weightedAverage_eq_ok_iff nonempty pos).mp eq
  | trimmedMean => exact (trimmedMean_congr (pricesOf_perm permuted) trimPct).symm.trans eq

end

theorem weightedSum_between {lo hi : Int} (within : ∀ quote ∈ quotes, lo ≤ quote.1 ∧ quote.1 ≤ hi) :
    lo * weightSum quotes ≤ weightedSum quotes ∧ weightedSum quotes ≤ hi * weightSum quotes := by
  induction quotes with
  | nil => exact ⟨(mul_zero lo).le, (mul_zero hi).ge⟩
  | cons quote _ ih =>
    obtain ⟨first, others⟩ := forall_mem_cons.mp within
    obtain ⟨_, _⟩ := ih others
    have weight : (0 : Int) ≤ quote.2 := Int.natCast_nonneg _
    have low := mul_le_mul_of_nonneg_right first.1 weight
    have high := mul_le_mul_of_nonneg_right first.2 weight
    rw [weightedSum_cons, weightSum_cons, mul_add, mul_add]
    omega

theorem tdiv_between {sum count lo hi : Int} (nonneg : 0 ≤ sum) (pos : 0 < count)
    (above : lo * count ≤ sum) (below : sum ≤ hi * count) :
    lo ≤ sum.tdiv count ∧ sum.tdiv count ≤ hi := by
  rw [Int.tdiv_eq_ediv_of_nonneg nonneg]
  exact ⟨(Int.le_ediv_iff_mul_le pos).mpr above, Int.ediv_le_of_le_mul pos below⟩

theorem aggregate_between {trimPct : Nat} {lo hi : Int} (nonempty : quotes ≠ [])
    (pos : Positive quotes) (wide : 2 * (quotes.length * trimPct / 100) < quotes.length)
    (within : ∀ quote ∈ quotes, lo ≤ quote.1 ∧ quote.1 ≤ hi)
    (eq : aggregate strategy trimPct quotes = .ok price) : lo ≤ price ∧ price ≤ hi := by
  have priced : ∀ price ∈ pricesOf quotes, lo ≤ price ∧ price ≤ hi := by
    intro price mem
    obtain ⟨quote, listed, rfl⟩ := mem_map.mp mem
    exact within quote listed
  cases strategy with
  | median =>
    have prices := pricesOf_ne_nil nonempty
    obtain ⟨-, rfl⟩ := (median_eq_ok_iff prices).mp eq
    obtain ⟨above, below⟩ := medianOf_between pos.price_pos prices
    exact ⟨(priced _ (lowerMiddle_mem prices)).1.trans above,
      below.trans (priced _ (upperMiddle_mem prices)).2⟩
  | weightedAverage =>
    obtain ⟨-, rfl⟩ := (weightedAverage_eq_ok_iff nonempty pos).mp eq
    obtain ⟨weights, lighter, -⟩ := sums_le_weightedSum pos
    obtain ⟨above, below⟩ := weightedSum_between within
    exact tdiv_between (weights.trans lighter) (weightSum_pos nonempty pos) above below
  | trimmedMean =>
    rw [← length_pricesOf] at wide
    obtain ⟨-, rfl⟩ := (trimmedMean_eq_ok_iff pos.price_pos wide).mp eq
    have kept : ∀ price ∈ trimmed trimPct (pricesOf quotes), lo ≤ price ∧ price ≤ hi :=
      fun price mem => priced price (mem_of_mem_trimmed mem)
    have sum : 0 ≤ (trimmed trimPct (pricesOf quotes)).sum :=
      sum_nonneg fun price mem => pos.price_pos price (mem_of_mem_trimmed mem)
    have length := length_trimmed (pricesOf quotes) trimPct
    have above := card_nsmul_le_sum _ lo fun price mem => (kept price mem).1
    have below := sum_le_card_nsmul _ hi fun price mem => (kept price mem).2
    rw [nsmul_eq_mul, mul_comm] at above below
    exact tdiv_between sum (by omega) above below

/-- The filter that runs over an odd number of quotes keeps the one at the median. -/
theorem median_kept {filtered : List (Int × Nat)} {base : Int} {outlierBps : Nat}
    (odd : quotes.length % 2 = 1) (pos : Positive quotes)
    (eq : median (quotes.map Prod.fst) = .ok base)
    (looped : quotes.foldlM (keepQuote base outlierBps) [] = .ok filtered) : filtered ≠ [] := by
  have nonempty : quotes ≠ [] := by
    rintro rfl
    cases odd
  have counted := length_pos_iff.mpr nonempty
  obtain ⟨-, rfl⟩ := (median_eq_ok_iff (pricesOf_ne_nil nonempty)).mp eq
  obtain ⟨-, rfl⟩ := (foldlM_keepQuote_eq_ok_iff (medianOf_pos pos nonempty)).mp looped
  have middle : medianOf (pricesOf quotes) ∈ pricesOf quotes := by
    rw [← length_pricesOf] at odd counted
    rw [medianOf_of_odd odd]
    exact getD_ascending_mem (by omega)
  obtain ⟨_, listed, same⟩ := mem_map.mp middle
  apply ne_nil_of_mem
  refine mem_filter.mpr ⟨listed, decide_eq_true ?_⟩
  rw [same]
  exact near_self _ _

/-- Every vector is sorted. Where an aggregate of a reachable state is computed, it lies between all
bounds of the fresh prices, any reachable state with the same settings and with fresh quotes that
are the same up to their order returns the same price of as many sources, and the filter keeps a
quote if there is an odd number of them. -/
theorem aggregates_free_of_order :
    (∀ v, ∃ sorted, sortVec v = .ok sorted ∧ sorted.Pairwise (· ≤ ·) ∧ sorted.Perm v) ∧
    ∀ (state : State Address), (machine contract).Reachable {} state →
      ∀ (env : Env Address contract) (result : AggregatedPrice),
      getAggregatedPrice env state = .ok result →
      (∀ lo hi, (∀ quote ∈ freshQuotes env state, lo ≤ quote.1 ∧ quote.1 ≤ hi) →
        lo ≤ result.price ∧ result.price ≤ hi) ∧
      (∀ (other : State Address) (env' : Env Address contract),
        (machine contract).Reachable {} other → other.strategy = state.strategy →
        other.outlierBps = state.outlierBps →
        (freshQuotes env state).Perm (freshQuotes env' other) →
        getAggregatedPrice env' other = .ok { result with timestamp := env'.timestamp }) ∧
      ((freshQuotes env state).length % 2 = 1 → ∀ base,
        median ((freshQuotes env state).map Prod.fst) = .ok base → ∀ filtered,
        (freshQuotes env state).foldlM (keepQuote base state.outlierBps) [] = .ok filtered →
        filtered ≠ []) := by
  refine ⟨fun v => ⟨_, sortVec_eq v, pairwise_insertionSort _ v,
    perm_insertionSort _ v⟩, fun state reached env result returned => ?_⟩
  have wellSet := wellSet_of_reachable reached
  have pos := wellSet.positive env
  obtain ⟨-, fresh, _, filtered, price, eq, rfl⟩ :=
    getAggregatedPrice_eq_ok_iff.mp returned
  obtain ⟨fits, rfl⟩ := (filterOutliers_eq_ok_iff pos).mp filtered
  have remain : survivors state.outlierBps (freshQuotes env state) ≠ [] := survivors_ne_nil fresh
  have sources := pos.survivors state.outlierBps
  refine ⟨fun lo hi within => ?_, fun other env' reached' strategy outlierBps permuted => ?_,
    fun odd base middle filtered looped => median_kept odd pos middle looped⟩
  · have wide : 2 * ((survivors state.outlierBps (freshQuotes env state)).length *
        state.trimPct / 100) < (survivors state.outlierBps (freshQuotes env state)).length := by
      have counted := length_pos_iff.mpr remain
      rw [wellSet.trimPct]
      omega
    exact aggregate_between remain sources wide (fun quote mem =>
      within quote ((survivors_sublist _ _).subset mem)) eq
  · have wellSet' := wellSet_of_reachable reached'
    have fresh' : freshQuotes env' other ≠ [] := by
      intro none
      rw [none] at permuted
      exact fresh permuted.eq_nil
    have survived := survivors_perm permuted state.outlierBps
    apply getAggregatedPrice_eq_ok_iff.mpr
    refine ⟨wellSet'.admin_of_fresh fresh', fresh', survivors state.outlierBps
      (freshQuotes env' other), ?_, price, ?_, ?_⟩
    · rw [outlierBps]
      exact (filterOutliers_eq_ok_iff (wellSet'.positive env')).mpr ⟨fits.congr permuted, rfl⟩
    · rw [strategy, wellSet'.trimPct, ← wellSet.trimPct]
      exact aggregate_congr survived remain sources eq
    · rw [survived.length_eq]

end SorobanPlayground.PriceFeedAggregator
