import Mathlib.Data.List.GetD
import SorobanPlayground.Library.OrderStatistics
import SorobanPlayground.PriceFeedAggregator.Sorting

/-! # What the aggregations compute

Each step of an aggregation over positive prices is characterised by the value it has in
unbounded arithmetic and by the intermediate results that have to fit into `i128`.
-/

namespace SorobanPlayground.PriceFeedAggregator

open List

variable {Address : Type} {contract : Address} (prices : List Int)

def ascending : List Int := prices.insertionSort (· ≤ ·)

/-- The value at the middle, or below it if the middle is between two values. -/
def lowerMiddle : Int := (ascending prices).getD ((prices.length - 1) / 2) 0

/-- The value at the middle, or above it if the middle is between two values. -/
def upperMiddle : Int := (ascending prices).getD (prices.length / 2) 0

def medianOf : Int := (lowerMiddle prices + upperMiddle prices).tdiv 2

def pricesOf (quotes : List (Int × Nat)) : List Int := quotes.map Prod.fst

/-- The prices of quotes with their weights, added up. -/
def weightedSum (quotes : List (Int × Nat)) : Int :=
  (quotes.map fun quote => quote.1 * (quote.2 : Int)).sum

/-- The weights of quotes, added up. -/
def weightSum (quotes : List (Int × Nat)) : Int := (quotes.map fun quote => (quote.2 : Int)).sum

/-- A price is within a threshold around a median, as the outlier filter measures it. -/
def Near (median : Int) (outlierBps : Nat) (price : Int) : Prop :=
  (|price - median| * 10000).tdiv median ≤ outlierBps

instance (median : Int) (outlierBps : Nat) (price : Int) :
    Decidable (Near median outlierBps price) := inferInstanceAs (Decidable (_ ≤ _))

/-- The quotes that the outlier filter leaves. -/
def survivors (outlierBps : Nat) (quotes : List (Int × Nat)) : List (Int × Nat) :=
  let near := quotes.filter fun quote => Near (medianOf (pricesOf quotes)) outlierBps quote.1
  if 2 < quotes.length ∧ near ≠ [] then near else quotes

/-- The prices without the lowest and the highest ones. -/
def trimmed (trimPct : Nat) (prices : List Int) : List Int :=
  let trim := prices.length * trimPct / 100
  ((ascending prices).take (prices.length - trim)).drop trim

def Positive (quotes : List (Int × Nat)) : Prop := ∀ quote ∈ quotes, 0 < quote.1 ∧ 0 < quote.2

theorem absDiff_eq (a b : Int) : absDiff a b = inI128 .trap |a - b| := by
  unfold absDiff
  by_cases below : b < a
  · rw [if_pos below, abs_of_pos (sub_pos.mpr below)]
    rfl
  · rw [if_neg below, abs_sub_comm, abs_of_nonneg (sub_nonneg.mpr (not_lt.mp below))]
    rfl

variable {base : Int}

theorem deviation_eq_ok_iff (price : Int) (pos : 0 < base) (deviation : Int) :
    (do let difference ← absDiff price base
        let scaled ← checkedMul .trap difference 10000
        checkedDiv .trap scaled base : Outcome Error Int) = .ok deviation ↔
      InI128 (|price - base| * 10000) ∧ (|price - base| * 10000).tdiv base = deviation := by
  have nonneg : 0 ≤ |price - base| := abs_nonneg _
  have scaled : 0 ≤ |price - base| * 10000 := by omega
  have quotient : 0 ≤ (|price - base| * 10000).tdiv base := Int.tdiv_nonneg scaled pos.le
  have smaller : (|price - base| * 10000).tdiv base ≤ |price - base| * 10000 :=
    Int.tdiv_le_self _ scaled
  simp only [bind_eq_ok, absDiff_eq, inI128_eq_ok, arith_ok]
  constructor
  · rintro ⟨-, fits, -, -, eq⟩
    exact ⟨fits, eq⟩
  · rintro ⟨fits, eq⟩
    exact ⟨inI128_of_le nonneg (by omega) fits, fits, pos.ne',
      inI128_of_le quotient smaller fits, eq⟩

variable {quotes : List (Int × Nat)} {prices : List Int}

theorem sum_nonneg (pos : ∀ price ∈ prices, 0 < price) : 0 ≤ prices.sum :=
  List.sum_nonneg fun price mem => (pos price mem).le

theorem foldlM_checkedAdd_eq_ok_iff {start sum : Int} (nonneg : 0 ≤ start) (fits : InI128 start)
    (pos : ∀ price ∈ prices, 0 < price) :
    prices.foldlM (checkedAdd (.trap : Failure Error)) start = .ok sum ↔
      InI128 (start + prices.sum) ∧ start + prices.sum = sum := by
  induction prices generalizing start with
  | nil =>
    rw [sum_nil, add_zero]
    exact ⟨fun ran => ⟨fits, pure_eq_ok.mp ran⟩,
      fun total => pure_eq_ok.mpr total.2⟩
  | cons price rest ih =>
    have first : 0 < price := pos price mem_cons_self
    have others : ∀ price ∈ rest, 0 < price :=
      fun other mem => pos other (mem_cons_of_mem _ mem)
    have total : start + (price :: rest).sum = start + price + rest.sum := by
      rw [sum_cons, add_assoc]
    have later : 0 ≤ rest.sum := sum_nonneg others
    rw [foldlM_cons, total]
    simp only [bind_eq_ok, arith_ok]
    constructor
    · rintro ⟨within, ran⟩
      exact (ih (by omega) within others).mp ran
    · rintro ⟨within, rfl⟩
      have partly : InI128 (start + price) := inI128_of_le (by omega) (by omega) within
      exact ⟨partly, (ih (by omega) partly others).mpr ⟨within, rfl⟩⟩

theorem sumPrices_eq_ok_iff {sum : Int} (pos : ∀ price ∈ prices, 0 < price) :
    sumPrices prices = .ok sum ↔ InI128 prices.sum ∧ prices.sum = sum := by
  unfold sumPrices
  rw [foldlM_checkedAdd_eq_ok_iff le_rfl (by decide) pos, zero_add]

@[simp] theorem weightedSum_cons (quote : Int × Nat) (rest : List (Int × Nat)) :
    weightedSum (quote :: rest) = quote.1 * (quote.2 : Int) + weightedSum rest :=
  sum_cons

@[simp] theorem weightSum_cons (quote : Int × Nat) (rest : List (Int × Nat)) :
    weightSum (quote :: rest) = (quote.2 : Int) + weightSum rest :=
  sum_cons

theorem Positive.tail {quote : Int × Nat} (pos : Positive (quote :: quotes)) : Positive quotes :=
  fun other mem => pos other (mem_cons_of_mem _ mem)

theorem Positive.price_pos (pos : Positive quotes) : ∀ price ∈ pricesOf quotes, 0 < price := by
  intro price mem
  obtain ⟨quote, listed, rfl⟩ := mem_map.mp mem
  exact (pos quote listed).1

variable {price : Int}

theorem le_weighted {weight : Nat} (pos : 0 < price ∧ 0 < weight) :
    price ≤ price * (weight : Int) ∧ (weight : Int) ≤ price * (weight : Int) := by
  obtain ⟨worth, counted⟩ := pos
  have weighty : (1 : Int) ≤ weight := Int.natCast_pos.mpr counted
  constructor
  · exact le_mul_of_one_le_right worth.le weighty
  · exact le_mul_of_one_le_left (Int.natCast_nonneg weight) worth

theorem sums_le_weightedSum (pos : Positive quotes) :
    0 ≤ weightSum quotes ∧ weightSum quotes ≤ weightedSum quotes ∧
      (pricesOf quotes).sum ≤ weightedSum quotes := by
  induction quotes with
  | nil => exact ⟨le_rfl, le_rfl, le_rfl⟩
  | cons quote rest ih =>
    obtain ⟨_, _⟩ := ih pos.tail
    obtain ⟨_, _⟩ := le_weighted (pos quote mem_cons_self)
    have total : (pricesOf (quote :: rest)).sum = quote.1 + (pricesOf rest).sum := sum_cons
    rw [total, weightedSum_cons, weightSum_cons]
    omega

theorem foldlM_addWeighted_eq_ok_iff {sum weight : Int} {result : Int × Int} (nonneg : 0 ≤ weight)
    (less : weight ≤ sum) (fits : InI128 sum) (pos : Positive quotes) :
    quotes.foldlM addWeighted (sum, weight) = .ok result ↔
      InI128 (sum + weightedSum quotes) ∧
        (sum + weightedSum quotes, weight + weightSum quotes) = result := by
  induction quotes generalizing sum weight with
  | nil =>
    have same : (sum + weightedSum [], weight + weightSum []) = (sum, weight) :=
      Prod.ext (add_zero sum) (add_zero weight)
    rw [same]
    exact ⟨fun ran => ⟨(add_zero sum).symm ▸ fits, pure_eq_ok.mp ran⟩,
      fun total => pure_eq_ok.mpr total.2⟩
  | cons quote _ ih =>
    have first := pos quote mem_cons_self
    obtain ⟨-, _⟩ := le_weighted first
    obtain ⟨_, _, -⟩ := sums_le_weightedSum pos.tail
    rw [foldlM_cons, weightedSum_cons, weightSum_cons, ← add_assoc, ← add_assoc]
    simp only [addWeighted, call_ok, arith_ok]
    constructor
    · rintro ⟨_, ⟨-, within, -, rfl⟩, ran⟩
      exact (ih (by omega) (by omega) within pos.tail).mp ran
    · rintro ⟨within, rfl⟩
      have product : InI128 (quote.1 * (quote.2 : Int)) :=
        inI128_of_le (by omega) (by omega) within
      have partly : InI128 (sum + quote.1 * (quote.2 : Int)) :=
        inI128_of_le (by omega) (by omega) within
      have weighed : InI128 (weight + (quote.2 : Int)) :=
        inI128_of_le (by omega) (by omega) within
      exact ⟨_, ⟨product, partly, weighed, rfl⟩,
        (ih (by omega) (by omega) partly pos.tail).mpr ⟨within, rfl⟩⟩

theorem weightSum_pos (nonempty : quotes ≠ []) (pos : Positive quotes) : 0 < weightSum quotes := by
  obtain ⟨quote, _, rfl⟩ := exists_cons_of_ne_nil nonempty
  obtain ⟨_, -, -⟩ := sums_le_weightedSum pos.tail
  have first : 0 < quote.2 := (pos quote mem_cons_self).2
  rw [weightSum_cons]
  omega

theorem weightedAverage_eq_ok_iff (nonempty : quotes ≠ []) (pos : Positive quotes) :
    weightedAverage quotes = .ok price ↔
      InI128 (weightedSum quotes) ∧ (weightedSum quotes).tdiv (weightSum quotes) = price := by
  obtain ⟨weights, _, -⟩ := sums_le_weightedSum pos
  have counted := weightSum_pos nonempty pos
  have sum : 0 ≤ weightedSum quotes := by omega
  have quotient : 0 ≤ (weightedSum quotes).tdiv (weightSum quotes) := Int.tdiv_nonneg sum weights
  have smaller : (weightedSum quotes).tdiv (weightSum quotes) ≤ weightedSum quotes :=
    Int.tdiv_le_self _ sum
  simp only [weightedAverage, bind_eq_ok, foldlM_addWeighted_eq_ok_iff le_rfl le_rfl (by decide :
    InI128 0) pos, zero_add]
  constructor
  · rintro ⟨_, ⟨fits, rfl⟩, divided⟩
    rw [if_neg counted.ne', checkedDiv_eq_ok] at divided
    exact ⟨fits, divided.2.2⟩
  · rintro ⟨fits, divided⟩
    refine ⟨_, ⟨fits, rfl⟩, ?_⟩
    rw [if_neg counted.ne', checkedDiv_eq_ok]
    exact ⟨counted.ne', inI128_of_le quotient smaller fits, divided⟩

theorem ascending_perm (prices : List Int) : (ascending prices).Perm prices :=
  perm_insertionSort _ prices

@[simp] theorem length_ascending (prices : List Int) : (ascending prices).length = prices.length :=
  length_insertionSort _ prices

theorem sortedLE_ascending (prices : List Int) : (ascending prices).SortedLE :=
  (pairwise_insertionSort (· ≤ ·) prices).sortedLE

theorem vecGet_ascending {index : Nat} (within : index < prices.length) :
    vecGet (ascending prices) index = .ok ((ascending prices).getD index 0) := by
  rw [← length_ascending] at within
  rw [vecGet_eq_ok, getD_eq_getElem _ _ within]
  exact List.getElem?_eq_getElem within

theorem getD_ascending_mem {index : Nat} (within : index < prices.length) :
    (ascending prices).getD index 0 ∈ prices := by
  apply (ascending_perm prices).mem_iff.mp
  rw [← length_ascending] at within
  rw [getD_eq_getElem _ _ within]
  exact getElem_mem within

theorem lowerMiddle_mem (nonempty : prices ≠ []) : lowerMiddle prices ∈ prices := by
  have counted := length_pos_iff.mpr nonempty
  exact getD_ascending_mem (by omega)

theorem upperMiddle_mem (nonempty : prices ≠ []) : upperMiddle prices ∈ prices := by
  have counted := length_pos_iff.mpr nonempty
  exact getD_ascending_mem (by omega)

theorem medianOf_of_odd (odd : prices.length % 2 = 1) :
    medianOf prices = (ascending prices).getD (prices.length / 2) 0 := by
  have same : (prices.length - 1) / 2 = prices.length / 2 := by omega
  unfold medianOf lowerMiddle upperMiddle
  rw [same, ← two_mul]
  exact Int.mul_tdiv_cancel_left _ two_ne_zero

theorem median_eq_ok_iff (nonempty : prices ≠ []) :
    median prices = .ok price ↔
      (prices.length % 2 = 0 → InI128 (lowerMiddle prices + upperMiddle prices)) ∧
        medianOf prices = price := by
  have counted := length_pos_iff.mpr nonempty
  unfold median
  rw [sortVec_eq, bind_eq_ok]
  simp only [Except.ok.injEq, exists_eq_left']
  rw [← ascending, length_ascending]
  by_cases odd : prices.length % 2 = 1
  · rw [if_pos odd, vecGet_ascending (by omega), medianOf_of_odd odd, Except.ok.injEq]
    constructor
    · intro middle
      exact ⟨fun even => absurd even (by omega), middle⟩
    · exact And.right
  · have before : prices.length / 2 - 1 = (prices.length - 1) / 2 := by omega
    have below : 1 ≤ prices.length / 2 := by omega
    rw [if_neg odd]
    simp only [call_ok, checkedSubUnsigned_eq_ok, arith_ok]
    constructor
    · rintro ⟨-, _, atLower, _, atUpper, fits, halved⟩
      rw [before, vecGet_ascending (by omega), Except.ok.injEq] at atLower
      rw [vecGet_ascending (by omega), Except.ok.injEq] at atUpper
      subst atLower atUpper
      exact ⟨fun _ => fits, halved⟩
    · rintro ⟨fits, halved⟩
      refine ⟨below, lowerMiddle prices, ?_, upperMiddle prices, ?_,
        fits (by omega), halved⟩
      · rw [before]
        exact vecGet_ascending (by omega)
      · exact vecGet_ascending (by omega)

theorem middles_le_sum (pos : ∀ price ∈ prices, 0 < price) (nonempty : prices ≠ [])
    (even : prices.length % 2 = 0) : lowerMiddle prices + upperMiddle prices ≤ prices.sum := by
  have counted := length_pos_iff.mpr nonempty
  have sorted : ∀ price ∈ ascending prices, 0 ≤ price :=
    fun price mem => (pos price ((ascending_perm prices).mem_iff.mp mem)).le
  obtain ⟨index, half⟩ : ∃ index, prices.length = 2 * (index + 1) :=
    ⟨prices.length / 2 - 1, by omega⟩
  have within : index + 1 < (ascending prices).length := by
    rw [length_ascending]
    omega
  have lower : lowerMiddle prices = (ascending prices)[index] := by
    unfold lowerMiddle
    rw [show (prices.length - 1) / 2 = index by omega]
    exact getD_eq_getElem _ _ (by omega)
  have upper : upperMiddle prices = (ascending prices)[index + 1] := by
    unfold upperMiddle
    rw [show prices.length / 2 = index + 1 by omega]
    exact getD_eq_getElem _ _ within
  have split := sum_take_add_sum_drop (ascending prices) index
  rw [drop_eq_getElem_cons (by omega), drop_eq_getElem_cons within, sum_cons,
    sum_cons, (ascending_perm prices).sum_eq] at split
  have before : 0 ≤ ((ascending prices).take index).sum :=
    List.sum_nonneg fun price mem => sorted price (mem_of_mem_take mem)
  have after : 0 ≤ ((ascending prices).drop (index + 1 + 1)).sum :=
    List.sum_nonneg fun price mem => sorted price (mem_of_mem_drop mem)
  omega

variable {trimPct : Nat}

theorem trimmed_sublist (trimPct : Nat) (prices : List Int) :
    (trimmed trimPct prices).Sublist (ascending prices) :=
  (drop_sublist _ _).trans (take_sublist _ _)

theorem mem_of_mem_trimmed (mem : price ∈ trimmed trimPct prices) : price ∈ prices :=
  (ascending_perm prices).mem_iff.mp ((trimmed_sublist trimPct prices).subset mem)

theorem length_trimmed (prices : List Int) (trimPct : Nat) :
    (trimmed trimPct prices).length =
      prices.length - prices.length * trimPct / 100 - prices.length * trimPct / 100 := by
  unfold trimmed
  rw [length_drop, length_take, length_ascending, min_eq_left (Nat.sub_le _ _)]

theorem sum_trimmed_le (pos : ∀ price ∈ prices, 0 < price) :
    (trimmed trimPct prices).sum ≤ prices.sum := by
  rw [← (ascending_perm prices).sum_eq]
  apply (trimmed_sublist trimPct prices).sum_le_sum
  intro price mem
  exact (pos price ((ascending_perm prices).mem_iff.mp mem)).le

theorem trimmedMean_eq_ok_iff (pos : ∀ price ∈ prices, 0 < price)
    (wide : 2 * (prices.length * trimPct / 100) < prices.length) :
    trimmedMean prices trimPct = .ok price ↔
      (prices.length * trimPct ≤ u32Max ∧ InI128 (trimmed trimPct prices).sum) ∧
        (trimmed trimPct prices).sum.tdiv (trimmed trimPct prices).length = price := by
  have kept : ∀ price ∈ trimmed trimPct prices, 0 < price :=
    fun price mem => pos price (mem_of_mem_trimmed mem)
  have sum : 0 ≤ (trimmed trimPct prices).sum := sum_nonneg kept
  have quotient : 0 ≤ (trimmed trimPct prices).sum.tdiv (trimmed trimPct prices).length :=
    Int.tdiv_nonneg sum (Int.natCast_nonneg _)
  have smaller := Int.tdiv_le_self (trimmed trimPct prices).length sum
  have length := length_trimmed prices trimPct
  have counted : ((trimmed trimPct prices).length : Int) ≠ 0 := by omega
  have apart : ¬ prices.length - prices.length * trimPct / 100 ≤
      prices.length * trimPct / 100 := by omega
  unfold trimmedMean
  rw [sortVec_eq, bind_eq_ok]
  simp only [Except.ok.injEq, exists_eq_left']
  rw [← ascending, length_ascending]
  simp only [bind_eq_ok, arith_ok, checkedSubUnsigned_eq_ok]
  constructor
  · rintro ⟨scaled, -, averaged⟩
    rw [if_neg apart, ← length] at averaged
    obtain ⟨_, summed, divided⟩ := bind_eq_ok.mp averaged
    obtain ⟨fits, rfl⟩ := (sumPrices_eq_ok_iff kept).mp summed
    exact ⟨⟨scaled, fits⟩, (checkedDiv_eq_ok.mp divided).2.2⟩
  · rintro ⟨⟨scaled, fits⟩, divided⟩
    refine ⟨scaled, by omega, ?_⟩
    rw [if_neg apart, ← length]
    apply bind_eq_ok.mpr
    refine ⟨_, (sumPrices_eq_ok_iff kept).mpr ⟨fits, rfl⟩, checkedDiv_eq_ok.mpr ?_⟩
    exact ⟨counted, inI128_of_le quotient smaller fits, divided⟩

variable {outlierBps : Nat}

theorem length_pricesOf (quotes : List (Int × Nat)) : (pricesOf quotes).length = quotes.length :=
  length_map _

theorem pricesOf_ne_nil (nonempty : quotes ≠ []) : pricesOf quotes ≠ [] :=
  fun nothing => nonempty (map_eq_nil_iff.mp nothing)

theorem medianOf_pos (pos : Positive quotes) (nonempty : quotes ≠ []) :
    0 < medianOf (pricesOf quotes) := by
  have lower := pos.price_pos _ (lowerMiddle_mem (pricesOf_ne_nil nonempty))
  have upper := pos.price_pos _ (upperMiddle_mem (pricesOf_ne_nil nonempty))
  unfold medianOf
  rw [Int.tdiv_eq_ediv_of_nonneg (by omega)]
  omega

variable {kept result : List (Int × Nat)}

theorem keepQuote_eq_ok_iff {quote : Int × Nat} (pos : 0 < base) :
    keepQuote base outlierBps kept quote = .ok result ↔
      InI128 (|quote.1 - base| * 10000) ∧
        (if Near base outlierBps quote.1 then kept ++ [quote] else kept) = result := by
  have measured := deviation_eq_ok_iff quote.1 pos
  simp only [bind_eq_ok] at measured
  unfold keepQuote
  simp only [call_ok]
  constructor
  · rintro ⟨difference, differs, scaled, scales, deviation, deviates, collected⟩
    obtain ⟨fits, rfl⟩ := (measured deviation).mp ⟨difference, differs, scaled, scales, deviates⟩
    exact ⟨fits, collected⟩
  · rintro ⟨fits, collected⟩
    obtain ⟨difference, differs, scaled, scales, deviates⟩ := (measured _).mpr ⟨fits, rfl⟩
    exact ⟨difference, differs, scaled, scales, _, deviates, collected⟩

theorem foldlM_keepQuote_eq_ok_iff (pos : 0 < base) :
    quotes.foldlM (keepQuote base outlierBps) kept = .ok result ↔
      (∀ quote ∈ quotes, InI128 (|quote.1 - base| * 10000)) ∧
        kept ++ quotes.filter (fun quote => Near base outlierBps quote.1) = result := by
  induction quotes generalizing kept with
  | nil =>
    rw [filter_nil, append_nil]
    exact ⟨fun ran => ⟨fun _ mem => absurd mem not_mem_nil,
      pure_eq_ok.mp ran⟩, fun same => pure_eq_ok.mpr same.2⟩
  | cons quote rest ih =>
    have collects : kept ++ (quote :: rest).filter (fun quote => Near base outlierBps quote.1) =
        (if Near base outlierBps quote.1 then kept ++ [quote] else kept) ++
          rest.filter (fun quote => Near base outlierBps quote.1) := by
      by_cases near : Near base outlierBps quote.1
      · rw [filter_cons, if_pos (decide_eq_true near), if_pos near, append_assoc]
        rfl
      · rw [filter_cons, decide_eq_false near, if_neg near, if_neg Bool.false_ne_true]
    rw [foldlM_cons, bind_eq_ok, forall_mem_cons, collects]
    simp only [keepQuote_eq_ok_iff pos]
    constructor
    · rintro ⟨_, ⟨first, rfl⟩, ran⟩
      obtain ⟨others, collected⟩ := ih.mp ran
      exact ⟨⟨first, others⟩, collected⟩
    · rintro ⟨⟨first, others⟩, collected⟩
      exact ⟨_, ⟨first, rfl⟩, ih.mpr ⟨others, collected⟩⟩

/-- What has to fit for more than two quotes to be filtered. -/
def FilterFits (quotes : List (Int × Nat)) : Prop :=
  2 < quotes.length →
    (quotes.length % 2 = 0 →
      InI128 (lowerMiddle (pricesOf quotes) + upperMiddle (pricesOf quotes))) ∧
    ∀ quote ∈ quotes, InI128 (|quote.1 - medianOf (pricesOf quotes)| * 10000)

theorem filterOutliers_eq_ok_iff {kept : List (Int × Nat)} (pos : Positive quotes) :
    filterOutliers outlierBps quotes = .ok kept ↔
      FilterFits quotes ∧ survivors outlierBps quotes = kept := by
  unfold filterOutliers FilterFits survivors
  by_cases many : 2 < quotes.length
  · have nonempty : quotes ≠ [] := ne_nil_of_length_pos (by omega)
    have center := medianOf_pos pos nonempty
    rw [if_pos many, bind_eq_ok]
    change (∃ base, median (pricesOf quotes) = .ok base ∧ _) ↔ _
    simp only [median_eq_ok_iff (pricesOf_ne_nil nonempty), length_pricesOf, many, forall_const,
      true_and, call_ok, List.isEmpty_iff]
    constructor
    · rintro ⟨_, ⟨middles, rfl⟩, _, filtered, collected⟩
      obtain ⟨fits, rfl⟩ := (foldlM_keepQuote_eq_ok_iff center).mp filtered
      refine ⟨⟨middles, fits⟩, ?_⟩
      rw [ite_not]
      exact collected
    · rintro ⟨⟨middles, fits⟩, collected⟩
      refine ⟨_, ⟨middles, rfl⟩, _, (foldlM_keepQuote_eq_ok_iff center).mpr ⟨fits, rfl⟩, ?_⟩
      rw [ite_not] at collected
      exact collected
  · rw [if_neg many, if_neg fun both => many both.1]
    exact ⟨fun same => ⟨fun more => absurd more many, Except.ok.inj same⟩,
      fun same => congrArg Except.ok same.2⟩

theorem survivors_cases (outlierBps : Nat) (quotes : List (Int × Nat)) :
    survivors outlierBps quotes = quotes ∨
      2 < quotes.length ∧ survivors outlierBps quotes ≠ [] ∧ survivors outlierBps quotes =
        quotes.filter fun quote => Near (medianOf (pricesOf quotes)) outlierBps quote.1 := by
  by_cases filters : 2 < quotes.length ∧
      quotes.filter (fun quote => Near (medianOf (pricesOf quotes)) outlierBps quote.1) ≠ []
  · have near : survivors outlierBps quotes =
        quotes.filter fun quote => Near (medianOf (pricesOf quotes)) outlierBps quote.1 :=
      if_pos filters
    refine .inr ⟨filters.1, ?_, near⟩
    rw [near]
    exact filters.2
  · exact .inl (if_neg filters)

theorem survivors_sublist (outlierBps : Nat) (quotes : List (Int × Nat)) :
    (survivors outlierBps quotes).Sublist quotes := by
  rcases survivors_cases outlierBps quotes with all | ⟨-, -, near⟩
  · rw [all]
  · rw [near]
    exact filter_sublist

theorem survivors_ne_nil (nonempty : quotes ≠ []) : survivors outlierBps quotes ≠ [] := by
  rcases survivors_cases outlierBps quotes with all | ⟨-, remain, -⟩
  · rw [all]
    exact nonempty
  · exact remain

theorem Positive.survivors (pos : Positive quotes) (outlierBps : Nat) :
    Positive (survivors outlierBps quotes) :=
  fun quote mem => pos quote ((survivors_sublist outlierBps quotes).subset mem)

theorem aggregates_iff (nonempty : quotes ≠ []) (pos : Positive quotes)
    (wide : 2 * (quotes.length * trimPct / 100) < quotes.length) :
    (∀ strategy, ∃ price, aggregate strategy trimPct quotes = .ok price) ↔
      InI128 (weightedSum quotes) ∧ quotes.length * trimPct ≤ u32Max := by
  have length := length_pricesOf quotes
  have priced := pricesOf_ne_nil nonempty
  have prices := pos.price_pos
  obtain ⟨-, -, lighter⟩ := sums_le_weightedSum pos
  constructor
  · intro eq
    obtain ⟨_, averaged⟩ := eq .weightedAverage
    obtain ⟨_, trimmedOff⟩ := eq .trimmedMean
    rw [← length] at wide ⊢
    exact ⟨((weightedAverage_eq_ok_iff nonempty pos).mp averaged).1,
      ((trimmedMean_eq_ok_iff prices wide).mp trimmedOff).1.1⟩
  · rintro ⟨fits, scaled⟩ strategy
    cases strategy with
    | median =>
      refine ⟨_, (median_eq_ok_iff priced).mpr ⟨fun even => ?_, rfl⟩⟩
      have lower := prices _ (lowerMiddle_mem priced)
      have upper := prices _ (upperMiddle_mem priced)
      exact inI128_of_le (by omega) ((middles_le_sum prices priced even).trans lighter) fits
    | weightedAverage => exact ⟨_, (weightedAverage_eq_ok_iff nonempty pos).mpr ⟨fits, rfl⟩⟩
    | trimmedMean =>
      rw [← length] at wide scaled
      refine ⟨_, (trimmedMean_eq_ok_iff prices wide).mpr ⟨⟨scaled, ?_⟩, rfl⟩⟩
      have kept : 0 ≤ (trimmed trimPct (pricesOf quotes)).sum :=
        sum_nonneg fun price mem => prices price (mem_of_mem_trimmed mem)
      exact inI128_of_le kept ((sum_trimmed_le prices).trans lighter) fits

/-- What has to fit for all three aggregates of fresh quotes to be computed. -/
structure Fits (outlierBps trimPct : Nat) (quotes : List (Int × Nat)) : Prop where
  filter : FilterFits quotes
  weighted : InI128 (weightedSum (survivors outlierBps quotes))
  trimmed : (survivors outlierBps quotes).length * trimPct ≤ u32Max

theorem getAggregatedPrice_eq_ok_iff {env : Env Address contract} {state : State Address}
    {result : AggregatedPrice} :
    getAggregatedPrice env state = .ok result ↔
      state.admin.isSome = true ∧ freshQuotes env state ≠ [] ∧
        ∃ kept, filterOutliers state.outlierBps (freshQuotes env state) = .ok kept ∧
          ∃ price, aggregate state.strategy state.trimPct kept = .ok price ∧
            { price, numSources := kept.length, timestamp := env.timestamp } = result := by
  simp only [getAggregatedPrice, ensureInitialized, call_ok]

end SorobanPlayground.PriceFeedAggregator
