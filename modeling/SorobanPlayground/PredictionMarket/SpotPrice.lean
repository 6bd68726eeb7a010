import SorobanPlayground.Library.InverseShares
import SorobanPlayground.PredictionMarket.PoolValue

/-! # Implied probabilities

The price of an outcome is a rounded quotient over a sum of rounded ratios of its reserve to all
reserves. The rounded ratios raise the prices; the total still stays within one.
-/

namespace SorobanPlayground.PredictionMarket

open List InverseShares

variable {Address : Type}

/-- One round of the sum of the ratios of the selected reserve to all reserves. -/
def addRatio (selected ratioSum reserve : Int) : Outcome Error Int := do
  ensure (0 < reserve) .insufficientLiquidity
  let ratio ← mulDivFloor selected ratioScale reserve
  checkedAdd (.error .arithmeticOverflow) ratioSum ratio

/-- The fixed-product implied probability in basis points. -/
def spotPrice (state : State Address) (marketId outcome : Nat) : Outcome Error Nat := do
  let conditional ← state.getConditionalMarket marketId
  validateOutcome conditional outcome
  let selected ← orError conditional.poolBalances[outcome]? .insufficientLiquidity
  ensure (0 < selected) .insufficientLiquidity
  let ratioSum ← conditional.poolBalances.foldlM (addRatio selected) 0
  ensure (ratioSum ≠ 0) .arithmeticOverflow
  let price ← mulDivFloor ratioScale 10000 ratioSum
  return castU32 price

variable {state : State Address} {conditional : ConditionalMarket Address}
  {marketId outcome price : Nat} {selected : Int}

theorem ratioScale_pos : 0 < ratioScale := by decide

theorem foldlM_addRatio {reserves : List Int} {start total : Int}
    (summed : reserves.foldlM (addRatio selected) start = .ok total) :
    (∀ reserve ∈ reserves, 0 < reserve) ∧
      total = start + ratioSum ratioScale reserves selected := by
  induction reserves generalizing start with
  | nil =>
    cases summed
    simp [ratioSum]
  | cons _ _ ih =>
    obtain ⟨_, round, summed⟩ := bind_eq_ok.mp summed
    simp only [addRatio, call_ok, arith_ok] at round
    obtain ⟨pos, _, divided, -, rfl⟩ := round
    obtain ⟨-, -, -, rfl⟩ := mulDivFloor_eq divided
    obtain ⟨rest, rfl⟩ := ih summed
    refine ⟨forall_mem_cons.mpr ⟨pos, rest⟩, ?_⟩
    simp only [ratioSum, map_cons, sum_cons]
    omega

theorem spotPrice_eq (got : state.conditionalMarkets.get marketId = some conditional)
    (eq : spotPrice state marketId outcome = .ok price) :
    (∀ reserve ∈ conditional.poolBalances, 0 < reserve) ∧
      ∃ reserve, conditional.poolBalances[outcome]? = some reserve ∧
        (price : Int) = part ratioScale 10000 conditional.poolBalances reserve := by
  simp only [spotPrice, State.getConditionalMarket, got, validateOutcome, call_ok,
    Option.some.injEq, exists_eq_left'] at eq
  obtain ⟨-, reserve, found, -, _, summed, -, _, divided, rfl⟩ := eq
  obtain ⟨pos, rfl⟩ := foldlM_addRatio summed
  obtain ⟨-, -, divisor, rfl⟩ := mulDivFloor_eq divided
  rw [zero_add] at divisor ⊢
  refine ⟨pos, reserve, found, ?_⟩
  have least : ratioScale ≤ ratioSum ratioScale conditional.poolBalances reserve :=
    scale_le_ratioSum ratioScale_pos.le pos (mem_of_getElem? found)
  have nonneg : 0 ≤ part ratioScale 10000 conditional.poolBalances reserve :=
    Int.ediv_nonneg (by decide) divisor.le
  have most : part ratioScale 10000 conditional.poolBalances reserve ≤ 10000 := by
    unfold part
    rw [← Int.lt_add_one_iff, Int.ediv_lt_iff_lt_mul divisor]
    omega
  change ((castU32 (part ratioScale 10000 conditional.poolBalances reserve) : Nat) :
    Int) = _
  unfold castU32
  omega

variable {count : Nat} {price : Nat → Nat}

theorem spotPrices_eq (got : state.conditionalMarkets.get marketId = some conditional)
    (reserves : conditional.poolBalances.length = count)
    (eq : ∀ outcome < count, spotPrice state marketId outcome = .ok (price outcome)) :
    (((List.range count).map price).sum : Int) =
      (conditional.poolBalances.map
        (part ratioScale 10000 conditional.poolBalances)).sum := by
  rw [Nat.cast_list_sum, map_map]
  apply congrArg List.sum
  apply ext_getElem
  · rw [length_map, length_map, length_range, reserves]
  · intro outcome first second
    rw [length_map, length_range] at first
    obtain ⟨-, _, found, priced⟩ := spotPrice_eq got (eq outcome first)
    obtain ⟨_, read⟩ := List.getElem?_eq_some_iff.mp found
    rw [getElem_map, getElem_map, getElem_range, read]
    exact priced

/-- The prices of the outcomes of a market add up to at most one, and to less than one basis point
for each outcome below it. An outcome with a smaller reserve has no lower price. -/
theorem spot_prices_total (stored : state.conditionalMarkets.get marketId = some conditional)
    (reserves : conditional.poolBalances.length = conditional.outcomes.length)
    (least : 2 ≤ conditional.outcomes.length) (most : conditional.outcomes.length ≤ 16)
    (computed : ∀ outcome < conditional.outcomes.length,
      spotPrice state marketId outcome = .ok (price outcome)) :
    ((List.range conditional.outcomes.length).map price).sum ≤ 10000 ∧
      10000 < ((List.range conditional.outcomes.length).map price).sum +
        conditional.outcomes.length + 1 ∧
      ∀ first second smaller larger, conditional.poolBalances[first]? = some smaller →
        conditional.poolBalances[second]? = some larger → smaller < larger →
        price second ≤ price first := by
  have total := spotPrices_eq stored reserves computed
  obtain ⟨pos, -⟩ := spotPrice_eq stored (computed 0 (by omega))
  have small : (10000 : Int) * conditional.poolBalances.length < ratioScale := by
    unfold ratioScale
    omega
  have nonempty : conditional.poolBalances ≠ [] :=
    ne_nil_of_length_pos (by omega)
  have above := sum_parts_le pos ratioScale_pos (by decide) small
  have below : (10000 : Int) < _ :=
    lt_sum_parts pos ratioScale_pos (by decide) nonempty
  refine ⟨by omega, by omega, ?_⟩
  intro first second smaller larger low high less
  obtain ⟨_, -⟩ := List.getElem?_eq_some_iff.mp low
  obtain ⟨_, -⟩ := List.getElem?_eq_some_iff.mp high
  obtain ⟨-, reserve, found, _⟩ := spotPrice_eq stored (computed first (by omega))
  cases low.symm.trans found
  obtain ⟨-, _, found, _⟩ := spotPrice_eq stored (computed second (by omega))
  cases high.symm.trans found
  have ordered : part ratioScale 10000 conditional.poolBalances larger ≤
      part ratioScale 10000 conditional.poolBalances smaller :=
    part_antitone pos ratioScale_pos (by decide)
      (mem_of_getElem? low) less.le
  omega

/-- The reserves 104 and 177 of the traded market have the prices 6298 and 3701. -/
theorem spot_prices_total_at_trade :
    ((List.range 2).map fun outcome => if outcome = 0 then 6298 else 3701).sum ≤ 10000 ∧
      10000 < ((List.range 2).map fun outcome => if outcome = 0 then 6298 else 3701).sum + 2 + 1 ∧
      ∀ first second smaller larger, [(104 : Int), 177][first]? = some smaller →
        [(104 : Int), 177][second]? = some larger → smaller < larger →
        (if second = 0 then 6298 else 3701) ≤ if first = 0 then 6298 else 3701 := by
  have got : (stateAfter openedMarket).conditionalMarkets.get 1 = some
      { marketId := 1, outcomes := ["NO", "YES"], collateralToken := 9, disputeResolver := 1,
        disputeWindow := 10, minimumDisputeBond := 1, poolBalances := [104, 177],
        totalLiquidityShares := 72, collateralLocked := 177 } := by decide +kernel
  exact spot_prices_total got rfl (by decide) (by decide) (by decide +kernel)

end SorobanPlayground.PredictionMarket
