import SorobanPlayground.PredictionMarket.PoolValue

/-! # The sale quote and the largest payout

A sale is quoted by bisection over a chain of rounded-down ratios. What the quote promises is the
largest payout that keeps the product of the reserves.
-/

namespace SorobanPlayground.PredictionMarket

open List

variable {Address : Type} {accepts : Int → Outcome Error Bool} {fuel : Nat} {low high found : Int}

theorem middle_bounds (inside : low ≤ high) :
    low ≤ low + (high - low).tdiv 2 ∧ low + (high - low).tdiv 2 ≤ high := by
  rw [Int.tdiv_eq_ediv_of_nonneg (by omega)]
  omega

theorem searchPayout_boundary (enough : high + 1 - low ≤ fuel) (ordered : low ≤ high + 1)
    (searched : searchPayout accepts fuel low high (low - 1) = .ok found) :
    found ≤ high ∧ (found = high ∨ accepts (found + 1) = .ok false) := by
  induction fuel generalizing low high with
  | zero =>
    cases searched
    exact ⟨by omega, .inl (by omega)⟩
  | succ fuel ih =>
    unfold searchPayout at searched
    split_ifs at searched with inside
    · simp only [bind_eq_ok, arith_ok] at searched
      obtain ⟨-, -, accepted, _, searched⟩ := searched
      obtain ⟨_, _⟩ := middle_bounds inside
      generalize low + (high - low).tdiv 2 = middle at *
      cases accepted with
      | true =>
        simp only [↓reduceIte, bind_eq_ok, arith_ok] at searched
        obtain ⟨-, searched⟩ := searched
        have upper : searchPayout accepts fuel (middle + 1) high (middle + 1 - 1) =
            .ok found := by rwa [add_sub_cancel_right]
        exact ih (by omega) (by omega) upper
      | false =>
        simp only [Bool.false_eq_true, ↓reduceIte, bind_eq_ok, arith_ok] at searched
        obtain ⟨-, searched⟩ := searched
        obtain ⟨_, rfl | rejected⟩ := ih (by omega) (by omega) searched
        · refine ⟨by omega, .inr ?_⟩
          rwa [sub_add_cancel]
        · exact ⟨by omega, .inr rejected⟩
    · cases searched
      exact ⟨by omega, .inl (by omega)⟩

theorem searchPayout_error {best : Int} {reason : Failure Error} (least : 1 ≤ low)
    (most : high < i128Max) (failed : searchPayout accepts fuel low high best = .error reason) :
    ∃ payout, low ≤ payout ∧ payout ≤ high ∧ accepts payout = .error reason := by
  have lowest : i128Min ≤ 0 := by decide
  induction fuel generalizing low high best with
  | zero => cases failed
  | succ _ ih =>
    unfold searchPayout at failed
    split_ifs at failed with inside
    · obtain ⟨above, below⟩ := middle_bounds inside
      simp only [bind_eq_error, checkedSub_eq_error, checkedAdd_eq_error,
        arith_ok] at failed
      obtain ⟨wide, -⟩ | ⟨-, ⟨outside, -⟩ | ⟨-, failed⟩⟩ := failed
      · exact absurd ⟨by omega, by omega⟩ wide
      · exact absurd ⟨by omega, by omega⟩ outside
      · generalize low + (high - low).tdiv 2 = middle at *
        obtain tested | ⟨accepted, -, failed⟩ := failed
        · exact ⟨middle, above, below, tested⟩
        · cases accepted with
          | true =>
            simp only [↓reduceIte, bind_eq_error, checkedAdd_eq_error, arith_ok] at failed
            obtain ⟨beyond, -⟩ | ⟨-, failed⟩ := failed
            · exact absurd ⟨by omega, by omega⟩ beyond
            · obtain ⟨payout, lower, upper, rejected⟩ := ih (by omega) most failed
              exact ⟨payout, by omega, upper, rejected⟩
          | false =>
            simp only [Bool.false_eq_true, ↓reduceIte, bind_eq_error, checkedSub_eq_error,
              arith_ok] at failed
            obtain ⟨beyond, -⟩ | ⟨-, failed⟩ := failed
            · exact absurd ⟨by omega, by omega⟩ beyond
            · obtain ⟨payout, lower, _, rejected⟩ := ih least (by omega) failed
              exact ⟨payout, lower, by omega, rejected⟩

variable {outcome : Nat} {shares collateral larger ratio : Int} {entries : List (Int × Nat)}

/-- The ratios of what a payout leaves to the reserves, multiplied up and rounded down. -/
def chainRatio (outcome : Nat) (shares collateral ratio : Int) (entries : List (Int × Nat)) : Int :=
  entries.foldl
    (fun ratio entry => ratio * remainingReserve outcome shares collateral entry / entry.1) ratio

theorem sellRatioHolds_true
    (holds : sellRatioHolds outcome shares collateral ratio entries = .ok true) :
    (∀ entry ∈ entries, 0 < remainingReserve outcome shares collateral entry) ∧
      ratioScale ≤ chainRatio outcome shares collateral ratio entries := by
  induction entries generalizing ratio with
  | nil => exact ⟨nofun, of_decide_eq_true (Except.ok.inj holds)⟩
  | cons _ _ ih =>
    simp only [sellRatioHolds, call_ok, arith_ok] at holds
    obtain ⟨_, _, sold, -, holds⟩ := holds
    rw [reserveAfterSale_eq sold] at holds
    split_ifs at holds with exhausted
    · cases holds
    · obtain ⟨_, divided, holds⟩ := bind_eq_ok.mp holds
      obtain ⟨-, -, -, rfl⟩ := mulDivFloor_eq divided
      obtain ⟨later, kept⟩ := ih holds
      exact ⟨forall_mem_cons.mpr ⟨not_le.mp exhausted, later⟩, kept⟩

theorem sellRatioHolds_false
    (fails : sellRatioHolds outcome shares collateral ratio entries = .ok false) :
    (∃ entry ∈ entries, remainingReserve outcome shares collateral entry ≤ 0) ∨
      chainRatio outcome shares collateral ratio entries < ratioScale := by
  induction entries generalizing ratio with
  | nil => exact .inr (not_le.mp (of_decide_eq_false (Except.ok.inj fails)))
  | cons entry _ ih =>
    simp only [sellRatioHolds, call_ok, arith_ok] at fails
    obtain ⟨_, _, sold, -, fails⟩ := fails
    rw [reserveAfterSale_eq sold] at fails
    split_ifs at fails with exhausted
    · exact .inl ⟨entry, mem_cons_self, exhausted⟩
    · obtain ⟨_, divided, fails⟩ := bind_eq_ok.mp fails
      obtain ⟨-, -, -, rfl⟩ := mulDivFloor_eq divided
      obtain ⟨other, mem, spent⟩ | below := ih fails
      · exact .inl ⟨other, mem_cons_of_mem entry mem, spent⟩
      · exact .inr below

theorem remainingReserve_antitone (less : collateral ≤ larger) (entry : Int × Nat) :
    remainingReserve outcome shares larger entry ≤
      remainingReserve outcome shares collateral entry := by
  unfold remainingReserve
  omega

theorem chainRatio_antitone {lower : Int} (less : collateral ≤ larger) (nonneg : 0 ≤ lower)
    (start : lower ≤ ratio) (pos : ∀ entry ∈ entries, 0 < entry.1)
    (left : ∀ entry ∈ entries, 0 < remainingReserve outcome shares larger entry) :
    chainRatio outcome shares larger lower entries ≤
      chainRatio outcome shares collateral ratio entries := by
  induction entries generalizing lower ratio with
  | nil => exact start
  | cons entry _ ih =>
    obtain ⟨original, pos⟩ := forall_mem_cons.mp pos
    obtain ⟨remaining, left⟩ := forall_mem_cons.mp left
    have more : remainingReserve outcome shares larger entry ≤
        remainingReserve outcome shares collateral entry := remainingReserve_antitone less entry
    have product : lower * remainingReserve outcome shares larger entry ≤
        ratio * remainingReserve outcome shares collateral entry :=
      mul_le_mul start more remaining.le (nonneg.trans start)
    have rounded := Int.ediv_nonneg (mul_nonneg nonneg remaining.le) original.le
    exact ih rounded (Int.ediv_le_ediv original product) pos left

theorem prod_remaining_antitone (less : collateral ≤ larger)
    (left : ∀ entry ∈ entries, 0 < remainingReserve outcome shares larger entry) :
    (entries.map (remainingReserve outcome shares larger)).prod ≤
      (entries.map (remainingReserve outcome shares collateral)).prod :=
  prod_map_le_prod_map₀ _ _ (fun entry mem => (left entry mem).le)
    fun entry _ => remainingReserve_antitone less entry

theorem lowerExtractable_spec {most final : Int}
    (bound : entries.foldlM (lowerExtractable outcome shares) most = .ok final) :
    final ≤ most ∧
      (final = most ∨ ∃ entry ∈ entries, remainingReserve outcome shares (final + 1) entry = 0) ∧
      ∀ entry ∈ entries, ∃ afterSale, reserveAfterSale outcome shares entry = .ok afterSale ∧
        final < afterSale := by
  induction entries generalizing most with
  | nil =>
    cases bound
    exact ⟨le_rfl, .inl rfl, nofun⟩
  | cons entry _ ih =>
    obtain ⟨_, round, bound⟩ := bind_eq_ok.mp bound
    simp only [lowerExtractable, call_ok, arith_ok] at round
    obtain ⟨afterSale, sold, -, -, rfl⟩ := round
    obtain ⟨within, attained, rest⟩ := ih bound
    have own : final < afterSale := by
      omega
    refine ⟨within.trans (min_le_right _ _), ?_,
      forall_mem_cons.mpr ⟨⟨afterSale, sold, own⟩, rest⟩⟩
    rcases attained with same | ⟨other, mem, spent⟩
    · rcases min_choice (afterSale - 1) most with lowered | kept
      · refine .inr ⟨entry, mem_cons_self, ?_⟩
        rw [same, lowered, sub_add_cancel, ← reserveAfterSale_eq sold, sub_self]
      · exact .inl (same.trans kept)
    · exact .inr ⟨other, mem_cons_of_mem entry mem, spent⟩

variable {conditional : ConditionalMarket Address} {payout : Int}

/-- The reserves once the shares are sold and the collateral is paid out. -/
def reservesAfterSale (conditional : ConditionalMarket Address) (outcome : Nat)
    (shares collateral : Int) : List Int :=
  shiftReserves (tradeChange outcome (-collateral) (-shares)) conditional.poolBalances

/-- The chain of rounded ratios rejects no payout that keeps the product of the reserves. -/
def RoundingHarmless (conditional : ConditionalMarket Address) (outcome : Nat)
    (shares : Int) : Prop :=
  ∀ collateral, 0 < collateral →
    (∀ reserve ∈ reservesAfterSale conditional outcome shares collateral, 0 < reserve) →
    conditional.poolBalances.prod ≤ (reservesAfterSale conditional outcome shares collateral).prod →
    sellInvariantHolds conditional outcome shares collateral ≠ .ok false

/-- What a market maker holds: reserves of shares, as amounts of the host. -/
structure Stocked (conditional : ConditionalMarket Address) : Prop where
  nonempty : conditional.poolBalances ≠ []
  positive : ∀ reserve ∈ conditional.poolBalances, 0 < reserve
  fits : ∀ reserve ∈ conditional.poolBalances, reserve ≤ i128Max

theorem reservesAfterSale_eq (collateral : Int) :
    reservesAfterSale conditional outcome shares collateral =
      conditional.poolBalances.zipIdx.map (remainingReserve outcome shares collateral) :=
  (map_remainingReserve _).symm

theorem Stocked.entries_pos (stocked : Stocked conditional) :
    ∀ entry ∈ conditional.poolBalances.zipIdx, 0 < entry.1 :=
  fun entry mem => stocked.positive entry.1 (fst_mem_of_mem_zipIdx mem)

theorem Stocked.prod_pos (stocked : Stocked conditional) : 0 < conditional.poolBalances.prod :=
  List.prod_pos stocked.positive

/-- The bound on payouts is below the largest amount of the host, so that one more than it would
exhaust a reserve. -/
theorem Stocked.extractable_spec (stocked : Stocked conditional) {most : Int}
    (bound : conditional.poolBalances.zipIdx.foldlM (lowerExtractable outcome shares) i128Max =
      .ok most) :
    most < i128Max ∧ (reservesAfterSale conditional outcome shares (most + 1)).prod = 0 := by
  obtain ⟨-, attained, limits⟩ := lowerExtractable_spec bound
  obtain ⟨reserve, index, listed⟩ : ∃ reserve index,
      (reserve, index) ∈ conditional.poolBalances.zipIdx := by
    obtain ⟨reserve, mem⟩ := exists_mem_of_ne_nil _ stocked.nonempty
    obtain ⟨index, inside, rfl⟩ := getElem_of_mem mem
    exact ⟨_, index, mk_mem_zipIdx_iff_getElem?.mpr (List.getElem?_eq_getElem inside)⟩
  have below : most < i128Max := by
    obtain ⟨_, sold, less⟩ := limits (reserve, index) listed
    have got := stocked.fits reserve (fst_mem_of_mem_zipIdx listed)
    unfold reserveAfterSale at sold
    split_ifs at sold with selected
    · obtain ⟨fits, rfl⟩ := checkedAdd_eq_ok.mp sold
      exact less.trans_le fits.2
    · cases sold
      exact less.trans_le got
  refine ⟨below, ?_⟩
  rcases attained with whole | ⟨entry, mem, spent⟩
  · exact absurd whole below.ne
  · rw [reservesAfterSale_eq]
    exact prod_eq_zero (mem_map.mpr ⟨entry, mem, spent⟩)

theorem Stocked.antitone (stocked : Stocked conditional) {collateral : Int}
    (less : collateral ≤ payout)
    (accepted : sellInvariantHolds conditional outcome shares payout = .ok true) :
    sellInvariantHolds conditional outcome shares collateral ≠ .ok false := by
  intro rejected
  obtain ⟨left, kept⟩ := sellRatioHolds_true accepted
  rcases sellRatioHolds_false rejected with ⟨entry, mem, spent⟩ | below
  · have more : remainingReserve outcome shares payout entry ≤
        remainingReserve outcome shares collateral entry := remainingReserve_antitone less entry
    exact absurd ((left entry mem).trans_le more) (not_lt.mpr spent)
  · have scale : 0 ≤ ratioScale := by decide
    have chain := chainRatio_antitone less scale le_rfl stocked.entries_pos left
    exact absurd (kept.trans chain) (not_le.mpr below)

theorem Stocked.quoted_spec (stocked : Stocked conditional)
    (quoted : quoteSellShares conditional outcome shares = .ok payout) :
    0 < payout ∧ sellInvariantHolds conditional outcome shares payout = .ok true ∧
      ((reservesAfterSale conditional outcome shares (payout + 1)).prod = 0 ∨
        sellInvariantHolds conditional outcome shares (payout + 1) = .ok false) := by
  simp only [quoteSellShares, validateOutcome, call_ok] at quoted
  obtain ⟨-, -, _, bound, _, best, searched, paid, rfl⟩ := quoted
  have accepted : sellInvariantHolds conditional outcome shares best = .ok true := by
    rcases searchPayout_accepted searched with rfl | accepted
    · exact absurd paid (lt_irrefl 0)
    · exact accepted
  obtain ⟨-, rfl | rejected⟩ := searchPayout_boundary (by omega) (by omega) searched
  · exact ⟨paid, accepted, .inl (stocked.extractable_spec bound).2⟩
  · exact ⟨paid, accepted, .inr rejected⟩

/-- One more than the quoted payout loses product exactly when the chain of rounded ratios rejects
no payout that keeps it. -/
theorem Stocked.maximal_iff (stocked : Stocked conditional)
    (quoted : quoteSellShares conditional outcome shares = .ok payout) :
    (reservesAfterSale conditional outcome shares (payout + 1)).prod <
        conditional.poolBalances.prod ↔ RoundingHarmless conditional outcome shares := by
  obtain ⟨_, accepted, next⟩ := stocked.quoted_spec quoted
  constructor
  · intro loses collateral _ left keeps
    have within : collateral ≤ payout := by
      by_contra beyond
      rw [reservesAfterSale_eq] at left keeps loses
      have smaller := prod_remaining_antitone (by omega : payout + 1 ≤ collateral)
        (forall_mem_map.mp left)
      omega
    exact stocked.antitone within accepted
  · intro harmless
    rcases next with spent | rejected
    · rw [spent]
      exact stocked.prod_pos
    · by_contra kept
      have keeps := stocked.prod_pos.trans_le (not_lt.mp kept)
      refine harmless (payout + 1) (by omega) ?_ (not_lt.mp kept) rejected
      rw [reservesAfterSale_eq] at keeps ⊢
      refine forall_mem_map.mpr fun entry mem => ?_
      have one := (sellRatioHolds_true accepted).1 entry mem
      have nonzero : remainingReserve outcome shares (payout + 1) entry ≠ 0 :=
        fun spent => keeps.ne' (prod_eq_zero (mem_map.mpr ⟨entry, mem, spent⟩))
      unfold remainingReserve at one nonzero ⊢
      omega

/-- A quoted payout keeps the product of the reserves, and it is the largest that does exactly when
the chain of rounded ratios rejects none. The bisection needs no more rounds than it is given, and
no step of it leaves the range of amounts: it fails only where the tested payout does. -/
theorem sell_quote_maximal_iff (stocked : Stocked conditional) (outcome : Nat) (shares : Int) :
    (∀ payout, quoteSellShares conditional outcome shares = .ok payout →
      conditional.poolBalances.prod ≤ (reservesAfterSale conditional outcome shares payout).prod ∧
        ((reservesAfterSale conditional outcome shares (payout + 1)).prod <
          conditional.poolBalances.prod ↔ RoundingHarmless conditional outcome shares)) ∧
    ∀ most, conditional.poolBalances.zipIdx.foldlM (lowerExtractable outcome shares) i128Max =
        .ok most →
      (∀ rounds, most.toNat ≤ rounds →
        searchPayout (sellInvariantHolds conditional outcome shares) rounds 1 most 0 =
          searchPayout (sellInvariantHolds conditional outcome shares) most.toNat 1 most 0) ∧
      ∀ reason, searchPayout (sellInvariantHolds conditional outcome shares) most.toNat 1 most 0 =
          .error reason →
        ∃ payout, 1 ≤ payout ∧ payout ≤ most ∧
          sellInvariantHolds conditional outcome shares payout = .error reason := by
  constructor
  · intro payout quoted
    obtain ⟨-, -, -, -, keeps⟩ := quoteSellShares_keeps quoted
    exact ⟨keeps, stocked.maximal_iff quoted⟩
  · intro most bounded
    refine ⟨fun rounds enough => ?_, fun reason failed => ?_⟩
    · induction rounds, enough using Nat.le_induction with
      | base => rfl
      | succ _ _ ih =>
        rw [← ih]
        exact searchPayout_fuel (by omega)
    · exact searchPayout_error le_rfl (stocked.extractable_spec bounded).1 failed

/-- A market with a liquidity of 6 in which account 2 has bought 5 shares of the second outcome for
3 and has minted 5 complete sets. -/
def smallMarket : ConditionalMarket Nat :=
  { marketId := 1, outcomes := ["NO", "YES"], collateralToken := 9, disputeResolver := 1,
    disputeWindow := 10, minimumDisputeBond := 1, poolBalances := [9, 4],
    totalLiquidityShares := 6, collateralLocked := 14 }

theorem sell_quote_maximal_iff_at_nine_four :
    (∀ payout, quoteSellShares smallMarket 1 10 = .ok payout →
      smallMarket.poolBalances.prod ≤ (reservesAfterSale smallMarket 1 10 payout).prod ∧
        ((reservesAfterSale smallMarket 1 10 (payout + 1)).prod <
          smallMarket.poolBalances.prod ↔ RoundingHarmless smallMarket 1 10)) ∧
    ∀ most, smallMarket.poolBalances.zipIdx.foldlM (lowerExtractable 1 10) i128Max = .ok most →
      (∀ rounds, most.toNat ≤ rounds →
        searchPayout (sellInvariantHolds smallMarket 1 10) rounds 1 most 0 =
          searchPayout (sellInvariantHolds smallMarket 1 10) most.toNat 1 most 0) ∧
      ∀ reason, searchPayout (sellInvariantHolds smallMarket 1 10) most.toNat 1 most 0 =
          .error reason →
        ∃ payout, 1 ≤ payout ∧ payout ≤ most ∧
          sellInvariantHolds smallMarket 1 10 payout = .error reason :=
  sell_quote_maximal_iff ⟨by decide, by decide, by decide⟩ 1 10

/-- Selling 10 shares is quoted 4, although a payout of 5 leaves the reserves 4 and 9 with the same
product: the ratio 4/9 is rounded down before it is multiplied by 9/4. -/
theorem sell_quote_one_short :
    (stateAfter [(signedEnv, .initializeMarkets 1),
      (signedEnv, .createBinaryMarket 2 "Will it rain?" 100 1 1 9 10 6),
      (signedEnv, .buyShares 2 1 1 3 0),
      (signedEnv, .mintCompleteSet 2 1 5)]).conditionalMarkets.get 1 = some smallMarket ∧
    quoteSellShares smallMarket 1 10 = .ok 4 ∧
    (reservesAfterSale smallMarket 1 10 5).prod = smallMarket.poolBalances.prod ∧
    ¬ ∀ payout, quoteSellShares smallMarket 1 10 = .ok payout →
      (reservesAfterSale smallMarket 1 10 (payout + 1)).prod < smallMarket.poolBalances.prod := by
  have quoted : quoteSellShares smallMarket 1 10 = .ok 4 := by decide +kernel
  refine ⟨by decide +kernel, quoted, by decide, fun maximal => ?_⟩
  exact absurd (maximal 4 quoted) (by decide)

end SorobanPlayground.PredictionMarket
