import SorobanPlayground.Perpetuals.Effects

/-! # The funding rate

The premium of the mark price over the index price is computed in 128 bits and
passes through 64 bits before it is clamped. A premium that does not fit wraps
around, and the rate can come out on the wrong side of zero.
-/

namespace SorobanPlayground.Perpetuals

variable {Address : Type} {contract : Address}

/-- The premium of a mark price over an index price in basis points. -/
def premiumBps (markPrice indexPrice : Int) : Int :=
  ((markPrice - indexPrice) * 10000).tdiv indexPrice

/-- A premium within the largest rate. -/
def clampBps (premium : Int) : Int := max (-maxFundingRateBps) (min maxFundingRateBps premium)

/-- The low 64 bits of a premium are the premium, or lie beyond the largest rate on its side. -/
def NarrowsTrue (premium : Int) : Prop :=
  InI64 premium ∨ i64Max < premium ∧ maxFundingRateBps ≤ castI64 premium ∨
    premium < i64Min ∧ castI64 premium ≤ -maxFundingRateBps

theorem clampBps_mono {less more : Int} (ordered : less ≤ more) : clampBps less ≤ clampBps more :=
  max_le_max_left _ (min_le_min_left _ ordered)

theorem premiumBps_mono {less more indexPrice : Int} (pos : 0 < indexPrice)
    (ordered : less ≤ more) : premiumBps less indexPrice ≤ premiumBps more indexPrice :=
  Int.tdiv_le_tdiv pos (by linarith)

theorem premiumBps_self (price : Int) : premiumBps price price = 0 := by
  rw [premiumBps, sub_self, zero_mul, Int.zero_tdiv]

theorem castI64_of_fits {value : Int} (fits : InI64 value) : castI64 value = value := by
  unfold InI64 i64Min i64Max at fits
  exact Int.bmod_eq_of_le (by omega) (by omega)

theorem clampBps_cast_iff (premium : Int) :
    clampBps (castI64 premium) = clampBps premium ↔ NarrowsTrue premium := by
  unfold NarrowsTrue
  by_cases fits : InI64 premium
  · rw [castI64_of_fits fits]
    exact ⟨fun _ => .inl fits, fun _ => rfl⟩
  · unfold clampBps InI64 maxFundingRateBps i64Max i64Min at *
    omega

theorem computeRateBps_ok {markPrice indexPrice rate : Int}
    (eq : computeRateBps markPrice indexPrice = .ok rate) :
    rate = clampBps (castI64 (premiumBps markPrice indexPrice)) := by
  unfold computeRateBps at eq
  split at eq
  · next zero =>
    cases eq
    rw [zero, premiumBps, Int.tdiv_zero]
    rfl
  · simp only [call_ok, arith_ok] at eq
    obtain ⟨-, -, -, -, rfl⟩ := eq
    rfl

/-- The calls that compute the rate. -/
def Operation.SetsRate : Operation Address → Prop
  | .updateIndexPrice .. | .updateFundingRate => True
  | _ => False

def IndexPositive (state : State Address) : Prop :=
  ∀ funding, state.fundingRate = some funding → 0 < funding.indexPrice

variable [DecidableEq Address]

theorem indexPositive_step {state next : State Address}
    {call : Env Address contract × Operation Address} (pos : IndexPositive state)
    (ran : dispatch state call = .ok next) :
    IndexPositive next ∧ (call.2.SetsRate → ∀ funding, next.fundingRate = some funding →
      funding.rateBps = clampBps (castI64 (premiumBps funding.markPrice funding.indexPrice))) := by
  obtain ⟨_, op⟩ := call
  cases op with
  | initializePerpetuals =>
    simp only [dispatch, initializePerpetuals, call_ok] at ran
    obtain ⟨-, -, accepted, -, _, -, _, -, rfl⟩ := ran
    refine ⟨?_, False.elim⟩
    rintro funding ⟨⟩
    exact accepted
  | setPaused =>
    simp only [dispatch, setPaused, call_ok] at ran
    obtain ⟨_, -, rfl⟩ := ran
    exact ⟨pos, False.elim⟩
  | updateIndexPrice =>
    simp only [dispatch, updateIndexPrice, State.getFunding, call_ok] at ran
    obtain ⟨_, -, accepted, funding, got, rateBps, eq, rfl⟩ := ran
    constructor
    · rintro _ ⟨⟩
      exact accepted
    · rintro - _ ⟨⟩
      exact computeRateBps_ok eq
  | updateFundingRate =>
    obtain ⟨⟨_, after⟩, returned, rfl⟩ := map_eq_ok.mp ran
    simp only [updateFundingRate, State.getFunding, call_ok, arith_ok] at returned
    obtain ⟨-, -, funding, got, -, -, vamm, -, _, -, _, eq, -, rfl⟩ := returned
    constructor
    · rintro _ ⟨⟩
      exact pos funding got
    · rintro - _ ⟨⟩
      exact computeRateBps_ok eq
  | settleFunding =>
    obtain ⟨⟨_, after⟩, returned, rfl⟩ := map_eq_ok.mp ran
    simp only [settleFunding, State.getFunding, call_ok, arith_ok] at returned
    obtain ⟨-, -, -, -, funding, got, -, -, _, -, -, rfl⟩ := returned
    refine ⟨?_, False.elim⟩
    rintro _ ⟨⟩
    exact pos funding got
  | openPosition =>
    obtain ⟨⟨_, after⟩, returned, rfl⟩ := map_eq_ok.mp ran
    simp only [openPosition, State.getFunding, call_ok] at returned
    obtain ⟨-, -, -, -, -, -, -, -, -, -, _, -, _, -, funding, got, _, -, -, rfl⟩ := returned
    refine ⟨?_, False.elim⟩
    rintro _ ⟨⟩
    exact pos funding got
  | closePosition =>
    obtain ⟨⟨_, _⟩, returned, rfl⟩ := map_eq_ok.mp ran
    simp only [closePosition, State.getFunding, call_ok] at returned
    obtain ⟨-, -, -, -, -, _, -, -, -, _, -, _, -, _, -, _, -, _, -, _, -, returned⟩ := returned
    refine ⟨?_, False.elim⟩
    split at returned <;>
    · simp only [call_ok, arith_ok] at returned
      obtain ⟨-, funding, got, -, rfl⟩ := returned
      rintro _ ⟨⟩
      exact pos funding got
  | liquidatePosition =>
    simp only [dispatch, liquidatePosition, call_ok] at ran
    obtain ⟨-, -, -, -, -, -, _, -, -, _, -, _, -, _, -, _, -, _, -, -, rfl⟩ := ran
    exact ⟨pos, False.elim⟩

/-- In every run, liquidations included, the pool lies on its curve and the mark price on record is
the price of the pool. -/
theorem mark_price_follows_pool (calls : List (Env Address contract × Operation Address)) :
    (machine contract).Always (fun state => state.initialized = true → ∃ vamm funding,
      state.vammConfig = some vamm ∧ vamm.Sound ∧ state.fundingRate = some funding ∧
        vammMarkPriceFrom vamm = .ok funding.markPrice) {} calls := by
  have always : (machine contract).Always Books {} calls := by
    refine always_invariant (fun state call next books ran => ?_) books_empty calls
    exact books_effect books (dispatch_effect ran)
  refine always.mono fun state books opened => ?_
  obtain ⟨vamm, pool⟩ := books.pooled opened
  obtain ⟨funding, stored, priced⟩ := books.marked vamm pool
  exact ⟨vamm, funding, pool, books.pool_sound vamm pool, stored, priced⟩

/-- In every run, a call that computes the funding rate stores the clamped premium if and only if
the premium narrows true to 64 bits. The clamped premium has the sign of the gap between the prices
and does not fall when the mark price rises. -/
theorem rates_exact_iff {call : Env Address contract × Operation Address} {next : State Address}
    {funding : FundingRate} (calls : List (Env Address contract × Operation Address))
    (executed : (machine contract).exec ((machine contract).run {} calls) call = .ok next)
    (sets : call.2.SetsRate) (stored : next.fundingRate = some funding) :
    (funding.rateBps = clampBps (premiumBps funding.markPrice funding.indexPrice) ↔
      NarrowsTrue (premiumBps funding.markPrice funding.indexPrice)) ∧
    (funding.indexPrice ≤ funding.markPrice →
      0 ≤ clampBps (premiumBps funding.markPrice funding.indexPrice)) ∧
    (funding.markPrice ≤ funding.indexPrice →
      clampBps (premiumBps funding.markPrice funding.indexPrice) ≤ 0) ∧
    ∀ markPrice, funding.markPrice ≤ markPrice →
      clampBps (premiumBps funding.markPrice funding.indexPrice) ≤
        clampBps (premiumBps markPrice funding.indexPrice) := by
  have pos : IndexPositive ((machine contract).run {} calls) := by
    refine run_invariant (fun state call next held executed => ?_) nofun calls
    exact (indexPositive_step held executed).1
  obtain ⟨kept, rated⟩ := indexPositive_step pos executed
  have mono : ∀ {less more : Int}, less ≤ more →
      clampBps (premiumBps less funding.indexPrice) ≤
        clampBps (premiumBps more funding.indexPrice) :=
    fun ordered => clampBps_mono (premiumBps_mono (kept funding stored) ordered)
  have even : clampBps (premiumBps funding.indexPrice funding.indexPrice) = 0 := by
    rw [premiumBps_self]
    rfl
  refine ⟨?_, fun above => even ▸ mono above, fun below => even ▸ mono below,
    fun markPrice ordered => mono ordered⟩
  rw [rated sets funding stored]
  exact clampBps_cast_iff _

/-- A pool with little base and a high price. -/
def dearPool : List (Env Nat 0 × Operation Nat) :=
  [(signedAt 0, .initializePerpetuals 1 1 922337204 10000000)]

/-- The premium wraps around to the negative side, and shorts are to pay although the mark price
is above the index price. -/
theorem wrapped_premium_negative : ∃ next funding,
    (machine 0).exec ((machine 0).run {} dearPool) (signedAt 0, .updateIndexPrice 1 10) =
      .ok next ∧ next.fundingRate = some funding ∧ funding.indexPrice < funding.markPrice ∧
      funding.rateBps < 0 ∧
      clampBps (premiumBps funding.markPrice funding.indexPrice) = 500 := by
  refine ⟨_, _, rfl, rfl, ?_⟩
  decide

theorem rates_exact_iff_dear_pool : ∃ next funding,
    (machine 0).exec ((machine 0).run {} dearPool) (signedAt 0, .updateIndexPrice 1 10000000) =
      .ok next ∧ next.fundingRate = some funding ∧
      (funding.rateBps = clampBps (premiumBps funding.markPrice funding.indexPrice) ↔
        NarrowsTrue (premiumBps funding.markPrice funding.indexPrice)) := by
  have ran : (machine 0).exec ((machine 0).run {} dearPool)
      (signedAt 0, .updateIndexPrice 1 10000000) = .ok _ := rfl
  exact ⟨_, _, ran, rfl, (rates_exact_iff dearPool ran trivial rfl).1⟩

end SorobanPlayground.Perpetuals
