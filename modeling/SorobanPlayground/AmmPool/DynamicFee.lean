import SorobanPlayground.AmmPool.ShareValue

/-! # The bounds of the dynamic fee

The volatility average is a mean of price changes that are cut off at the whole
price, so it stays a fraction through every change of the configuration. It decays
towards zero, and whatever it adds to the fee is clamped to the configured range.
-/

namespace SorobanPlayground.AmmPool

variable {Address : Type} {contract : Address} {env : Env Address contract}
  {state next : State Address}

/-- The stored volatility average is a fraction. -/
def Tempered (state : State Address) : Prop :=
  ∀ stored, state.volatilityState = some stored →
    0 ≤ stored.emaVolatilityBps ∧ stored.emaVolatilityBps ≤ bps

theorem Tempered.ema_mem (tempered : Tempered state) (env : Env Address contract) :
    0 ≤ (state.getVolatilityState env).emaVolatilityBps ∧
      (state.getVolatilityState env).emaVolatilityBps ≤ bps := by
  unfold State.getVolatilityState
  cases got : state.volatilityState with
  | none => exact ⟨le_rfl, (by decide : (0 : Int) ≤ bps)⟩
  | some volatility => exact tempered volatility got

theorem decayedVolatility_mem {config : DynamicFeeConfig} {decayed : Int}
    (tempered : Tempered state) (eq : decayedVolatility env config state = .ok decayed) :
    0 ≤ decayed ∧ decayed ≤ (state.getVolatilityState env).emaVolatilityBps := by
  have nonneg := (tempered.ema_mem env).1
  unfold decayedVolatility at eq
  dsimp only at eq
  split at eq
  · cases eq
    exact ⟨le_rfl, nonneg⟩
  · simp only [call_ok, arith_ok] at eq
    obtain ⟨-, -, -, rfl⟩ := eq
    exact Rounding.part_bounds nonneg (Nat.sub_le _ _) (by omega)

theorem absoluteReturn_mem {price lastPrice change : Int}
    (eq : absoluteReturn price lastPrice = .ok change) : 0 ≤ change ∧ change ≤ bps := by
  unfold absoluteReturn at eq
  split at eq
  · cases eq
    decide
  · simp only [call_ok] at eq
    obtain ⟨_, -, value, -, rfl⟩ := eq
    exact ⟨le_min (Int.natCast_nonneg value) (by decide), min_le_right _ _⟩

theorem updateVolatility_tempered {reserveA reserveB : Int} (tempered : Tempered state)
    (valid : ∀ config, state.dynamicFeeConfig = some config → config.Valid)
    (updated : updateVolatility env reserveA reserveB state = .ok next) : Tempered next := by
  unfold updateVolatility at updated
  split at updated
  · cases updated
    exact tempered
  · next config setUp =>
    simp only [call_ok, arith_ok] at updated
    obtain ⟨_, -, recent, decayed, change, changed, -, -, -, -, -, -, rfl⟩ := updated
    have most := (tempered.ema_mem env).2
    obtain ⟨recentNonneg, recentLe⟩ := decayedVolatility_mem tempered decayed
    obtain ⟨changeNonneg, changeLe⟩ := absoluteReturn_mem changed
    have weights : 0 ≤ config.emaAlphaBps ∧ 0 ≤ bps - config.emaAlphaBps := by
      have allowed := valid config setUp
      unfold DynamicFeeConfig.Valid at allowed
      omega
    have mean : recent * (bps - config.emaAlphaBps) + change * config.emaAlphaBps ≤ bps * bps := by
      have older := mul_le_mul_of_nonneg_right (recentLe.trans most) weights.2
      have newer := mul_le_mul_of_nonneg_right changeLe weights.1
      linarith [mul_sub bps bps config.emaAlphaBps]
    have nonneg := add_nonneg (mul_nonneg recentNonneg weights.2)
      (mul_nonneg changeNonneg weights.1)
    intro got same
    cases same
    refine ⟨Int.tdiv_nonneg nonneg (by decide), ?_⟩
    rw [Int.tdiv_eq_ediv_of_nonneg nonneg]
    exact Int.ediv_le_of_le_mul (by decide) mean

variable {less more reserveIn low high : Int}

theorem utilizationBps_mono (nonneg : 0 ≤ less) (ordered : less ≤ more) (reserve : 0 ≤ reserveIn)
    (ofLess : utilizationBps less reserveIn = .ok low)
    (ofMore : utilizationBps more reserveIn = .ok high) : 0 ≤ low ∧ low ≤ high := by
  simp only [utilizationBps, call_ok, arith_ok] at ofLess ofMore
  obtain ⟨-, -, _, -, rfl⟩ := ofLess
  obtain ⟨-, -, -, -, rfl⟩ := ofMore
  have scaled : 0 ≤ less * bps := mul_nonneg nonneg (by decide)
  refine ⟨Int.tdiv_nonneg scaled (by omega),
    Rounding.tdiv_le_tdiv_of_mul_le scaled (by omega) (by omega) ?_⟩
  have crossed := mul_le_mul_of_nonneg_right ordered reserve
  unfold bps
  linarith [mul_comm less more]

theorem clamp_mono {least greatest first second : Int} (ordered : low ≤ high)
    (ofLow : clamp low least greatest = .ok first) (ofHigh : clamp high least greatest = .ok second)
    :
    first ≤ second := by
  simp only [clamp, call_ok, assertOrTrap_eq_ok] at ofLow ofHigh
  obtain ⟨_, rfl⟩ := ofLow
  split_ifs <;> omega

theorem effectiveFee_mono {low high : Int × Int × Int}
    (valid : ∀ config, state.dynamicFeeConfig = some config → config.Valid) (nonneg : 0 ≤ less)
    (ordered : less ≤ more) (reserve : 0 ≤ reserveIn)
    (ofLess : effectiveFee env less reserveIn state = .ok low)
    (ofMore : effectiveFee env more reserveIn state = .ok high) : low.1 ≤ high.1 := by
  obtain ⟨_, usedLess, ofLess⟩ := bind_eq_ok.mp ofLess
  obtain ⟨_, usedMore, ofMore⟩ := bind_eq_ok.mp ofMore
  obtain ⟨_, used⟩ := utilizationBps_mono nonneg ordered reserve usedLess usedMore
  cases setUp : state.dynamicFeeConfig with
  | none =>
    rw [setUp] at ofLess ofMore
    cases ofLess
    cases ofMore
    exact le_rfl
  | some config =>
    rw [setUp] at ofLess ofMore
    simp only [call_ok, arith_ok] at ofLess ofMore
    obtain ⟨_, decayed, -, -, -, -, -, -, -, -, _, clamped, rfl⟩ := ofLess
    obtain ⟨_, decayedAgain, -, -, -, -, -, -, -, -, _, clampedOther, rfl⟩ := ofMore
    obtain rfl := Except.ok.inj (decayed.symm.trans decayedAgain)
    have multiplier : 0 ≤ config.utilizationMultiplierBps := by
      have allowed := valid config setUp
      unfold DynamicFeeConfig.Valid at allowed
      omega
    refine clamp_mono (Int.add_le_add_left ?_ _) clamped clampedOther
    exact Int.tdiv_le_tdiv (by decide) (mul_le_mul_of_nonneg_right used multiplier)

variable [DecidableEq Address]

theorem buildSwapQuote_pos {amountIn reserveOut : Int} {quote : SwapQuote} (sound : Sound state)
    (quoted : buildSwapQuote env amountIn reserveIn reserveOut state = .ok quote) :
    0 < quote.amountOut := by
  obtain ⟨input, positiveIn, positiveOut, -⟩ := buildSwapQuote_keeps sound quoted
  simp only [buildSwapQuote, call_ok, Prod.exists] at quoted
  obtain ⟨-, -, _, _, _, charged, _, eq, nonzero, _, -, _, -, _, -, rfl⟩ :=
    quoted
  obtain rfl := constantProductAmountOut_eq eq
  exact lt_of_le_of_ne (ConstantProduct.quote_nonneg (by decide) positiveIn positiveOut.le
    (charged_mem input (effectiveFee_mem sound charged)).1) nonzero.symm

theorem executeSwap_tempered {tokenIn : Address} {amountIn minOut out : Int}
    {maxFeeBps : Option Int} {deadline : Option Nat} (sound : Sound state)
    (tempered : Tempered state)
    (ran : executeSwap env tokenIn amountIn minOut maxFeeBps deadline state = .ok (out, next)) :
    Tempered next ∧ ∃ reserveIn reserveOut aToB,
      reservesForTokenIn tokenIn state = .ok (reserveIn, reserveOut, aToB) ∧
      0 < out ∧ out < reserveOut := by
  simp only [executeSwap, call_ok, Prod.exists] at ran
  obtain ⟨-, reserveIn, reserveOut, aToB, resolved, _, quoted, -, -, -, _, _, -, timed,
    first, observed, second, _, third, rfl, rfl⟩ := ran
  constructor
  · have before : timed.volatilityState = state.volatilityState := by
      apply Outcome.Yields.of_ok first
      rw [updateTwap, yields_ite]
      simp only [yields_ok, yields_bind, yields_pure, yields_true, State.setReserves, implies_true,
        and_self]
    have same : timed.dynamicFeeConfig = state.dynamicFeeConfig :=
      (updateTwap_same first).dynamicFeeConfig
    have tempered : Tempered observed := by
      refine updateVolatility_tempered (fun got found => ?_) (fun config found => ?_) second
      · exact tempered got (before ▸ found)
      · exact sound.config config (same ▸ found)
    simp only [recordSwapMetrics, call_ok] at third
    obtain ⟨-, -, -, -, -, -, -, -, rfl⟩ := third
    exact tempered
  · have left := (buildSwapQuote_keeps sound quoted).2.2.2.1
    exact ⟨reserveIn, reserveOut, aToB, resolved, buildSwapQuote_pos sound quoted, by omega⟩

theorem dispatch_tempered {call : Env Address contract × Operation Address} (sound : Sound state)
    (tempered : Tempered state) (ran : dispatch state call = .ok next) : Tempered next := by
  obtain ⟨env, op⟩ := call
  cases op with
  | configureDynamicFees =>
    simp only [dispatch, configureDynamicFees, bind_eq_ok] at ran
    obtain ⟨_, -, _, -, observed⟩ := ran
    unfold observePrice at observed
    split at observed
    · simp only [call_ok] at observed
      obtain ⟨_, -, rfl⟩ := observed
      intro got same
      cases same
      exact tempered.ema_mem env
    · cases observed
      exact tempered
  | swap =>
    obtain ⟨⟨out, left⟩, swapped, rfl⟩ := map_eq_ok.mp ran
    simp only [swap, bind_eq_ok] at swapped
    obtain ⟨_, -, _, -, swapped⟩ := swapped
    exact (executeSwap_tempered sound tempered swapped).1
  | swapWithLimits =>
    obtain ⟨⟨_, _⟩, swapped, rfl⟩ := map_eq_ok.mp ran
    simp only [swapWithLimits, bind_eq_ok] at swapped
    obtain ⟨_, -, _, -, swapped⟩ := swapped
    exact (executeSwap_tempered sound tempered swapped).1
  | _ =>
    have same : next.volatilityState = state.volatilityState := by
      apply Outcome.Yields.of_ok ran
      simp only [dispatch, initializePool, disableDynamicFees, initializeNft, ensurePool,
        addLiquidity, removeLiquidity, updateFloorPrice, yields_bind, yields_pure, yields_true,
        yields_map, yields_ok, yields_ite, implies_true, and_self, State.setReserves,
        State.setTotalLp, State.setLp]
    exact fun got found => tempered got (same ▸ found)

/-- What a pool keeps of its fees whenever it is called: the volatility average is a fraction and
only decays, the fee is an allowed one and grows with the amount, and a swap gives something but
never all of a reserve. -/
structure FeesBounded (contract : Address) (state : State Address) : Prop where
  ema : ∀ env : Env Address contract, 0 ≤ (state.getVolatilityState env).emaVolatilityBps ∧
    (state.getVolatilityState env).emaVolatilityBps ≤ bps
  decays : ∀ (env : Env Address contract) config decayed,
    state.dynamicFeeConfig = some config → decayedVolatility env config state = .ok decayed →
      0 ≤ decayed ∧ decayed ≤ (state.getVolatilityState env).emaVolatilityBps
  fee : ∀ (env : Env Address contract) amountIn reserveIn charged,
    effectiveFee env amountIn reserveIn state = .ok charged → state.FeeAllowed charged.1
  grows : ∀ (env : Env Address contract) less more reserveIn low high,
    0 ≤ less → less ≤ more → 0 ≤ reserveIn → effectiveFee env less reserveIn state = .ok low →
      effectiveFee env more reserveIn state = .ok high → low.1 ≤ high.1
  swaps : ∀ (env : Env Address contract) tokenIn amountIn minOut maxFeeBps deadline out next,
    executeSwap env tokenIn amountIn minOut maxFeeBps deadline state = .ok (out, next) →
      ∃ reserveIn reserveOut aToB,
        reservesForTokenIn tokenIn state = .ok (reserveIn, reserveOut, aToB) ∧
        0 < out ∧ out < reserveOut

/-- In every run, whatever is swapped, configured and disabled at whatever times, the dynamic fee
keeps its bounds. -/
theorem fees_bounded (calls : List (Env Address contract × Operation Address)) :
    (machine contract).Always (FeesBounded contract) ({} : State Address) calls := by
  have keeps : ∀ (state : State Address) call next, Sound state ∧ Tempered state →
      (machine contract).exec state call = .ok next → Sound next ∧ Tempered next :=
    fun _ _ _ held ran =>
      ⟨(dispatch_keeps held.1 ran).1, dispatch_tempered held.1 held.2 ran⟩
  apply (always_invariant keeps ⟨initial_sound, nofun⟩ calls).mono
  rintro _ ⟨sound, tempered⟩
  exact {
    ema := tempered.ema_mem
    decays := fun _ _ _ _ eq => decayedVolatility_mem tempered eq
    fee := fun _ _ _ _ eq => effectiveFee_allowed sound eq
    grows := fun _ _ _ _ _ _ nonneg ordered reserve ofLess ofMore =>
      effectiveFee_mono sound.config nonneg ordered reserve ofLess ofMore
    swaps := fun _ _ _ _ _ _ _ _ ran => (executeSwap_tempered sound tempered ran).2 }

end SorobanPlayground.AmmPool
