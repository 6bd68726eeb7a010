import SorobanPlayground.Library.ConstantProduct
import SorobanPlayground.Library.SharePool
import SorobanPlayground.AmmPool.Contract

/-! # The value of a share of the constant product pool

A pool is empty, or its LP tokens are the locked minimum and the balances of all
providers while both reserves are positive. No call lowers the product of the
reserves per LP token: deposits, withdrawals and swaps all round in the pool's
favour, under every fee that the pool can charge.
-/

namespace SorobanPlayground.AmmPool

variable {Address : Type} {contract : Address}

/-- The LP balances of all providers, added up. -/
def State.lpSum (state : State Address) : Int := state.lp.total fun _ balance => balance

def State.sharePool (state : State Address) : SharePool Int :=
  { reserves := [state.reserveA, state.reserveB], shares := state.totalLp }

/-- The pool is empty, or the locked minimum and the providers' balances, none of
them negative, make up the LP tokens of a pool with positive reserves. -/
def Backed (state : State Address) : Prop :=
  (state.totalLp = 0 ∧ state.reserveA = 0 ∧ state.reserveB = 0 ∧ state.lp = ∅) ∨
    (state.totalLp = minLiquidity + state.lpSum ∧ 0 < state.reserveA ∧ 0 < state.reserveB)

/-- The state differs at most in what no reserve, balance or fee depends on. -/
structure SameBooks (state next : State Address) : Prop where
  reserveA : next.reserveA = state.reserveA
  reserveB : next.reserveB = state.reserveB
  totalLp : next.totalLp = state.totalLp
  lp : next.lp = state.lp
  feeBps : next.feeBps = state.feeBps
  dynamicFeeConfig : next.dynamicFeeConfig = state.dynamicFeeConfig

section Books

variable {state next third : State Address}

theorem SameBooks.trans (first : SameBooks state next) (second : SameBooks next third) :
    SameBooks state third where
  reserveA := second.reserveA.trans first.reserveA
  reserveB := second.reserveB.trans first.reserveB
  totalLp := second.totalLp.trans first.totalLp
  lp := second.lp.trans first.lp
  feeBps := second.feeBps.trans first.feeBps
  dynamicFeeConfig := second.dynamicFeeConfig.trans first.dynamicFeeConfig

theorem SameBooks.backed (same : SameBooks state next) (backed : Backed state) : Backed next := by
  unfold Backed State.lpSum at *
  rw [same.totalLp, same.reserveA, same.reserveB, same.lp]
  exact backed

theorem SameBooks.sharePool (same : SameBooks state next) : next.sharePool = state.sharePool := by
  unfold State.sharePool
  rw [same.reserveA, same.reserveB, same.totalLp]

variable [DecidableEq Address]

structure Sound (state : State Address) : Prop where
  fee : 0 ≤ state.feeBps ∧ state.feeBps < bps
  config : ∀ config, state.dynamicFeeConfig = some config → config.Valid
  lp_nonneg : ∀ provider balance, state.lp.get provider = some balance → 0 ≤ balance
  backed : Backed state

theorem SameBooks.sound (same : SameBooks state next) (sound : Sound state) : Sound next where
  fee := by
    rw [same.feeBps]
    exact sound.fee
  config := by
    rw [same.dynamicFeeConfig]
    exact sound.config
  lp_nonneg := by
    rw [same.lp]
    exact sound.lp_nonneg
  backed := same.backed sound.backed

section

variable (sound : Sound state)

include sound

theorem Sound.lpSum_nonneg : 0 ≤ state.lpSum :=
  total_nonneg sound.lp_nonneg

theorem Sound.totalLp_nonneg : 0 ≤ state.totalLp := by
  have sum := sound.lpSum_nonneg
  rcases sound.backed with ⟨empty, -⟩ | ⟨backed, -⟩
  · exact empty.ge
  · unfold minLiquidity at backed
    omega

theorem Sound.filled (nonempty : 0 < state.reserveA ∨ state.totalLp ≠ 0) :
    state.totalLp = minLiquidity + state.lpSum ∧ 0 < state.reserveA ∧ 0 < state.reserveB := by
  rcases sound.backed with ⟨noShares, noReserve, -⟩ | filled
  · omega
  · exact filled

theorem Sound.getLp_nonneg (provider : Address) : 0 ≤ state.getLp provider := by
  unfold State.getLp
  cases got : state.lp.get provider with
  | none => exact le_rfl
  | some balance => exact sound.lp_nonneg provider balance got

theorem Sound.getLp_le (provider : Address) : state.getLp provider ≤ state.lpSum := by
  unfold State.getLp
  cases got : state.lp.get provider with
  | none => exact sound.lpSum_nonneg
  | some => exact weight_le_total sound.lp_nonneg got

theorem Sound.nonempty_of_owned {provider : Address} {lpAmount : Int} (pos : 0 < lpAmount)
    (owned : lpAmount ≤ state.getLp provider) : state.totalLp ≠ 0 := by
  have held := sound.getLp_le provider
  rcases sound.backed with ⟨-, -, -, nobody⟩ | ⟨backed, -⟩
  · unfold State.lpSum at held
    rw [nobody, FiniteMap.total_empty] at held
    omega
  · unfold minLiquidity at backed
    omega

end

theorem State.lpSum_setLp (state : State Address) (provider : Address) (amount : Int) :
    (state.setLp provider amount).lpSum = state.lpSum - state.getLp provider + amount :=
  total_set_getD state.lp (fun _ balance => balance) provider amount 0 rfl

end Books

variable [DecidableEq Address] {env : Env Address contract} {state : State Address}

theorem clamp_mem {value least greatest clamped : Int}
    (eq : clamp value least greatest = .ok clamped) : least ≤ clamped ∧ clamped ≤ greatest := by
  simp only [clamp, call_ok, assertOrTrap_eq_ok] at eq
  obtain ⟨ordered, rfl⟩ := eq
  split
  · exact ⟨le_rfl, ordered⟩
  · split
    · exact ⟨ordered, le_rfl⟩
    · omega

/-- The fees that a pool may charge: the fixed one, or the configured range. -/
def State.FeeAllowed (state : State Address) (fee : Int) : Prop :=
  match state.dynamicFeeConfig with
  | none => fee = state.feeBps ∧ 0 ≤ fee ∧ fee < bps
  | some config => config.minFeeBps ≤ fee ∧ fee ≤ config.maxFeeBps ∧ config.maxFeeBps < bps

variable {amountIn reserveIn : Int}

theorem effectiveFee_allowed {charged : Int × Int × Int} (sound : Sound state)
    (eq : effectiveFee env amountIn reserveIn state = .ok charged) :
    state.FeeAllowed charged.1 := by
  obtain ⟨_, -, eq⟩ := bind_eq_ok.mp eq
  unfold State.FeeAllowed
  cases setUp : state.dynamicFeeConfig with
  | none =>
    rw [setUp] at eq
    cases eq
    exact ⟨rfl, sound.fee⟩
  | some config =>
    rw [setUp] at eq
    simp only [call_ok] at eq
    obtain ⟨_, -, _, -, _, -, _, -, _, -, _, -, _, -, fee, clamped, rfl⟩ := eq
    have valid := sound.config config setUp
    unfold DynamicFeeConfig.Valid at valid
    exact ⟨(clamp_mem clamped).1, (clamp_mem clamped).2, by omega⟩

theorem effectiveFee_mem {fee volatility utilization : Int} (sound : Sound state)
    (eq : effectiveFee env amountIn reserveIn state = .ok (fee, volatility, utilization)) :
    0 ≤ fee ∧ fee < bps := by
  have allowed := effectiveFee_allowed sound eq
  unfold State.FeeAllowed at allowed
  split at allowed
  · exact allowed.2
  · next config setUp =>
    have valid := sound.config config setUp
    unfold DynamicFeeConfig.Valid at valid
    omega

variable {ra rb feeBps out : Int}

theorem constantProductAmountOut_eq
    (eq : constantProductAmountOut amountIn ra rb feeBps = .ok out) :
    out = ConstantProduct.quote 10000 ra rb (amountIn * (10000 - feeBps)) := by
  simp only [constantProductAmountOut, call_ok, arith_ok] at eq
  obtain ⟨-, -, -, -, -, -, -, -, rfl⟩ := eq
  rfl

theorem charged_mem (input : 0 < amountIn) (fee : 0 ≤ feeBps ∧ feeBps < bps) :
    0 ≤ amountIn * (10000 - feeBps) ∧ amountIn * (10000 - feeBps) ≤ amountIn * 10000 := by
  unfold bps at fee
  exact ⟨mul_nonneg input.le (by omega), mul_le_mul_of_nonneg_left (by omega) input.le⟩

/-- The output of a swap leaves the other reserve positive and does not lower the
product of the reserves. -/
theorem constantProductAmountOut_keeps (input : 0 < amountIn) (positiveA : 0 < ra)
    (positiveB : 0 < rb) (fee : 0 ≤ feeBps ∧ feeBps < bps)
    (eq : constantProductAmountOut amountIn ra rb feeBps = .ok out) :
    0 < rb - out ∧ ra * rb ≤ (ra + amountIn) * (rb - out) := by
  obtain rfl := constantProductAmountOut_eq eq
  obtain ⟨countedNonneg, discounted⟩ := charged_mem input fee
  exact ⟨sub_pos.mpr (ConstantProduct.quote_lt (by decide) positiveA positiveB countedNonneg),
    ConstantProduct.product_le (by decide) positiveA positiveB countedNonneg discounted⟩

variable {next : State Address}

section

omit [DecidableEq Address]

theorem updateTwap_same {ra rb : Int} (updated : updateTwap env ra rb state = .ok next) :
    SameBooks state next := by
  unfold updateTwap at updated
  split at updated
  · cases updated
    exact ⟨rfl, rfl, rfl, rfl, rfl, rfl⟩
  · simp only [call_ok] at updated
    obtain ⟨_, -, _, -, rfl⟩ := updated
    exact ⟨rfl, rfl, rfl, rfl, rfl, rfl⟩

theorem updateVolatility_same {reserveA reserveB : Int}
    (updated : updateVolatility env reserveA reserveB state = .ok next) : SameBooks state next := by
  unfold updateVolatility at updated
  split at updated
  · cases updated
    exact ⟨rfl, rfl, rfl, rfl, rfl, rfl⟩
  · simp only [call_ok] at updated
    obtain ⟨_, -, _, -, _, -, _, -, _, -, _, -, _, -, _, -, rfl⟩ := updated
    exact ⟨rfl, rfl, rfl, rfl, rfl, rfl⟩

theorem recordSwapMetrics_same {amountIn feeBps : Int}
    (noted : recordSwapMetrics amountIn feeBps state = .ok next) : SameBooks state next := by
  simp only [recordSwapMetrics, call_ok] at noted
  obtain ⟨_, -, _, -, _, -, _, -, rfl⟩ := noted
  exact ⟨rfl, rfl, rfl, rfl, rfl, rfl⟩

end

theorem buildSwapQuote_keeps {amountIn reserveIn reserveOut : Int} {quote : SwapQuote}
    (sound : Sound state)
    (quoted : buildSwapQuote env amountIn reserveIn reserveOut state = .ok quote) :
    0 < amountIn ∧ 0 < reserveIn ∧ 0 < reserveOut ∧ 0 < reserveOut - quote.amountOut ∧
      reserveIn * reserveOut ≤ (reserveIn + amountIn) * (reserveOut - quote.amountOut) := by
  simp only [buildSwapQuote, call_ok, Prod.exists] at quoted
  obtain ⟨input, pos, feeBps, _, _, charged, amountOut, eq, -, _, -, _, -, _, -, rfl⟩ :=
    quoted
  obtain ⟨positiveIn, positiveOut⟩ := not_or.mp pos
  have fee := effectiveFee_mem sound charged
  have kept := constantProductAmountOut_keeps input (not_le.mp positiveIn) (not_le.mp positiveOut)
    fee eq
  exact ⟨input, not_le.mp positiveIn, not_le.mp positiveOut, kept⟩

theorem reservesForTokenIn_cases {tokenIn : Address} {reserveIn reserveOut : Int} {aToB : Bool}
    (resolved : reservesForTokenIn tokenIn state = .ok (reserveIn, reserveOut, aToB)) :
    (state.reserveA = reserveIn ∧ state.reserveB = reserveOut ∧ true = aToB) ∨
      (state.reserveB = reserveIn ∧ state.reserveA = reserveOut ∧ false = aToB) := by
  simp only [reservesForTokenIn, call_ok] at resolved
  obtain ⟨tokenA, -, tokenB, -, resolved⟩ := resolved
  split at resolved
  · simp only [pure_eq_ok, Prod.mk.injEq] at resolved
    exact .inl resolved
  · split at resolved
    · simp only [pure_eq_ok, Prod.mk.injEq] at resolved
      exact .inr resolved
    · cases resolved

theorem executeSwap_keeps {tokenIn : Address} {minOut : Int} {maxFeeBps : Option Int}
    {deadline : Option Nat} (sound : Sound state)
    (ran : executeSwap env tokenIn amountIn minOut maxFeeBps deadline state = .ok (out, next)) :
    Sound next ∧ state.sharePool.Undiluted next.sharePool := by
  simp only [executeSwap, call_ok, Prod.exists] at ran
  obtain ⟨-, reserveIn, reserveOut, aToB, resolved, quote, quoted, -, -, -, newA, newB, exchanged,
    timed, first, observed, second, noted, third, -, rfl⟩ := ran
  have same := ((updateTwap_same first).trans (updateVolatility_same second)).trans
    (recordSwapMetrics_same third)
  obtain ⟨input, positiveIn, positiveOut, left, kept⟩ := buildSwapQuote_keeps sound quoted
  simp only [swappedReserves, call_ok, arith_ok] at exchanged
  obtain ⟨-, -, exchanged⟩ := exchanged
  have swapped : 0 < newA ∧ 0 < newB ∧ 0 < state.reserveA ∧ 0 < state.reserveB ∧
      state.reserveA * state.reserveB ≤ newA * newB := by
    rcases reservesForTokenIn_cases resolved with ⟨rfl, rfl, rfl⟩ | ⟨rfl, rfl, rfl⟩
    · cases exchanged
      exact ⟨by omega, left, positiveIn, positiveOut, kept⟩
    · cases exchanged
      refine ⟨left, by omega, positiveOut, positiveIn, ?_⟩
      rw [mul_comm, mul_comm (_ - _)]
      exact kept
  obtain ⟨positiveA, positiveB, oldA, oldB, product⟩ := swapped
  have backed : Sound (state.setReserves newA newB) :=
    ⟨sound.fee, sound.config, sound.lp_nonneg,
      .inr ⟨(sound.filled (.inl oldA)).1, positiveA, positiveB⟩⟩
  refine ⟨same.sound backed, ?_⟩
  rw [same.sharePool]
  refine SharePool.undiluted_of_prod_le sound.totalLp_nonneg rfl ?_
  change [state.reserveA, state.reserveB].prod ≤ [newA, newB].prod
  rwa [List.prod_pair, List.prod_pair]

theorem undiluted_of_shares (reserveA reserveB totalLp : Int) (sound : Sound state)
    (shares : 0 ≤ totalLp) (sideA : state.reserveA * totalLp ≤ reserveA * state.totalLp)
    (sideB : state.reserveB * totalLp ≤ reserveB * state.totalLp) :
    state.sharePool.Undiluted ⟨[reserveA, reserveB], totalLp⟩ := by
  have reserves : 0 ≤ state.reserveA ∧ 0 ≤ state.reserveB := by
    rcases sound.backed with ⟨-, emptyA, emptyB, -⟩ | ⟨-, positiveA, positiveB⟩
    · exact ⟨emptyA.ge, emptyB.ge⟩
    · exact ⟨positiveA.le, positiveB.le⟩
  exact SharePool.undiluted_of_forall₂ shares
    (.cons ⟨reserves.1, sideA⟩ (.cons ⟨reserves.2, sideB⟩ .nil))

variable {provider : Address}

theorem addLiquidity_keeps {amountA amountB minLp minted : Int} (sound : Sound state)
    (ran : addLiquidity env provider amountA amountB minLp state = .ok (minted, next)) :
    Sound next ∧ (0 < state.totalLp → state.sharePool.Undiluted next.sharePool) := by
  simp only [addLiquidity, call_ok, arith_ok, Prod.exists] at ran
  obtain ⟨-, _, -, amounts, lpMinted, total, mint, -, -, -, -, -, -, rfl⟩ := ran
  have sum := state.lpSum_setLp provider (state.getLp provider + lpMinted)
  have nonneg := sound.getLp_nonneg provider
  unfold mintShares at mint
  split at mint
  · next empty =>
    simp only [firstMint, call_ok, arith_ok] at mint
    obtain ⟨lp, -, enough, -, rfl, rfl⟩ := mint
    have none : state.reserveA = 0 ∧ state.reserveB = 0 ∧ state.lpSum = 0 := by
      rcases sound.backed with ⟨-, noneA, noneB, nobody⟩ | ⟨backed, -⟩
      · refine ⟨noneA, noneB, ?_⟩
        unfold State.lpSum
        rw [nobody]
        rfl
      · have balances := sound.lpSum_nonneg
        unfold minLiquidity at backed
        omega
    refine ⟨⟨sound.fee, sound.config, ?_, .inr ⟨?_, ?_, ?_⟩⟩, fun pos => ?_⟩
    · exact forall_set sound.lp_nonneg (by omega)
    · change minLiquidity + (lp - minLiquidity) = minLiquidity +
        (state.setLp provider (state.getLp provider + (lp - minLiquidity))).lpSum
      omega
    · change 0 < state.reserveA + amountA
      omega
    · change 0 < state.reserveB + amountB
      omega
    · exact absurd empty pos.ne'
  · next nonempty =>
    simp only [proportionalMint, call_ok, arith_ok] at mint
    obtain ⟨-, -, -, -, -, -, rfl, rfl⟩ := mint
    obtain ⟨backed, reserveA, reserveB⟩ := sound.filled (.inr nonempty)
    have shares := sound.totalLp_nonneg
    have scaledA : 0 ≤ amountA * state.totalLp := mul_nonneg (by omega) shares
    have scaledB : 0 ≤ amountB * state.totalLp := mul_nonneg (by omega) shares
    have roundedA := Rounding.tdiv_mul_le scaledA state.reserveA
    have roundedB := Rounding.tdiv_mul_le scaledB state.reserveB
    have lpANonneg := Int.tdiv_nonneg scaledA reserveA.le
    have lpBNonneg := Int.tdiv_nonneg scaledB reserveB.le
    generalize (amountA * state.totalLp).tdiv state.reserveA = lpA at *
    generalize (amountB * state.totalLp).tdiv state.reserveB = lpB at *
    refine ⟨⟨sound.fee, sound.config, ?_, .inr ⟨?_, ?_, ?_⟩⟩, fun pos => ?_⟩
    · exact forall_set sound.lp_nonneg (by omega)
    · change state.totalLp + min lpA lpB = minLiquidity +
        (state.setLp provider (state.getLp provider + min lpA lpB)).lpSum
      omega
    · change 0 < state.reserveA + amountA
      omega
    · change 0 < state.reserveB + amountB
      omega
    · have minA := mul_le_mul_of_nonneg_right (min_le_left lpA lpB) reserveA.le
      have minB := mul_le_mul_of_nonneg_right (min_le_right lpA lpB) reserveB.le
      refine undiluted_of_shares (state.reserveA + amountA) (state.reserveB + amountB)
        (state.totalLp + min lpA lpB) sound (by omega) ?_ ?_
      · linarith
      · linarith

theorem removeLiquidity_keeps {lpAmount minA minB : Int} {out : Int × Int} (sound : Sound state)
    (ran : removeLiquidity env provider lpAmount minA minB state = .ok (out, next)) :
    Sound next ∧ state.sharePool.Undiluted next.sharePool := by
  simp only [removeLiquidity, call_ok, arith_ok] at ran
  obtain ⟨-, _, -, pos, owned, -, -, -, -, -, -, -, -, -, -, -, -, rfl⟩ := ran
  have held := sound.getLp_le provider
  have sum := state.lpSum_setLp provider (state.getLp provider - lpAmount)
  have nonempty := sound.nonempty_of_owned pos owned
  obtain ⟨backed, reserveA, reserveB⟩ := sound.filled (.inr nonempty)
  have portion : lpAmount < state.totalLp := by
    unfold minLiquidity at backed
    omega
  have amount : 0 ≤ lpAmount := pos.le
  have leftA : (lpAmount * state.reserveA).tdiv state.totalLp < state.reserveA := by
    apply Rounding.tdiv_lt (mul_nonneg amount reserveA.le) (by omega)
    rw [mul_comm]
    exact mul_lt_mul_of_pos_left portion reserveA
  have leftB : (lpAmount * state.reserveB).tdiv state.totalLp < state.reserveB := by
    apply Rounding.tdiv_lt (mul_nonneg amount reserveB.le) (by omega)
    rw [mul_comm]
    exact mul_lt_mul_of_pos_left portion reserveB
  have sharesA : state.reserveA * (state.totalLp - lpAmount) ≤ _ :=
    Rounding.remaining_share reserveA.le amount
  have sharesB : state.reserveB * (state.totalLp - lpAmount) ≤ _ :=
    Rounding.remaining_share reserveB.le amount
  generalize (lpAmount * state.reserveA).tdiv state.totalLp = outA at *
  generalize (lpAmount * state.reserveB).tdiv state.totalLp = outB at *
  refine ⟨⟨sound.fee, sound.config, ?_, .inr ⟨?_, ?_, ?_⟩⟩, ?_⟩
  · exact forall_set sound.lp_nonneg (by omega)
  · change state.totalLp - lpAmount =
      minLiquidity + (state.setLp provider (state.getLp provider - lpAmount)).lpSum
    omega
  · change 0 < state.reserveA - outA
    omega
  · change 0 < state.reserveB - outB
    omega
  · exact undiluted_of_shares (state.reserveA - outA) (state.reserveB - outB)
      (state.totalLp - lpAmount) sound (by omega) sharesA sharesB

theorem initializePool_keeps {admin tokenA tokenB : Address} {feeBps : Option Int}
    (sound : Sound state) (ran : initializePool env admin tokenA tokenB feeBps state = .ok next) :
    Sound next ∧ next.sharePool = state.sharePool := by
  simp only [initializePool, validateFee, call_ok] at ran
  obtain ⟨-, -, -, fee, rfl⟩ := ran
  exact ⟨⟨fee, sound.config, sound.lp_nonneg, sound.backed⟩, rfl⟩

omit [DecidableEq Address] in
theorem observePrice_same (observed : observePrice env state = .ok next) :
    SameBooks state next := by
  unfold observePrice at observed
  split at observed
  · simp only [call_ok] at observed
    obtain ⟨_, -, rfl⟩ := observed
    exact ⟨rfl, rfl, rfl, rfl, rfl, rfl⟩
  · cases observed
    exact ⟨rfl, rfl, rfl, rfl, rfl, rfl⟩

theorem dispatch_keeps {call : Env Address contract × Operation Address} (sound : Sound state)
    (ran : dispatch state call = .ok next) :
    Sound next ∧ (0 < state.totalLp → state.sharePool.Undiluted next.sharePool) := by
  have unchanged : ∀ {other : State Address}, Sound other → other.sharePool = state.sharePool →
      Sound other ∧ (0 < state.totalLp → state.sharePool.Undiluted other.sharePool) :=
    fun kept same => ⟨kept, fun _ => same ▸ SharePool.Undiluted.refl _⟩
  obtain ⟨env, op⟩ := call
  cases op with
  | initializePool =>
    have kept := initializePool_keeps sound ran
    exact unchanged kept.1 kept.2
  | configureDynamicFees _ config =>
    simp only [dispatch, configureDynamicFees, validateDynamicConfig, call_ok] at ran
    obtain ⟨_, -, valid, observed⟩ := ran
    have same := observePrice_same observed
    have setUp : Sound { state with dynamicFeeConfig := some config } :=
      ⟨sound.fee, fun other got => Option.some.inj got ▸ valid, sound.lp_nonneg, sound.backed⟩
    exact unchanged (same.sound setUp) same.sharePool
  | disableDynamicFees =>
    simp only [dispatch, disableDynamicFees, call_ok] at ran
    obtain ⟨_, -, rfl⟩ := ran
    exact unchanged ⟨sound.fee, by simp, sound.lp_nonneg, sound.backed⟩ rfl
  | initializeNft =>
    simp only [dispatch, initializeNft, call_ok] at ran
    obtain ⟨ready, ensured, rfl⟩ := ran
    unfold ensurePool at ensured
    split at ensured
    · cases ensured
      exact unchanged ⟨sound.fee, sound.config, sound.lp_nonneg, sound.backed⟩ rfl
    · obtain ⟨kept, same⟩ := initializePool_keeps sound ensured
      exact unchanged ⟨kept.fee, kept.config, kept.lp_nonneg, kept.backed⟩ same
  | addLiquidity =>
    obtain ⟨⟨minted, left⟩, added, rfl⟩ := map_eq_ok.mp ran
    exact addLiquidity_keeps sound added
  | removeLiquidity =>
    obtain ⟨⟨out, left⟩, removed, rfl⟩ := map_eq_ok.mp ran
    obtain ⟨kept, undiluted⟩ := removeLiquidity_keeps sound removed
    exact ⟨kept, fun _ => undiluted⟩
  | swap =>
    obtain ⟨⟨out, left⟩, swapped, rfl⟩ := map_eq_ok.mp ran
    simp only [swap, bind_eq_ok] at swapped
    obtain ⟨_, -, _, -, swapped⟩ := swapped
    obtain ⟨kept, undiluted⟩ := executeSwap_keeps sound swapped
    exact ⟨kept, fun _ => undiluted⟩
  | swapWithLimits =>
    obtain ⟨⟨out, left⟩, swapped, rfl⟩ := map_eq_ok.mp ran
    simp only [swapWithLimits, bind_eq_ok] at swapped
    obtain ⟨_, -, _, -, swapped⟩ := swapped
    obtain ⟨kept, undiluted⟩ := executeSwap_keeps sound swapped
    exact ⟨kept, fun _ => undiluted⟩
  | updateFloorPrice =>
    simp only [dispatch, updateFloorPrice, call_ok] at ran
    obtain ⟨_, -, _, -, _, -, rfl⟩ := ran
    exact unchanged ⟨sound.fee, sound.config, sound.lp_nonneg, sound.backed⟩ rfl

/-- Every LP balance is nonnegative, and the pool is empty or backed. -/
def LpBacked (state : State Address) : Prop :=
  (∀ provider, 0 ≤ state.getLp provider) ∧ Backed state

/-- No deposit and no withdrawal that passes its checks divides by zero. -/
def DivisionsDefined (state : State Address) : Prop :=
  (state.totalLp ≠ 0 → state.reserveA ≠ 0 ∧ state.reserveB ≠ 0) ∧
    ∀ provider lpAmount, 0 < lpAmount → lpAmount ≤ state.getLp provider → state.totalLp ≠ 0

/-- No successful call on a pool with LP tokens lowers the product of the
reserves per LP token. -/
def KeepsShareValue (state : State Address) (call : Env Address contract × Operation Address) :
    Prop :=
  ∀ next, dispatch state call = .ok next → 0 < state.totalLp →
    state.reserveA * state.reserveB * next.totalLp ^ 2 ≤
      next.reserveA * next.reserveB * state.totalLp ^ 2

theorem Sound.divisionsDefined {state : State Address} (sound : Sound state) :
    DivisionsDefined state := by
  constructor
  · intro nonempty
    obtain ⟨-, reserveA, reserveB⟩ := sound.filled (.inr nonempty)
    exact ⟨reserveA.ne', reserveB.ne'⟩
  · intro provider lpAmount pos owned
    exact sound.nonempty_of_owned pos owned

theorem initial_sound : Sound ({} : State Address) where
  fee := (by decide : (0 : Int) ≤ 30 ∧ (30 : Int) < 10000)
  config := nofun
  lp_nonneg := fun _ _ found => nomatch found
  backed := .inl ⟨rfl, rfl, rfl, rfl⟩

/-- In every run the pool is empty or backed, no liquidity call divides by zero,
and no call lowers the product of the reserves per LP token. -/
theorem pool_lifecycle (calls : List (Env Address contract × Operation Address)) :
    (machine contract).Always (fun state => LpBacked state ∧ DivisionsDefined state)
        ({} : State Address) calls ∧
      (machine contract).Meets KeepsShareValue ({} : State Address) calls := by
  have keeps : ∀ (state : State Address) call next, Sound state →
      (machine contract).exec state call = .ok next → Sound next :=
    fun _ _ _ sound ran => (dispatch_keeps sound ran).1
  constructor
  · apply (always_invariant keeps initial_sound calls).mono
    exact fun state sound => ⟨⟨sound.getLp_nonneg, sound.backed⟩, sound.divisionsDefined⟩
  · refine meets_of_step keeps ?_ initial_sound calls
    intro state call _ sound _ next ran pos
    have undiluted := (dispatch_keeps sound ran).2 pos
    simpa [SharePool.Undiluted, State.sharePool] using undiluted

end SorobanPlayground.AmmPool
