import SorobanPlayground.AmmPool.Twap

/-! # Splitting a swap

Under a fixed fee, two swaps in a row give no more than one swap of both amounts.
The fee of the first swap stays in the reserve that the second one pays into, and
both outputs are rounded down.
-/

namespace SorobanPlayground.AmmPool

variable {Address : Type} {contract : Address} {env : Env Address contract}
  {state next : State Address} {tokenIn : Address}

theorem recorded_tokens {timed observed : State Address} {ra rb reserveA reserveB : Int}
    {amountIn feeBps : Int} (first : updateTwap env ra rb state = .ok timed)
    (second : updateVolatility env reserveA reserveB timed = .ok observed)
    (third : recordSwapMetrics amountIn feeBps observed = .ok next) :
    next.tokenA = state.tokenA ∧ next.tokenB = state.tokenB := by
  simp only [recordSwapMetrics, call_ok] at third
  obtain ⟨-, -, -, -, -, -, -, -, rfl⟩ := third
  have observedTokens : observed.tokenA = timed.tokenA ∧ observed.tokenB = timed.tokenB := by
    apply Outcome.Yields.of_ok second
    unfold updateVolatility
    split <;> simp only [yields_ok, yields_bind, yields_pure, yields_true,
      State.setVolatilityState, and_self]
  have timedTokens : timed.tokenA = state.tokenA ∧ timed.tokenB = state.tokenB := by
    apply Outcome.Yields.of_ok first
    simp only [updateTwap, yields_ite, yields_ok, yields_bind, yields_pure, yields_true,
      implies_true, and_self]
  exact ⟨observedTokens.1.trans timedTokens.1, observedTokens.2.trans timedTokens.2⟩

variable [DecidableEq Address]

theorem reservesForTokenIn_moved {reserveIn reserveOut newIn newOut : Int} {aToB : Bool}
    (resolved : reservesForTokenIn tokenIn state = .ok (reserveIn, reserveOut, aToB))
    (tokens : next.tokenA = state.tokenA ∧ next.tokenB = state.tokenB)
    (moved : (if aToB then (newIn, newOut) else (newOut, newIn)) = (next.reserveA, next.reserveB)) :
    reservesForTokenIn tokenIn next = .ok (newIn, newOut, aToB) := by
  unfold reservesForTokenIn at resolved ⊢
  simp only [bind_eq_ok] at resolved ⊢
  obtain ⟨_, _, _, _, resolved⟩ := resolved
  split_ifs at resolved ⊢ <;> simp_all

/-- A swap at a fixed fee gives the quote for its charged amount, and leaves the pool at the same
terms with both reserves moved. -/
theorem executeSwap_fixed {amountIn minOut out : Int} {maxFeeBps : Option Int}
    {deadline : Option Nat} (fixed : state.dynamicFeeConfig = none)
    (ran : executeSwap env tokenIn amountIn minOut maxFeeBps deadline state = .ok (out, next)) :
    ∃ reserveIn reserveOut aToB,
      reservesForTokenIn tokenIn state = .ok (reserveIn, reserveOut, aToB) ∧
      0 < amountIn ∧ 0 < reserveIn ∧ 0 < reserveOut ∧
      out = ConstantProduct.quote 10000 reserveIn reserveOut (amountIn * (10000 - state.feeBps)) ∧
      next.dynamicFeeConfig = none ∧ next.feeBps = state.feeBps ∧
      reservesForTokenIn tokenIn next = .ok (reserveIn + amountIn, reserveOut - out, aToB) := by
  simp only [executeSwap, call_ok, Prod.exists] at ran
  obtain ⟨-, reserveIn, reserveOut, aToB, resolved, _, quoted, -, -, -, _, _, exchanged,
    _, first, _, second, _, third, rfl, rfl⟩ := ran
  have same := ((updateTwap_same first).trans (updateVolatility_same second)).trans
    (recordSwapMetrics_same third)
  have tokens := recorded_tokens first second third
  simp only [swappedReserves, call_ok, arith_ok] at exchanged
  obtain ⟨-, -, exchanged⟩ := exchanged
  simp only [buildSwapQuote, call_ok, Prod.exists] at quoted
  obtain ⟨input, pos, feeBps, _, _, charged, _, eq, -, _, -, _, -, _, -, rfl⟩ :=
    quoted
  obtain ⟨positiveIn, positiveOut⟩ := not_or.mp pos
  simp only [effectiveFee, fixed, call_ok] at charged
  obtain ⟨-, -, rfl, -⟩ := charged
  refine ⟨reserveIn, reserveOut, aToB, resolved, input, not_le.mp positiveIn,
    not_le.mp positiveOut, constantProductAmountOut_eq eq,
    same.dynamicFeeConfig.trans fixed, same.feeBps, ?_⟩
  apply reservesForTokenIn_moved resolved tokens
  rw [same.reserveA, same.reserveB]
  exact exchanged

/-- Two swaps in a row in one direction give no more than one swap of both amounts, whatever the
callers, the times and the limits. -/
theorem split_swap_never_pays {firstEnv secondEnv wholeEnv : Env Address contract}
    {between after whole : State Address} {x y minFirst minSecond minWhole first second out : Int}
    {feeFirst feeSecond feeWhole : Option Int}
    {deadlineFirst deadlineSecond deadlineWhole : Option Nat}
    (validFee : validateFee state.feeBps = .ok ()) (fixed : state.dynamicFeeConfig = none)
    (swappedFirst : executeSwap firstEnv tokenIn x minFirst feeFirst deadlineFirst state =
      .ok (first, between))
    (swappedSecond : executeSwap secondEnv tokenIn y minSecond feeSecond deadlineSecond between =
      .ok (second, after))
    (swappedWhole : executeSwap wholeEnv tokenIn (x + y) minWhole feeWhole deadlineWhole state =
      .ok (out, whole)) : first + second ≤ out := by
  obtain ⟨_, _, _, resolved, input, positiveIn, positiveOut, rfl, stillFixed,
    sameFee, moved⟩ := executeSwap_fixed fixed swappedFirst
  obtain ⟨_, _, _, resolvedAgain, more, -, -, rfl, -⟩ := executeSwap_fixed stillFixed swappedSecond
  obtain ⟨rfl, rfl, -⟩ := Prod.mk.inj (Except.ok.inj (moved.symm.trans resolvedAgain))
  obtain ⟨_, _, _, resolvedWhole, -, -, -, rfl, -⟩ := executeSwap_fixed fixed swappedWhole
  obtain ⟨rfl, rfl, -⟩ := Prod.mk.inj (Except.ok.inj (resolved.symm.trans resolvedWhole))
  obtain ⟨countedNonneg, discounted⟩ := charged_mem input (ensure_eq_ok.mp validFee)
  rw [sameFee, add_mul]
  exact ConstantProduct.quote_split_le (by decide) positiveIn positiveOut countedNonneg
    (charged_mem more (ensure_eq_ok.mp validFee)).1 discounted

/-- A pool of ten thousand each at the standard fee. -/
def evenPool : State Nat :=
  { tokenA := some 10, tokenB := some 11, reserveA := 10000, reserveB := 10000 }

theorem split_swap_never_pays_at_thousand :
    ∃ first between second after out whole,
      executeSwap (signedEnv 0) 10 1000 0 none none evenPool = .ok (first, between) ∧
      executeSwap (signedEnv 5) 10 1000 0 none none between = .ok (second, after) ∧
      executeSwap (signedEnv 0) 10 (1000 + 1000) 0 none none evenPool = .ok (out, whole) ∧
      first + second ≤ out := by
  have validFee : validateFee evenPool.feeBps = .ok () := rfl
  refine ⟨_, _, _, _, _, _, rfl, rfl, rfl, ?_⟩
  exact split_swap_never_pays validFee rfl
    (rfl : executeSwap (signedEnv 0) 10 1000 0 none none evenPool = _)
    (rfl : executeSwap (signedEnv 5) 10 1000 0 none none _ = _)
    (rfl : executeSwap (signedEnv 0) 10 (1000 + 1000) 0 none none evenPool = _)

end SorobanPlayground.AmmPool
