import SorobanPlayground.AmmPool.ShareValue

/-! # The price accumulators

Only a swap moves the price accumulators. It adds the price at the reserves it finds,
weighted by the whole time since the last swap. Deposits and withdrawals in between can
change the price without a record of the one they leave, so that the accumulators follow
the integral of the price over time only when the price between two swaps is steady.
-/

namespace SorobanPlayground.AmmPool

open State

variable {Address : Type} {contract : Address}

/-- The price of token A in token B, as the accumulator counts it. -/
def State.priceA (state : State Address) : Int :=
  (state.reserveB * twapPrecision).tdiv state.reserveA

/-- The price of token B in token A, as the accumulator counts it. -/
def State.priceB (state : State Address) : Int :=
  (state.reserveA * twapPrecision).tdiv state.reserveB

def Operation.IsSwap : Operation Address → Bool
  | .swap .. | .swapWithLimits .. => true
  | _ => false

/-- The time of a swap and the accumulators it left. -/
structure SwapRecord where
  timestamp : Nat
  priceACum : Int
  priceBCum : Int
  deriving DecidableEq

/-- What an observer of the pool records: the time of the last call, the last swap, the
prices in force since then integrated over time up to the last call, and whether they
were the same all the while. -/
structure Watch where
  clock : Nat := 0
  swapped : Option SwapRecord := none
  integralA : Int := 0
  integralB : Int := 0
  steady : Bool := true

/-- The integral up to a time at which a price is still in force. -/
def Watch.integralUpTo (integral price : Int) (watch : Watch) (timestamp : Nat) : Int :=
  integral + price * (timestamp - watch.clock)

/-- What is recorded at a successful call. -/
def Watch.follow (state : State Address) (call : Env Address contract × Operation Address)
    (next : State Address) (watch : Watch) : Watch :=
  if call.2.IsSwap then
    { clock := call.1.timestamp
      swapped := some
        { timestamp := call.1.timestamp, priceACum := next.priceACum,
          priceBCum := next.priceBCum } }
  else
    { clock := call.1.timestamp
      swapped := watch.swapped
      integralA := watch.integralUpTo watch.integralA state.priceA call.1.timestamp
      integralB := watch.integralUpTo watch.integralB state.priceB call.1.timestamp
      steady := watch.steady && decide (next.priceA = state.priceA ∧ next.priceB = state.priceB) }

/-- No term of the accumulators saturates at a swap. -/
def Unsaturated (env : Env Address contract) (state : State Address) : Prop :=
  InI128 (state.reserveB * twapPrecision) ∧ InI128 (state.reserveA * twapPrecision) ∧
    InI128 (state.priceA * (env.timestamp - state.lastTimestamp)) ∧
    InI128 (state.priceB * (env.timestamp - state.lastTimestamp)) ∧
    InI128 (state.priceACum + state.priceA * (env.timestamp - state.lastTimestamp)) ∧
    InI128 (state.priceBCum + state.priceB * (env.timestamp - state.lastTimestamp))

section Swaps

variable {env : Env Address contract} {state next : State Address}

/-- The clock and the accumulators are as they were. -/
structure SameClock (state next : State Address) : Prop where
  admin : next.admin = state.admin
  lastTimestamp : next.lastTimestamp = state.lastTimestamp
  priceACum : next.priceACum = state.priceACum
  priceBCum : next.priceBCum = state.priceBCum

/-- What a swap leaves of the clock and the accumulators. -/
structure Ticked (env : Env Address contract) (state next : State Address) : Prop where
  admin : next.admin = state.admin
  lastTimestamp : next.lastTimestamp = env.timestamp
  priceACum : state.lastTimestamp ≤ env.timestamp → Unsaturated env state → next.priceACum =
    state.priceACum + state.priceA * (env.timestamp - state.lastTimestamp)
  priceBCum : state.lastTimestamp ≤ env.timestamp → Unsaturated env state → next.priceBCum =
    state.priceBCum + state.priceB * (env.timestamp - state.lastTimestamp)

variable {reserveA reserveB : Int}

theorem updateTwap_ticked (positiveA : 0 < state.reserveA) (positiveB : 0 < state.reserveB)
    (updated : updateTwap env state.reserveA state.reserveB (state.setReserves reserveA reserveB) =
      .ok next) : Ticked env state next := by
  unfold updateTwap at updated
  by_cases still : env.timestamp ≤ (state.setReserves reserveA reserveB).lastTimestamp ∨
      state.reserveA = 0 ∨ state.reserveB = 0
  · rw [if_pos still] at updated
    cases updated
    have same : state.lastTimestamp ≤ env.timestamp → env.timestamp = state.lastTimestamp := by
      intro clocked
      rcases still with early | _ | _
      · exact le_antisymm early clocked
      · omega
      · omega
    refine ⟨rfl, rfl, fun clocked _ => ?_, fun clocked _ => ?_⟩ <;>
    · rw [same clocked, sub_self, mul_zero, add_zero]
      rfl
  · rw [if_neg still] at updated
    simp only [call_ok, arith_ok] at updated
    obtain ⟨-, -, -, -, rfl⟩ := updated
    refine ⟨rfl, rfl, fun clocked unsaturated => ?_, fun clocked unsaturated => ?_⟩
    · obtain ⟨scaled, -, weighted, -, total, -⟩ := unsaturated
      dsimp only [setReserves]
      rw [Int.ofNat_sub clocked, saturateI128_of_mem scaled]
      change saturateI128 (_ + saturateI128 (state.priceA * _)) = _
      rw [saturateI128_of_mem weighted, saturateI128_of_mem total]
    · obtain ⟨-, scaled, -, weighted, -, total⟩ := unsaturated
      dsimp only [setReserves]
      rw [Int.ofNat_sub clocked, saturateI128_of_mem scaled]
      change saturateI128 (_ + saturateI128 (state.priceB * _)) = _
      rw [saturateI128_of_mem weighted, saturateI128_of_mem total]

theorem buildSwapQuote_positive {amountIn reserveIn reserveOut : Int} {quote : SwapQuote}
    (quoted : buildSwapQuote env amountIn reserveIn reserveOut state = .ok quote) :
    0 < reserveIn ∧ 0 < reserveOut := by
  simp only [buildSwapQuote, call_ok] at quoted
  omega

theorem updateVolatility_sameClock
    (updated : updateVolatility env reserveA reserveB state = .ok next) : SameClock state next := by
  unfold updateVolatility at updated
  split at updated
  · cases updated
    exact ⟨rfl, rfl, rfl, rfl⟩
  · simp only [call_ok] at updated
    obtain ⟨_, -, _, -, _, -, _, -, _, -, _, -, _, -, _, -, rfl⟩ := updated
    exact ⟨rfl, rfl, rfl, rfl⟩

theorem Ticked.sameClock {last : State Address} (ticked : Ticked env state next)
    (same : SameClock next last) : Ticked env state last where
  admin := same.admin.trans ticked.admin
  lastTimestamp := same.lastTimestamp.trans ticked.lastTimestamp
  priceACum clocked unsaturated := same.priceACum.trans (ticked.priceACum clocked unsaturated)
  priceBCum clocked unsaturated := same.priceBCum.trans (ticked.priceBCum clocked unsaturated)

variable [DecidableEq Address]

theorem executeSwap_ticked {tokenIn : Address} {amountIn minOut out : Int} {maxFeeBps : Option Int}
    {deadline : Option Nat}
    (ran : executeSwap env tokenIn amountIn minOut maxFeeBps deadline state = .ok (out, next)) :
    Ticked env state next := by
  simp only [executeSwap, call_ok, Prod.exists] at ran
  obtain ⟨-, _, _, _, resolved, _, quoted, -, -, -, _, _, -,
    _, first, _, second, _, third, -, rfl⟩ := ran
  have pos : 0 < state.reserveA ∧ 0 < state.reserveB := by
    have input := buildSwapQuote_positive quoted
    rcases reservesForTokenIn_cases resolved with ⟨rfl, rfl, -⟩ | ⟨rfl, rfl, -⟩
    · exact input
    · exact input.symm
  have ticked := updateTwap_ticked pos.1 pos.2 first
  simp only [recordSwapMetrics, call_ok] at third
  obtain ⟨_, -, _, -, _, -, _, -, rfl⟩ := third
  exact (ticked.sameClock (updateVolatility_sameClock second)).sameClock ⟨rfl, rfl, rfl, rfl⟩

end Swaps

section Calls

variable [DecidableEq Address] {state next : State Address}
  {call : Env Address contract × Operation Address}

omit [DecidableEq Address] in
theorem ensureInitialized_eq {result : Unit} (ensured : ensureInitialized state = .ok result) :
    state.isInitialized = true :=
  ensure_eq_ok.mp ensured

theorem dispatch_ticked (swaps : call.2.IsSwap = true) (ran : dispatch state call = .ok next) :
    state.isInitialized = true ∧ Ticked call.1 state next := by
  obtain ⟨_, op⟩ := call
  cases op with
  | swap =>
    obtain ⟨⟨out, left⟩, swapped, rfl⟩ := map_eq_ok.mp ran
    simp only [swap, bind_eq_ok] at swapped
    obtain ⟨_, ensured, _, -, swapped⟩ := swapped
    exact ⟨ensureInitialized_eq ensured, executeSwap_ticked swapped⟩
  | swapWithLimits =>
    obtain ⟨⟨_, _⟩, swapped, rfl⟩ := map_eq_ok.mp ran
    simp only [swapWithLimits, bind_eq_ok] at swapped
    obtain ⟨_, ensured, _, -, swapped⟩ := swapped
    exact ⟨ensureInitialized_eq ensured, executeSwap_ticked swapped⟩
  | _ => cases swaps

theorem dispatch_sameClock (waits : call.2.IsSwap = false)
    (initialized : state.isInitialized = true) (ran : dispatch state call = .ok next) :
    SameClock state next := by
  obtain ⟨_, op⟩ := call
  cases op with
  | initializePool =>
    simp only [dispatch, initializePool, call_ok] at ran
    exact absurd initialized (by rw [ran.1]; simp)
  | configureDynamicFees =>
    simp only [dispatch, configureDynamicFees, bind_eq_ok] at ran
    obtain ⟨_, -, _, -, observed⟩ := ran
    unfold observePrice at observed
    split at observed
    · simp only [call_ok] at observed
      obtain ⟨_, -, rfl⟩ := observed
      exact ⟨rfl, rfl, rfl, rfl⟩
    · cases observed
      exact ⟨rfl, rfl, rfl, rfl⟩
  | initializeNft =>
    simp only [dispatch, initializeNft, ensurePool, if_pos initialized, call_ok] at ran
    obtain ⟨_, same, rfl⟩ := ran
    cases same
    exact ⟨rfl, rfl, rfl, rfl⟩
  | swap => cases waits
  | swapWithLimits => cases waits
  | _ =>
    have same : next.admin = state.admin ∧ next.lastTimestamp = state.lastTimestamp ∧
        next.priceACum = state.priceACum ∧ next.priceBCum = state.priceBCum := by
      apply Outcome.Yields.of_ok ran
      simp only [dispatch, disableDynamicFees, addLiquidity, removeLiquidity, updateFloorPrice,
        yields_bind, yields_pure, yields_true, yields_map, setReserves, setTotalLp,
        setLp, and_self]
    exact ⟨same.1, same.2.1, same.2.2.1, same.2.2.2⟩

end Calls

variable [DecidableEq Address]

def watched (contract : Address) :
    CallMachine (State Address × Watch) (Env Address contract × Operation Address)
      (Failure Error) :=
  (machine contract).withGhost Watch.follow

/-- What the accumulators have gained at a swap since an earlier one: the price that the
swap finds over the time between them, which is the integral of the price if the price
was steady. -/
structure Accumulates (watch : Watch) (since : SwapRecord) (state next : State Address)
    (timestamp : Nat) : Prop where
  priceA : next.priceACum - since.priceACum = state.priceA * (timestamp - since.timestamp)
  priceB : next.priceBCum - since.priceBCum = state.priceB * (timestamp - since.timestamp)
  integralA : watch.steady = true → next.priceACum - since.priceACum =
    watch.integralUpTo watch.integralA state.priceA timestamp
  integralB : watch.steady = true → next.priceBCum - since.priceBCum =
    watch.integralUpTo watch.integralB state.priceB timestamp

/-- A swap after another one that saturates nothing accumulates the price. -/
def SwapsAccumulate (observed : State Address × Watch)
    (call : Env Address contract × Operation Address) : Prop :=
  ∀ next since, call.2.IsSwap = true → dispatch observed.1 call = .ok next →
    observed.2.swapped = some since → Unsaturated call.1 observed.1 →
      Accumulates observed.2 since observed.1 next call.1.timestamp

/-- A call is no earlier than the one before it. -/
def ClockRuns (observed : State Address × Watch)
    (call : Env Address contract × Operation Address) : Prop :=
  observed.2.clock ≤ call.1.timestamp

/-- The clock and the accumulators stand as the last swap left them, and a steady price
has the integral of its present value. -/
structure Since (observed : State Address × Watch) (since : SwapRecord) : Prop where
  initialized : observed.1.isInitialized = true
  lastTimestamp : observed.1.lastTimestamp = since.timestamp
  priceACum : observed.1.priceACum = since.priceACum
  priceBCum : observed.1.priceBCum = since.priceBCum
  past : since.timestamp ≤ observed.2.clock
  integralA : observed.2.steady = true →
    observed.2.integralA = observed.1.priceA * (observed.2.clock - since.timestamp)
  integralB : observed.2.steady = true →
    observed.2.integralB = observed.1.priceB * (observed.2.clock - since.timestamp)

/-- The record of the last swap is up to date. -/
def Recorded (observed : State Address × Watch) : Prop :=
  ∀ since, observed.2.swapped = some since → Since observed since

variable {state next : State Address × Watch} {call : Env Address contract × Operation Address}
  {since : SwapRecord}

theorem since_of_swap (swaps : call.2.IsSwap = true) (ran : dispatch state.1 call = .ok next.1)
    (followed : next.2 = Watch.follow state.1 call next.1 state.2)
    (noted : next.2.swapped = some since) : Since next since := by
  obtain ⟨initialized, ticked⟩ := dispatch_ticked swaps ran
  unfold Watch.follow at followed
  rw [if_pos swaps] at followed
  rw [followed] at noted
  cases noted
  have remains : next.1.isInitialized = true := by
    unfold isInitialized at *
    rw [ticked.admin]
    exact initialized
  refine ⟨remains, ticked.lastTimestamp, rfl, rfl, ?_, fun _ => ?_, fun _ => ?_⟩
  · rw [followed]
  · rw [followed, sub_self, mul_zero]
  · rw [followed, sub_self, mul_zero]

theorem Since.wait (record : Since state since) (waits : call.2.IsSwap = false)
    (clocked : ClockRuns state call) (ran : dispatch state.1 call = .ok next.1)
    (followed : next.2 = Watch.follow state.1 call next.1 state.2) : Since next since := by
  have same := dispatch_sameClock waits record.initialized ran
  have remains : next.1.isInitialized = true := by
    have initialized := record.initialized
    unfold isInitialized at *
    rw [same.admin]
    exact initialized
  unfold Watch.follow at followed
  rw [if_neg (by rw [waits]; nofun)] at followed
  refine ⟨remains, same.lastTimestamp.trans record.lastTimestamp,
    same.priceACum.trans record.priceACum, same.priceBCum.trans record.priceBCum, ?_,
    fun steady => ?_, fun steady => ?_⟩
  · rw [followed]
    exact record.past.trans clocked
  · rw [followed] at steady ⊢
    simp only [Bool.and_eq_true, decide_eq_true_eq] at steady
    obtain ⟨steady, sameA, -⟩ := steady
    rw [sameA]
    unfold Watch.integralUpTo
    rw [record.integralA steady, ← mul_add]
    dsimp only
    congr 1
    omega
  · rw [followed] at steady ⊢
    simp only [Bool.and_eq_true, decide_eq_true_eq] at steady
    obtain ⟨steady, -, sameB⟩ := steady
    rw [sameB]
    unfold Watch.integralUpTo
    rw [record.integralB steady, ← mul_add]
    dsimp only
    congr 1
    omega

theorem recorded_step (state : State Address × Watch)
    (call : Env Address contract × Operation Address) (next : State Address × Watch)
    (noted : Recorded state) (clocked : ClockRuns state call)
    (ran : (watched contract).exec state call = .ok next) : Recorded next := by
  obtain ⟨dispatched, followed⟩ := withGhost_exec_eq_ok.mp ran
  intro since found
  cases swaps : call.2.IsSwap with
  | true => exact since_of_swap swaps dispatched followed found
  | false =>
    have kept := found
    rw [followed] at kept
    unfold Watch.follow at kept
    rw [if_neg (by rw [swaps]; nofun)] at kept
    exact (noted since kept).wait swaps clocked dispatched followed

theorem swapsAccumulate_of_recorded (noted : Recorded state) (clocked : ClockRuns state call) :
    SwapsAccumulate state call := by
  intro next since swaps ran found unsaturated
  have record := noted since found
  have ticked := (dispatch_ticked swaps ran).2
  have passed : state.1.lastTimestamp ≤ call.1.timestamp := by
    rw [record.lastTimestamp]
    exact record.past.trans clocked
  have gainA := ticked.priceACum passed unsaturated
  have gainB := ticked.priceBCum passed unsaturated
  rw [record.lastTimestamp, record.priceACum] at gainA
  rw [record.lastTimestamp, record.priceBCum] at gainB
  refine ⟨by omega, by omega, fun steady => ?_, fun steady => ?_⟩
  · unfold Watch.integralUpTo
    rw [record.integralA steady, ← mul_add, gainA, add_sub_cancel_left]
    congr 1
    omega
  · unfold Watch.integralUpTo
    rw [record.integralB steady, ← mul_add, gainB, add_sub_cancel_left]
    congr 1
    omega

theorem clock_step {next : State Address × Watch}
    (ran : (watched contract).exec state call = .ok next) : next.2.clock = call.1.timestamp := by
  rw [(withGhost_exec_eq_ok.mp ran).2]
  unfold Watch.follow
  split <;> rfl

/-- In a run whose clock does not go back, every swap after another one that saturates
nothing accumulates the price that it finds over the time between them, and so the
integral of a steady price. -/
theorem swaps_accumulate {calls : List (Env Address contract × Operation Address)}
    (ordered : calls.Pairwise fun earlier later => earlier.1.timestamp ≤ later.1.timestamp) :
    (watched contract).Meets SwapsAccumulate ({}, {}) calls := by
  have initial : Recorded (({}, {}) : State Address × Watch) := nofun
  have runs : (watched contract).Meets ClockRuns ({}, {}) calls := by
    refine meets_of_pairwise ?_ ordered fun _ _ => Nat.zero_le _
    exact fun _ _ _ _ _ ran le => (clock_step ran).trans_le le
  apply meets_of_invariant recorded_step _ initial runs
  intro state call next recorded clocked _
  exact swapsAccumulate_of_recorded recorded clocked

/-- The addresses 1 and 2 authorize at a time. -/
def signedEnv (timestamp : Nat) : Env Nat 0 where
  timestamp
  auths := [1, 2]
  contract_silent := zero_notMem_two_signers

/-- Two swaps at times 0 and 200, and a lopsided deposit at time 100. -/
def depositing : List (Env Nat 0 × Operation Nat) :=
  [(signedEnv 0, .initializePool 1 10 11 none), (signedEnv 0, .addLiquidity 2 10000 10000 0),
    (signedEnv 0, .swap 2 10 100 0), (signedEnv 100, .addLiquidity 2 100 30000 0)]

def lastSwap : Env Nat 0 × Operation Nat := (signedEnv 200, .swap 2 10 100 0)

/-- The second swap accumulates the price after the deposit over the whole time. -/
theorem swaps_accumulate_at_deposit :
    (watched 0).Meets SwapsAccumulate ({}, {}) (depositing ++ [lastSwap]) :=
  swaps_accumulate (by decide)

/-- The second swap adds a price of 3911960 over 200 seconds, though in the first 100 of
them the price was 980396: the gain is off the integral by more than one unit a second. -/
theorem deposit_distorts_accumulator :
    (depositing ++ [lastSwap]).Pairwise
        (fun earlier later => earlier.1.timestamp ≤ later.1.timestamp) ∧
      ∃ observed next since, (watched 0).run ({}, {}) depositing = observed ∧
        dispatch observed.1 lastSwap = .ok next ∧ observed.2.swapped = some since ∧
        Unsaturated lastSwap.1 observed.1 ∧
        200 < next.priceACum - since.priceACum -
          observed.2.integralUpTo observed.2.integralA observed.1.priceA 200 := by
  refine ⟨by decide, _, ((machine 0).apply ((watched 0).run ({}, {}) depositing).1 lastSwap),
    ⟨0, 0, 0⟩, rfl, ?_, ?_, ?_, ?_⟩
  · rcases (machine 0).apply_cases ((watched 0).run ({}, {}) depositing).1 lastSwap with
      ran | unchanged
    · exact ran
    · have clock := congrArg lastTimestamp unchanged
      have moved : ((machine 0).apply ((watched 0).run ({}, {}) depositing).1
          lastSwap).lastTimestamp ≠ ((watched 0).run ({}, {}) depositing).1.lastTimestamp := by
        decide +kernel
      exact absurd clock moved
  · decide +kernel
  · unfold Unsaturated
    decide +kernel
  · decide +kernel

end SorobanPlayground.AmmPool
