import SorobanPlayground.Library.ConstantProduct
import SorobanPlayground.DexAggregator.Contract

/-! # Integrity of a route

A swap hands the output of each hop to the next one. Where the hops form a path
from the token the user pays to the token the user asks for (`RoutePath`), the
pools together take in the amount paid and give the amount returned, and every
pool keeps its product. A swap checks the tokens of each hop against its pool,
and nothing about one hop and the next: off a path the same amount is passed on
as an amount of another token.
-/

namespace SorobanPlayground.DexAggregator

variable {Address : Type}

/-- The hops lead from one token to another. -/
inductive RoutePath : String → List RouteHop → String → Prop
  | arrived (token : String) : RoutePath token [] token
  | hop {hop : RouteHop} {hops : List RouteHop} {destination : String}
      (onward : RoutePath hop.tokenOut hops destination) :
      RoutePath hop.tokenIn (hop :: hops) destination

variable {hops : List RouteHop}

theorem RoutePath.cons_inv {source destination : String} {hop : RouteHop}
    (path : RoutePath source (hop :: hops) destination) :
    source = hop.tokenIn ∧ RoutePath hop.tokenOut hops destination := by
  cases path with
  | hop onward => exact ⟨rfl, onward⟩

/-- What a hop gives for an amount. -/
def Pool.hopOut (pool : Pool) (hop : RouteHop) (amount : Int) : Int :=
  (ammOut amount (pool.hopReserves hop).1 (pool.hopReserves hop).2 pool.feeBps).1

/-- The part of an amount that counts after the fee, in units of one ten-thousandth. -/
def Pool.counted (pool : Pool) (amount : Int) : Int := amount * max (10000 - (pool.feeBps : Int)) 0

/-- Nothing saturates that decides the output of a hop or the reserves it leaves. -/
structure HopExact (pool : Pool) (hop : RouteHop) (amount : Int) : Prop where
  counted : InI128 (pool.counted amount)
  numerator : InI128 (pool.counted amount * (pool.hopReserves hop).2)
  scaled : InI128 ((pool.hopReserves hop).1 * 10000)
  denominator : InI128 ((pool.hopReserves hop).1 * 10000 + pool.counted amount)
  reserveIn : InI128 ((pool.hopReserves hop).1 + amount)
  reserveOut : InI128 ((pool.hopReserves hop).2 - pool.hopOut hop amount)

def Pool.product (pool : Pool) : Int := pool.reserveA * pool.reserveB

/-- A hop exchanges the tokens of its pool, takes less than the reserve, and does not lower the
product. -/
structure HopSound (pool : Pool) (hop : RouteHop) (amount : Int) : Prop where
  tokens : pool.Exchanges hop.tokenIn hop.tokenOut
  output : pool.hopOut hop amount < (pool.hopReserves hop).2
  product : ∀ swapCount,
    pool.product ≤ (pool.exchanged hop amount (pool.hopOut hop amount) swapCount).product

/-- A property of every hop, in the order in which they are executed. -/
def EveryHop (holds : Pool → RouteHop → Int → Prop) (progress : Progress Address) :
    List RouteHop → Prop
  | [] => True
  | hop :: hops =>
      (∀ pool, progress.state.pools.get hop.poolId = some pool →
        holds pool hop progress.currentAmount) ∧
      ∀ next, executeHop progress hop = .ok next → EveryHop holds next hops

def Pool.reserveOf (pool : Pool) (token : String) : Int :=
  (if pool.tokenA = token then pool.reserveA else 0) +
    if pool.tokenB = token then pool.reserveB else 0

/-- The reserves of a token in all pools. -/
def State.reservesOf (state : State Address) (token : String) : Int :=
  state.pools.total fun _ pool => pool.reserveOf token

/-- An amount of one token, as an amount of another. -/
def inToken (held : String) (amount : Int) (token : String) : Int :=
  if token = held then amount else 0

/-- What the user and the pools are owed of a swap of one token for another. -/
structure RouteIntegrity (state : State Address) (tokenIn tokenOut : String)
    (hops : List RouteHop) (amountIn : Int) (result : SwapResult) (next : State Address) :
    Prop where
  path : RoutePath tokenIn hops tokenOut
  hops : EveryHop HopSound { state, currentAmount := amountIn } hops
  products : ∀ id pool, state.pools.get id = some pool →
    ∃ after, next.pools.get id = some after ∧ after.tokenA = pool.tokenA ∧
      after.tokenB = pool.tokenB ∧ pool.product ≤ after.product
  fee : state.protocolFeeAccrued ≤ next.protocolFeeAccrued
  settled : ∀ token, next.reservesOf token =
    state.reservesOf token + inToken tokenIn amountIn token -
      inToken tokenOut
        (result.amountOut + (next.protocolFeeAccrued - state.protocolFeeAccrued)) token

variable {pool : Pool} {hop : RouteHop} {amount : Int}

/-- The reserves of every pool are positive. -/
def Pool.Funded (pool : Pool) : Prop := 0 < pool.reserveA ∧ 0 < pool.reserveB

theorem Pool.Funded.hopReserves (funded : pool.Funded) (hop : RouteHop) :
    0 < (pool.hopReserves hop).1 ∧ 0 < (pool.hopReserves hop).2 := by
  unfold Pool.hopReserves
  split
  · exact funded
  · exact funded.symm

theorem Pool.counted_nonneg (amountNonneg : 0 ≤ amount) : 0 ≤ pool.counted amount :=
  mul_nonneg amountNonneg (le_max_right _ _)

theorem Pool.counted_le (amountNonneg : 0 ≤ amount) : pool.counted amount ≤ amount * 10000 := by
  refine mul_le_mul_of_nonneg_left (max_le ?_ (by norm_num)) amountNonneg
  omega

theorem hopOut_eq (funded : pool.Funded) (amountNonneg : 0 ≤ amount)
    (exactly : HopExact pool hop amount) :
    pool.hopOut hop amount = ConstantProduct.quote 10000 (pool.hopReserves hop).1
      (pool.hopReserves hop).2 (pool.counted amount) := by
  obtain ⟨_, _⟩ := funded.hopReserves hop
  have countedNonneg := pool.counted_nonneg amountNonneg
  unfold Pool.hopOut ammOut ConstantProduct.quote
  by_cases nothing : amount ≤ 0
  · have zero : amount = 0 := le_antisymm nothing amountNonneg
    rw [if_pos (.inr (.inr nothing)), zero, Pool.counted, zero_mul, zero_mul, Int.zero_tdiv]
  · rw [if_neg (by omega)]
    have counted := exactly.counted
    have numerator := exactly.numerator
    have denominator := exactly.denominator
    unfold Pool.counted at counted numerator denominator countedNonneg ⊢
    dsimp only
    rw [saturateI128_of_mem counted, saturateI128_of_mem numerator, saturateI128_of_mem
      exactly.scaled, saturateI128_of_mem denominator, if_neg (by omega)]

theorem Pool.product_eq (pool : Pool) (hop : RouteHop) :
    pool.product = (pool.hopReserves hop).1 * (pool.hopReserves hop).2 := by
  unfold Pool.product Pool.hopReserves
  split
  · rfl
  · exact mul_comm _ _

theorem hopReserves_exchanged {out : Int} (swapCount : Nat)
    (fitsIn : InI128 ((pool.hopReserves hop).1 + amount))
    (fitsOut : InI128 ((pool.hopReserves hop).2 - out)) :
    (pool.exchanged hop amount out swapCount).hopReserves hop =
      ((pool.hopReserves hop).1 + amount, (pool.hopReserves hop).2 - out) := by
  have sameSide : (pool.exchanged hop amount out swapCount).aToB hop = pool.aToB hop := rfl
  unfold Pool.hopReserves at fitsIn fitsOut ⊢
  rw [sameSide]
  split
  · next forward =>
    rw [if_pos forward] at fitsIn fitsOut
    simp only [Pool.exchanged, forward, if_true]
    rw [saturateI128_of_mem fitsIn, saturateI128_of_mem fitsOut]
  · next backward =>
    rw [if_neg backward] at fitsIn fitsOut
    simp only [Pool.exchanged, if_neg backward]
    rw [saturateI128_of_mem fitsIn, saturateI128_of_mem fitsOut]

theorem reserveOf_eq (valid : pool.Exchanges hop.tokenIn hop.tokenOut) (token : String) :
    pool.reserveOf token =
      inToken hop.tokenIn (pool.hopReserves hop).1 token +
        inToken hop.tokenOut (pool.hopReserves hop).2 token := by
  unfold Pool.reserveOf inToken Pool.hopReserves
  by_cases forward : pool.tokenA = hop.tokenIn ∧ pool.tokenB = hop.tokenOut
  · have side : pool.aToB hop = true := decide_eq_true forward
    rw [if_pos side, forward.1, forward.2]
    simp only [eq_comm]
  · have side : pool.aToB hop = false := decide_eq_false forward
    obtain ⟨backIn, backOut⟩ := valid.resolve_left forward
    rw [if_neg (Bool.eq_false_iff.mp side), backIn, backOut, add_comm]
    simp only [eq_comm]

theorem hop_sound (valid : pool.Exchanges hop.tokenIn hop.tokenOut) (funded : pool.Funded)
    (amountNonneg : 0 ≤ amount) (exactly : HopExact pool hop amount) :
    HopSound pool hop amount ∧ 0 ≤ pool.hopOut hop amount ∧
      ∀ swapCount, (pool.exchanged hop amount (pool.hopOut hop amount) swapCount).Funded := by
  obtain ⟨positiveIn, positiveOut⟩ := funded.hopReserves hop
  have countedNonneg := pool.counted_nonneg amountNonneg
  have below : pool.hopOut hop amount < (pool.hopReserves hop).2 := by
    rw [hopOut_eq funded amountNonneg exactly]
    exact ConstantProduct.quote_lt (by norm_num) positiveIn positiveOut countedNonneg
  have reserves := fun swapCount =>
    hopReserves_exchanged swapCount exactly.reserveIn exactly.reserveOut
  refine ⟨⟨valid, below, fun swapCount => ?_⟩, ?_, fun swapCount => ?_⟩
  · rw [pool.product_eq hop, Pool.product_eq _ hop, reserves, hopOut_eq funded amountNonneg exactly]
    exact ConstantProduct.product_le (by norm_num) positiveIn positiveOut countedNonneg
      (pool.counted_le amountNonneg)
  · rw [hopOut_eq funded amountNonneg exactly]
    exact ConstantProduct.quote_nonneg (by norm_num) positiveIn positiveOut.le countedNonneg
  · have sides := reserves swapCount
    have first : 0 < (pool.hopReserves hop).1 + amount := by omega
    have second : 0 < (pool.hopReserves hop).2 - pool.hopOut hop amount := by omega
    unfold Pool.hopReserves at sides
    unfold Pool.Funded
    split at sides
    · obtain ⟨left, right⟩ := Prod.mk.inj sides
      rw [left, right]
      exact ⟨first, second⟩
    · obtain ⟨left, right⟩ := Prod.mk.inj sides
      rw [left, right]
      exact ⟨second, first⟩

/-- Every pool is still there, with its tokens and no smaller a product. -/
def Grown (state next : State Address) : Prop :=
  ∀ id pool, state.pools.get id = some pool →
    ∃ after, next.pools.get id = some after ∧ after.tokenA = pool.tokenA ∧
      after.tokenB = pool.tokenB ∧ pool.product ≤ after.product

theorem Grown.trans {state middle next : State Address} (first : Grown state middle)
    (second : Grown middle next) : Grown state next := by
  intro id pool got
  obtain ⟨between, found, sameA, sameB, more⟩ := first id pool got
  obtain ⟨after, kept, alsoA, alsoB, evenMore⟩ := second id between found
  exact ⟨after, kept, alsoA.trans sameA, alsoB.trans sameB, more.trans evenMore⟩

def Funded (state : State Address) : Prop :=
  ∀ id pool, state.pools.get id = some pool → pool.Funded

/-- The remaining hops exchange tokens of their pools, and all pools are funded. -/
structure Ready (progress : Progress Address) (hops : List RouteHop) : Prop where
  funded : Funded progress.state
  amount : 0 ≤ progress.currentAmount
  valid : ∀ hop ∈ hops, ∃ pool, progress.state.pools.get hop.poolId = some pool ∧
    pool.Exchanges hop.tokenIn hop.tokenOut

variable {progress next : Progress Address}

theorem executeHop_next {hop : RouteHop} (ran : executeHop progress hop = .ok next) :
    ∃ pool swapCount totalFeeBps totalImpactBps,
      progress.state.pools.get hop.poolId = some pool ∧
      next = {
        state := { progress.state with
          pools := progress.state.pools.set hop.poolId
            (pool.exchanged hop progress.currentAmount (pool.hopOut hop progress.currentAmount)
              swapCount) }
        currentAmount := pool.hopOut hop progress.currentAmount
        totalFeeBps
        totalImpactBps
        updatedHops := progress.updatedHops ++ [hop] } := by
  simp only [executeHop, call_ok, arith_ok] at ran
  obtain ⟨pool, got, -, -, -, -, rfl⟩ := ran
  exact ⟨pool, _, _, _, got, rfl⟩

structure HopEffect (progress next : Progress Address) (hop : RouteHop) (hops : List RouteHop) :
    Prop where
  ready : Ready next hops
  grown : Grown progress.state next.state
  accrued : next.state.protocolFeeAccrued = progress.state.protocolFeeAccrued
  reserves : ∀ token, next.state.reservesOf token =
    progress.state.reservesOf token + inToken hop.tokenIn progress.currentAmount token -
      inToken hop.tokenOut next.currentAmount token

theorem hop_effect {hop : RouteHop} (ready : Ready progress (hop :: hops))
    (exactly : ∀ pool, progress.state.pools.get hop.poolId = some pool →
      HopExact pool hop progress.currentAmount) (ran : executeHop progress hop = .ok next) :
    (∀ pool, progress.state.pools.get hop.poolId = some pool →
      HopSound pool hop progress.currentAmount) ∧ HopEffect progress next hop hops := by
  obtain ⟨_, swapCount, _, _, got, rfl⟩ := executeHop_next ran
  obtain ⟨found, same, valid⟩ := ready.valid hop List.mem_cons_self
  obtain rfl := Option.mem_unique same got
  have unsaturated := exactly found got
  obtain ⟨sound, outNonneg, funded⟩ :=
    hop_sound valid (ready.funded _ found got) ready.amount unsaturated
  set out := found.hopOut hop progress.currentAmount
  set after := found.exchanged hop progress.currentAmount out swapCount
  have sides : after.hopReserves hop = _ :=
    hopReserves_exchanged swapCount unsaturated.reserveIn unsaturated.reserveOut
  refine ⟨fun other known => ?_, ⟨?_, outNonneg, fun other mem => ?_⟩, ?_, rfl, ?_⟩
  · cases got.symm.trans known
    exact sound
  · exact forall_set ready.funded (funded swapCount)
  · obtain ⟨known, listed, exchanges⟩ := ready.valid other (List.mem_cons_of_mem _ mem)
    rw [get_set]
    split
    · next samePool =>
      rw [samePool] at listed
      cases listed.symm.trans got
      exact ⟨after, rfl, exchanges⟩
    · exact ⟨known, listed, exchanges⟩
  · intro id known listed
    rw [get_set]
    split
    · next samePool =>
      rw [samePool] at listed
      cases listed.symm.trans got
      exact ⟨after, rfl, rfl, rfl, sound.product swapCount⟩
    · exact ⟨known, listed, rfl, rfl, le_rfl⟩
  · intro token
    have before := reserveOf_eq valid token
    have stillValid : after.Exchanges hop.tokenIn hop.tokenOut := valid
    have later := reserveOf_eq stillValid token
    rw [sides] at later
    change (progress.state.pools.set hop.poolId after).total _ = _
    rw [total_set_of_stored _ got, before, later]
    unfold State.reservesOf inToken
    split_ifs <;> ring

/-- What all hops leave. -/
structure Walked (progress final : Progress Address) (hops : List RouteHop) : Prop where
  sound : EveryHop HopSound progress hops
  ready : Ready final []
  grown : Grown progress.state final.state
  accrued : final.state.protocolFeeAccrued = progress.state.protocolFeeAccrued
  reserves : ∀ tokenIn tokenOut, RoutePath tokenIn hops tokenOut → ∀ token,
    final.state.reservesOf token =
      progress.state.reservesOf token + inToken tokenIn progress.currentAmount token -
        inToken tokenOut final.currentAmount token

theorem hops_walked {progress final : Progress Address}
    (ready : Ready progress hops) (exactly : EveryHop HopExact progress hops)
    (ran : hops.foldlM executeHop progress = .ok final) : Walked progress final hops := by
  induction hops generalizing progress with
  | nil =>
    cases ran
    refine ⟨trivial, ready, fun id pool got => ⟨pool, got, rfl, rfl, le_rfl⟩, rfl, ?_⟩
    intro tokenIn tokenOut path token
    cases path
    omega
  | cons hop _ ih =>
    obtain ⟨next, first, rest⟩ := bind_eq_ok.mp ran
    obtain ⟨sound, effect⟩ := hop_effect ready exactly.1 first
    have later := ih effect.ready (exactly.2 next first) rest
    refine ⟨⟨sound, fun other also => ?_⟩, later.ready, effect.grown.trans later.grown,
      later.accrued.trans effect.accrued, ?_⟩
    · obtain rfl := Except.ok.inj (first.symm.trans also)
      exact later.sound
    · intro tokenIn tokenOut path token
      cases path with
      | hop onward =>
        have now := effect.reserves token
        have onwards := later.reserves _ tokenOut onward token
        omega

variable [DecidableEq Address] {contract : Address} {amountIn minAmountOut : Int}
  {env : Env Address contract}

theorem swap_progress {user : Address} {state next : State Address} {result : SwapResult}
    (funded : Funded state)
    (ran : swap env user hops amountIn minAmountOut state = .ok (result, next)) :
    ∃ final fee, Ready { state, currentAmount := amountIn } hops ∧
      hops.foldlM executeHop { state, currentAmount := amountIn } = .ok final ∧
      0 < amountIn ∧ result.amountOut = final.currentAmount - fee ∧
      next.protocolFeeAccrued = final.state.protocolFeeAccrued + max fee 0 ∧
      fee = (final.currentAmount * final.state.protocolFeeBps).tdiv 10000 ∧
      next.pools = final.state.pools := by
  simp only [swap, assertInitialized, call_ok, forM_eq_ok, arith_ok] at ran
  obtain ⟨-, -, pos, -, -, valid, final, walked, -, -, finished⟩ :=
    ran
  have ready : Ready { state, currentAmount := amountIn } hops := by
    refine ⟨funded, (not_le.mp pos).le, fun hop mem => ?_⟩
    have checked := valid hop mem
    simp only [validateHop, call_ok] at checked
    obtain ⟨pool, got, -, exchanges⟩ := checked
    exact ⟨pool, got, exchanges⟩
  refine ⟨final, (final.currentAmount * final.state.protocolFeeBps).tdiv 10000, ready, walked,
    not_le.mp pos, ?_⟩
  split at finished
  · next some =>
    simp only [call_ok, arith_ok] at finished
    obtain ⟨-, -, rfl, rfl⟩ := finished
    exact ⟨rfl, by rw [max_eq_left some.le], rfl, rfl⟩
  · next none =>
    simp only [call_ok, exists_eq_left'] at finished
    obtain ⟨-, rfl, rfl⟩ := finished
    exact ⟨rfl, by rw [max_eq_right (not_lt.mp none), add_zero], rfl, rfl⟩

/-- Nothing saturates that decides the outputs or the reserves of a swap. -/
def SwapExact (state : State Address) (call : Env Address contract × Operation Address) : Prop :=
  match call.2 with
  | .swap _ hops amountIn _ => EveryHop HopExact { state, currentAmount := amountIn } hops
  | .swapBestRoute _ tokenIn tokenOut amountIn _ =>
      ∀ route, findBestRoute tokenIn tokenOut amountIn state = .ok route →
        EveryHop HopExact { state, currentAmount := amountIn } route.hops
  | _ => True

theorem funded_step (state : State Address) (call : Env Address contract × Operation Address)
    (next : State Address) (funded : Funded state) (exactly : SwapExact state call)
    (ran : (machine contract).exec state call = .ok next) : Funded next := by
  have swapped : ∀ {env : Env Address contract} {user hops amountIn minAmountOut result},
      swap env user hops amountIn minAmountOut state = .ok (result, next) →
      EveryHop HopExact { state, currentAmount := amountIn } hops → Funded next := by
    intro env user hops amountIn minAmountOut result ran exactly
    obtain ⟨_, _, ready, walked, -, -, -, -, pools⟩ := swap_progress funded ran
    unfold Funded
    rw [pools]
    exact (hops_walked ready exactly walked).ready.funded
  obtain ⟨env, op⟩ := call
  change dispatch state (env, op) = .ok next at ran
  cases op with
  | initializeAggregator =>
    simp only [dispatch, initializeAggregator, call_ok] at ran
    obtain ⟨-, -, -, rfl⟩ := ran
    exact funded
  | addPool =>
    obtain ⟨⟨_, after⟩, added, rfl⟩ := map_eq_ok.mp ran
    simp only [addPool, call_ok, exists_and_left, arith_ok] at added
    obtain ⟨_, -, -, -, -, liquid, -, -, rfl⟩ := added
    obtain ⟨positiveA, positiveB⟩ := not_or.mp liquid
    exact forall_set funded ⟨not_le.mp positiveA, not_le.mp positiveB⟩
  | updateReserves =>
    simp only [dispatch, updateReserves, call_ok, exists_and_left] at ran
    obtain ⟨_, -, liquid, pool, -, rfl⟩ := ran
    obtain ⟨positiveA, positiveB⟩ := not_or.mp liquid
    exact forall_set funded ⟨not_le.mp positiveA, not_le.mp positiveB⟩
  | setPoolActive _ poolId =>
    simp only [dispatch, setPoolActive, call_ok] at ran
    obtain ⟨_, -, pool, got, rfl⟩ := ran
    have same : pool.Funded := funded poolId pool got
    exact forall_set funded same
  | setProtocolFee =>
    simp only [dispatch, setProtocolFee, call_ok, exists_and_left] at ran
    obtain ⟨_, -, -, rfl⟩ := ran
    exact funded
  | swap =>
    obtain ⟨⟨result, after⟩, traded, rfl⟩ := map_eq_ok.mp ran
    exact swapped traded exactly
  | swapBestRoute =>
    obtain ⟨⟨_, _⟩, traded, rfl⟩ := map_eq_ok.mp ran
    obtain ⟨route, found, traded⟩ := bind_eq_ok.mp traded
    exact swapped traded (exactly route found)

omit [DecidableEq Address] in
theorem funded_empty : Funded ({} : State Address) := fun _ _ got => nomatch got

theorem funded_run {calls : List (Env Address contract × Operation Address)}
    (exactly : (machine contract).Meets SwapExact {} calls) :
    Funded ((machine contract).run {} calls) :=
  (always_of_meets funded_step funded_empty exactly).final

theorem integrity_of_path {user : Address} {state next : State Address} {result : SwapResult}
    (funded : Funded state) (exactly : EveryHop HopExact { state, currentAmount := amountIn } hops)
    (ran : swap env user hops amountIn minAmountOut state = .ok (result, next))
    {tokenIn tokenOut : String} (path : RoutePath tokenIn hops tokenOut) :
    RouteIntegrity state tokenIn tokenOut hops amountIn result next := by
  obtain ⟨final, fee, ready, walked, -, amountOut, accrued, fee_eq, pools⟩ :=
    swap_progress funded ran
  have walk := hops_walked ready exactly walked
  have feeNonneg : 0 ≤ fee := by
    rw [fee_eq]
    exact Int.tdiv_nonneg (mul_nonneg walk.ready.amount (Int.natCast_nonneg _)) (by norm_num)
  rw [max_eq_left feeNonneg, walk.accrued] at accrued
  refine ⟨path, walk.sound, ?_, ?_, fun token => ?_⟩
  · intro id pool got
    rw [pools]
    exact walk.grown id pool got
  · rw [accrued]
    exact le_add_of_nonneg_right feeNonneg
  · have gross : result.amountOut + (next.protocolFeeAccrued - state.protocolFeeAccrued) =
        final.currentAmount := by
      rw [amountOut, accrued]
      ring
    have total : next.reservesOf token = final.state.reservesOf token := by
      unfold State.reservesOf
      rw [pools]
    rw [gross, total]
    exact walk.reserves tokenIn tokenOut path token

/-- In every run without saturation a successful swap of one token for another is sound exactly if
the hops that the user supplies lead from the one to the other. -/
theorem route_integrity_iff_path (calls : List (Env Address contract × Operation Address))
    (exactly : (machine contract).Meets SwapExact {} calls)
    (env : Env Address contract) (user : Address) (tokenIn tokenOut : String)
    (hops : List RouteHop) (amountIn minAmountOut : Int) (result : SwapResult)
    (next : State Address)
    (unsaturated :
      SwapExact ((machine contract).run {} calls) (env, .swap user hops amountIn minAmountOut))
    (executed : swap env user hops amountIn minAmountOut ((machine contract).run {} calls) =
      .ok (result, next)) :
    RouteIntegrity ((machine contract).run {} calls) tokenIn tokenOut hops amountIn result next ↔
      RoutePath tokenIn hops tokenOut := by
  constructor
  · intro integrity
    exact integrity.path
  · intro path
    exact integrity_of_path (funded_run exactly) unsaturated executed path

/-- A call that the addresses 1 and 2 authorize. -/
def signedCall : Env Nat 0 :=
  { timestamp := 0, auths := [1, 2], contract_silent := zero_notMem_two_signers }

/-- A pool of A and B and one of C and D. -/
def twoPools : List (Env Nat 0 × Operation Nat) :=
  [(signedCall, .initializeAggregator 1 3 0),
    (signedCall, .addPool 1 "first" "A" "B" 1000000 1000000 30),
    (signedCall, .addPool 1 "second" "C" "D" 1000000 1000000 30)]

/-- A swaps to B, and then C to D. -/
def brokenRoute : List RouteHop := [⟨1, "A", "B"⟩, ⟨2, "C", "D"⟩]

/-- The swap succeeds and returns 992 units; pool 1 loses 996 units of B that nobody receives, and
pool 2 takes in 996 units of C that nobody pays. -/
theorem unlinked_hops_swap :
    ∃ result next,
      swap signedCall 2 brokenRoute 1000 0 ((machine 0).run {} twoPools) = .ok (result, next) ∧
      result.amountOut = 992 ∧
      next.reservesOf "B" = ((machine 0).run {} twoPools).reservesOf "B" - 996 ∧
      next.reservesOf "C" = ((machine 0).run {} twoPools).reservesOf "C" + 996 ∧
      ∀ tokenIn tokenOut, ¬ RouteIntegrity ((machine 0).run {} twoPools) tokenIn tokenOut
        brokenRoute 1000 result next := by
  refine ⟨_, _, rfl, by decide, by decide, by decide, fun tokenIn tokenOut integrity => ?_⟩
  have second := integrity.path.cons_inv.2.cons_inv.1
  exact absurd second (by decide)

/-- From A to B and back through the same pool. -/
def roundTrip : List RouteHop := [⟨1, "A", "B"⟩, ⟨1, "B", "A"⟩]

theorem route_integrity_iff_path_round_trip :
    ∃ result next,
      swap signedCall 2 roundTrip 1000 0 ((machine 0).run {} twoPools) = .ok (result, next) ∧
      (RouteIntegrity ((machine 0).run {} twoPools) "A" "A" roundTrip 1000 result next ↔
        RoutePath "A" roundTrip "A") := by
  refine ⟨_, _, rfl, route_integrity_iff_path twoPools ?_ signedCall 2 "A" "A" roundTrip 1000 0 _ _
    ?_ rfl⟩
  · exact ⟨fun _ => trivial, fun _ => trivial, fun _ => trivial, trivial⟩
  · refine ⟨?_, ?_⟩
    · rintro pool ⟨⟩
      constructor <;> decide
    · rintro _ ⟨⟩
      refine ⟨?_, fun _ _ => trivial⟩
      rintro _ ⟨⟩
      constructor <;> decide

end SorobanPlayground.DexAggregator
