import SorobanPlayground.PredictionMarket.Collateral

/-! # The value of liquidity shares

No call dilutes the liquidity shares of a conditional market, so no run does. A
trader who is alone in a market between two moments only shifts its reserves: by
what the trader paid, less the shares the trader bought. When these shares are none
in the end, the product of the reserves can only have grown by a payment.
-/

namespace SorobanPlayground.PredictionMarket

variable {Address : Type} [DecidableEq Address] {contract : Address}

/-- The market whose reserves a call changes. -/
def Operation.pool? : Operation Address → Option Nat
  | .buyShares _ marketId _ _ _ => some marketId
  | .sellShares _ marketId _ _ _ => some marketId
  | .addLiquidity _ marketId _ _ => some marketId
  | .removeLiquidity _ marketId _ => some marketId
  | _ => none

def Operation.trade? : Operation Address → Option (Address × Nat)
  | .buyShares buyer marketId _ _ _ => some (buyer, marketId)
  | .sellShares seller marketId _ _ _ => some (seller, marketId)
  | _ => none

variable {tokens : TokenHost Address} {state next : State Address} {id : Nat}
  {conditional : ConditionalMarket Address} {call : Env Address contract × Operation Address}

/-- How a call changes the reserves: as its owner's rework of one market, or not at
all. Without a rework of the reserves no shares are issued either, and a trade moves
the reserves by what it pays, less the shares it takes. -/
inductive PoolChange (contract : Address) (state next : State Address)
    (operation : Operation Address) : Prop where
  | reworked {owner : Address} {id : Nat} {conditional : ConditionalMarket Address}
      {change gained : Nat → Int} {minted locked : Int}
      (step : Reworked contract owner state next id conditional change gained minted locked)
      (moved : operation.pool? = some id ∨ operation.pool? = none ∧ change = (fun _ => 0) ∧
        minted = 0)
      (traded : operation.trade? = none ∨ operation.trade? = some (owner, id) ∧
        minted = 0 ∧ ∀ outcome, change outcome = locked - gained outcome)
  | kept (quiet : operation.pool? = none) (untraded : operation.trade? = none)
      (stored : ∀ id conditional, state.conditionalMarkets.get id = some conditional →
        next.conditionalMarkets.get id = some conditional)

variable {operation : Operation Address}

theorem kept_of_eq (quiet : operation.pool? = none) (untraded : operation.trade? = none)
    (same : next.conditionalMarkets = state.conditionalMarkets) :
    PoolChange contract state next operation :=
  .kept quiet untraded fun _ _ got => same ▸ got

theorem createConditionalMarket_kept {env : Env Address contract}
    {creator oracle disputeResolver collateralToken : Address} {question : String}
    {marketType : MarketType} {outcomes : List String}
    {resolutionDeadline disputeWindow created : Nat} {initialLiquidity : Int}
    (sound : Sound contract state)
    (ran : createConditionalMarket tokens env creator question marketType outcomes
      resolutionDeadline oracle disputeResolver collateralToken disputeWindow initialLiquidity
      state = .ok (created, next)) (got : state.conditionalMarkets.get id = some conditional) :
    next.conditionalMarkets.get id = some conditional := by
  simp only [createConditionalMarket, incrementMarketCount, call_ok, arith_ok] at ran
  obtain ⟨_, -, -, -, -, -, -, -, _, _, -, rfl, rfl⟩ := ran
  have known := sound.known got
  have ne : id ≠ state.marketCount + 1 := by omega
  exact (get_set_of_ne _ _ ne).trans got

theorem dispatch_poolChange (sound : Sound contract state)
    (ran : dispatch tokens state call = .ok next) : PoolChange contract state next call.2 := by
  obtain ⟨_, operation⟩ := call
  cases operation with
  | buyShares =>
    obtain ⟨⟨_, _⟩, bought, rfl⟩ := map_eq_ok.mp ran
    obtain ⟨conditional, step⟩ := buyShares_reworked sound bought
    exact .reworked step (.inl rfl) (.inr ⟨rfl, rfl, fun _ => rfl⟩)
  | sellShares =>
    obtain ⟨⟨_, _⟩, sold, rfl⟩ := map_eq_ok.mp ran
    obtain ⟨conditional, step⟩ := sellShares_reworked sound sold
    exact .reworked step (.inl rfl) (.inr ⟨rfl, rfl, fun _ => rfl⟩)
  | mintCompleteSet =>
    obtain ⟨conditional, step⟩ := mintCompleteSet_reworked sound ran
    exact .reworked step (.inr ⟨rfl, rfl, rfl⟩) (.inl rfl)
  | addLiquidity =>
    obtain ⟨⟨_, _⟩, added, rfl⟩ := map_eq_ok.mp ran
    obtain ⟨conditional, step⟩ := addLiquidity_reworked sound added
    exact .reworked step (.inl rfl) (.inl rfl)
  | removeLiquidity =>
    obtain ⟨⟨_, _⟩, removed, rfl⟩ := map_eq_ok.mp ran
    obtain ⟨conditional, _, _, step⟩ := removeLiquidity_reworked sound removed
    exact .reworked step (.inl rfl) (.inl rfl)
  | redeemCompleteSet =>
    obtain ⟨conditional, step⟩ := redeemCompleteSet_reworked sound ran
    exact .reworked step (.inr ⟨rfl, rfl, rfl⟩) (.inl rfl)
  | redeemWinnings =>
    obtain ⟨_, _, step⟩ := redeemWinnings_reworked sound ran
    exact .reworked step (.inr ⟨rfl, rfl, rfl⟩) (.inl rfl)
  | createBinaryMarket =>
    obtain ⟨⟨created, _⟩, creates, rfl⟩ := map_eq_ok.mp ran
    exact .kept rfl rfl fun _ _ => createConditionalMarket_kept sound creates
  | createCategoricalMarket =>
    obtain ⟨⟨_, _⟩, creates, rfl⟩ := map_eq_ok.mp ran
    exact .kept rfl rfl fun _ _ => createConditionalMarket_kept sound creates
  | _ =>
    apply kept_of_eq rfl rfl
    apply Outcome.Yields.of_ok ran
    simp only [dispatch, initializeMarkets, createMarket, proposeResolution, disputeResolution,
      finalizeResolution, resolveDispute, placeBet, resolveMarket, cancelMarket,
      incrementMarketCount, yields_bind, yields_map, yields_pure, yields_true, State.withLedger,
      State.setMarket, State.setPosition, State.setResolution]

/-- A later pool of a market, with liquidity shares that are not diluted. -/
structure Continues (conditional later : ConditionalMarket Address) : Prop where
  undiluted : conditional.sharePool.Undiluted later.sharePool
  unissued : conditional.totalLiquidityShares = 0 → later.totalLiquidityShares = 0
  outcomes : later.outcomes = conditional.outcomes

variable {start : State Address} {later : ConditionalMarket Address}

omit [DecidableEq Address] in
theorem Continues.refl (conditional : ConditionalMarket Address) :
    Continues conditional conditional :=
  ⟨SharePool.Undiluted.refl _, id, rfl⟩

variable {owner : Address} {change gained : Nat → Int} {minted locked : Int}

theorem Reworked.continues
    (step : Reworked contract owner state next id conditional change gained minted locked) :
    Continues conditional (conditional.reworked change minted locked) where
  undiluted := step.undiluted
  unissued := by
    intro none
    have total : conditional.totalLiquidityShares + minted = 0 := by
      rw [none, step.unissued none, add_zero]
    exact total
  outcomes := rfl

omit [DecidableEq Address] in
theorem Booked.nonempty (booked : Booked state id conditional) : conditional.poolBalances ≠ [] := by
  apply List.ne_nil_of_length_pos
  rw [booked.sized]
  exact Nat.zero_lt_two.trans_le booked.several

variable {last : ConditionalMarket Address}

theorem Continues.trans (early : Continues conditional later) (late : Continues later last)
    (startSound : Sound contract start) (sound : Sound contract state)
    (nextSound : Sound contract next) (first : start.conditionalMarkets.get id = some conditional)
    (second : state.conditionalMarkets.get id = some later)
    (third : next.conditionalMarkets.get id = some last) : Continues conditional last := by
  have earlier := startSound.conditionals id conditional first
  have middle := sound.conditionals id later second
  have final := nextSound.conditionals id last third
  have issued := startSound.liquidity_nonneg first
  refine ⟨?_, fun none => late.unissued (early.unissued none), late.outcomes.trans early.outcomes⟩
  by_cases none : later.totalLiquidityShares = 0
  · exact SharePool.undiluted_of_shares_eq_zero (late.unissued none) earlier.nonempty issued
      final.reserves
  · have sized : later.poolBalances.length = conditional.poolBalances.length := by
      rw [middle.sized, earlier.sized, early.outcomes]
    have left : 0 < later.totalLiquidityShares :=
      (sound.liquidity_nonneg second).lt_of_ne (Ne.symm none)
    exact early.undiluted.trans late.undiluted sized issued left (nextSound.liquidity_nonneg third)

theorem dispatch_continues (sound : Sound contract state)
    (got : state.conditionalMarkets.get id = some conditional)
    (ran : dispatch tokens state call = .ok next) :
    ∃ later, next.conditionalMarkets.get id = some later ∧ Continues conditional later := by
  cases dispatch_poolChange sound ran with
  | @reworked owner other unrelated change gained minted locked step =>
    have wrote := step.written
    rw [(sound.conditionals other unrelated step.stored).named] at wrote
    rw [wrote, get_set]
    split_ifs with same
    · subst same
      obtain rfl := Option.mem_unique got step.stored
      exact ⟨_, rfl, step.continues⟩
    · exact ⟨conditional, got, .refl conditional⟩
  | kept _ _ kept => exact ⟨conditional, kept id conditional got, .refl conditional⟩

theorem run_continues (sound : Sound contract state)
    (got : state.conditionalMarkets.get id = some conditional)
    (calls : List (Env Address contract × Operation Address)) :
    ∃ later, ((machine tokens contract).run state calls).conditionalMarkets.get id = some later ∧
      Continues conditional later := by
  have keeps : ∀ (reached : State Address) call next,
      (Sound contract reached ∧ ∃ later, reached.conditionalMarkets.get id = some later ∧
        Continues conditional later) → (machine tokens contract).exec reached call = .ok next →
      Sound contract next ∧ ∃ later, next.conditionalMarkets.get id = some later ∧
        Continues conditional later := by
    rintro _ _ _ ⟨reachedSound, _, found, early⟩ ran
    have nextSound := dispatch_sound reachedSound ran
    obtain ⟨last, wrote, late⟩ := dispatch_continues reachedSound found ran
    exact ⟨nextSound, last, wrote,
      early.trans late sound reachedSound nextSound got found wrote⟩
  exact (run_invariant keeps ⟨sound, conditional, got, .refl conditional⟩ calls).2

variable (trader : Address) (id : Nat)

/-- The shares of an outcome that a trade of a trader adds to the trader's balance. -/
def sharesTraded (outcome : Nat) (state : State Address)
    (call : Env Address contract × Operation Address) (next : State Address) : Int :=
  if call.2.trade? = some (trader, id) then
    next.getOutcomeBalance id trader outcome - state.getOutcomeBalance id trader outcome
  else 0

def collateralTraded (token : Address) (state : State Address)
    (call : Env Address contract × Operation Address) (next : State Address) : Int :=
  if call.2.trade? = some (trader, id) then state.ledger token trader - next.ledger token trader
  else 0

/-- A later pool of a market whose reserves have shifted without losing product. -/
structure Shifted (conditional : ConditionalMarket Address) (shift : Nat → Int)
    (later : ConditionalMarket Address) : Prop where
  pool : later.poolBalances = shiftReserves shift conditional.poolBalances
  raised : conditional.poolBalances.prod ≤ later.poolBalances.prod
  outcomes : later.outcomes = conditional.outcomes
  collateralToken : later.collateralToken = conditional.collateralToken

variable {trader : Address} {id : Nat} {shift : Nat → Int}

omit [DecidableEq Address] in
theorem Shifted.of_zero (zero : ∀ outcome < conditional.poolBalances.length, shift outcome = 0) :
    Shifted conditional shift conditional :=
  ⟨by rw [shiftReserves_congr zero, shiftReserves_zero], le_rfl, rfl, rfl⟩

theorem shiftReserves_add (first second : Nat → Int) (reserves : List Int) :
    shiftReserves second (shiftReserves first reserves) =
      shiftReserves (fun index => first index + second index) reserves := by
  simp [shiftReserves]

omit [DecidableEq Address] in
theorem Shifted.trans {first second : Nat → Int}
    (early : Shifted conditional first later) (late : Shifted later second last) :
    Shifted conditional (fun index => first index + second index) last where
  pool := by rw [late.pool, early.pool, shiftReserves_add]
  raised := early.raised.trans late.raised
  outcomes := late.outcomes.trans early.outcomes
  collateralToken := late.collateralToken.trans early.collateralToken

/-- A call on a market is the trader's trade, or it leaves the reserves alone. -/
def AloneAt (trader : Address) (id : Nat) (_ : State Address)
    (call : Env Address contract × Operation Address) : Prop :=
  call.2.pool? = some id → call.2.trade? = some (trader, id)

/-- What a trader pays in a step, less the shares of an outcome it buys. -/
def netPaid (trader : Address) (id : Nat) (token : Address) (state : State Address)
    (call : Env Address contract × Operation Address) (next : State Address)
    (outcome : Nat) : Int :=
  collateralTraded trader id token state call next - sharesTraded trader id outcome state call next

variable {token : Address}

theorem netPaid_of_untraded (untraded : call.2.trade? ≠ some (trader, id)) (outcome : Nat) :
    netPaid trader id token state call next outcome = 0 := by
  unfold netPaid collateralTraded sharesTraded
  rw [if_neg untraded, if_neg untraded, sub_zero]

theorem netPaid_self (outcome : Nat) : netPaid trader id token state call state outcome = 0 := by
  unfold netPaid collateralTraded sharesTraded
  rw [sub_self, sub_self, ite_self]
  rfl

omit [DecidableEq Address] in
theorem pool_of_trade (traded : operation.trade? = some (trader, id)) :
    operation.pool? = some id := by
  cases operation with
  | buyShares =>
    cases traded
    rfl
  | sellShares =>
    cases traded
    rfl
  | _ => cases traded

theorem Reworked.shifted
    (step : Reworked contract owner state next id conditional change gained minted locked)
    (unminted : minted = 0)
    (same : ∀ outcome < conditional.poolBalances.length, change outcome = shift outcome) :
    Shifted conditional shift (conditional.reworked change minted locked) where
  pool := shiftReserves_congr same
  raised := step.raised unminted
  outcomes := rfl
  collateralToken := rfl

theorem dispatch_shifted (sound : Sound contract state)
    (got : state.conditionalMarkets.get id = some conditional)
    (alone : AloneAt trader id state call) (ran : dispatch tokens state call = .ok next) :
    ∃ later, next.conditionalMarkets.get id = some later ∧ Shifted conditional
      (netPaid trader id conditional.collateralToken state call next) later := by
  have booked := sound.conditionals id conditional got
  cases dispatch_poolChange sound ran with
  | @reworked owner other unrelated change gained minted locked step moved traded =>
    have wrote := step.written
    rw [(sound.conditionals other unrelated step.stored).named] at wrote
    rw [wrote, get_set]
    by_cases same : id = other
    · subst same
      obtain rfl := Option.mem_unique got step.stored
      rw [if_pos rfl]
      rcases moved with pool | ⟨quiet, rfl, unminted⟩
      · have trade := alone pool
        rcases traded with untraded | ⟨traded, unminted, moves⟩
        · rw [untraded] at trade
          cases trade
        · obtain ⟨rfl, -⟩ := Prod.mk.inj (Option.mem_unique traded trade)
          refine ⟨_, rfl, step.shifted unminted fun index inside => ?_⟩
          unfold netPaid collateralTraded sharesTraded
          rw [if_pos trade, if_pos trade, step.balance index (booked.sized ▸ inside), step.spent,
            if_pos rfl, moves]
          omega
      · refine ⟨_, rfl, step.shifted unminted fun index _ => ?_⟩
        refine (netPaid_of_untraded (fun trade => ?_) index).symm
        rw [pool_of_trade trade] at quiet
        cases quiet
    · rw [if_neg same]
      refine ⟨conditional, got, .of_zero fun index _ => ?_⟩
      refine netPaid_of_untraded (fun trade => ?_) index
      rcases moved with pool | ⟨quiet, -⟩
      · exact same (Option.some.inj ((pool_of_trade trade).symm.trans pool))
      · rw [pool_of_trade trade] at quiet
        cases quiet
  | kept _ untraded kept =>
    refine ⟨conditional, kept id conditional got, .of_zero fun index _ => ?_⟩
    apply netPaid_of_untraded
    rw [untraded]
    nofun

variable {calls : List (Env Address contract × Operation Address)}

theorem run_shifted
    (sound : Sound contract state) (got : state.conditionalMarkets.get id = some conditional)
    (collateral : conditional.collateralToken = token)
    (alone : (machine tokens contract).Meets (AloneAt trader id) state calls) :
    ∃ later, ((machine tokens contract).run state calls).conditionalMarkets.get id = some later ∧
      Shifted conditional ((machine tokens contract).sumSteps (netPaid trader id token) state calls)
        later := by
  induction calls generalizing state conditional with
  | nil => exact ⟨conditional, got, .of_zero fun _ _ => rfl⟩
  | cons call _ ih =>
    have first : ∃ later,
        ((machine tokens contract).apply state call).conditionalMarkets.get id = some later ∧
          Shifted conditional (netPaid trader id token state call
            ((machine tokens contract).apply state call)) later := by
      rcases (machine tokens contract).apply_cases state call with ran | same
      · subst collateral
        exact dispatch_shifted sound got (alone.1 ⟨_, ran⟩) ran
      · rw [same]
        exact ⟨conditional, got, .of_zero fun index _ => netPaid_self index⟩
    obtain ⟨_, found, early⟩ := first
    obtain ⟨last, final, late⟩ := ih (CallMachine.apply_invariant exec_sound sound call) found
      (early.collateralToken.trans collateral) alone.2
    exact ⟨last, final, early.trans late⟩

theorem sumSteps_netPaid (outcome : Nat) (state : State Address)
    (calls : List (Env Address contract × Operation Address)) :
    (machine tokens contract).sumSteps (netPaid trader id token) state calls outcome =
      (machine tokens contract).sumSteps (collateralTraded trader id token) state calls -
        (machine tokens contract).sumSteps (sharesTraded trader id outcome) state calls := by
  induction calls generalizing state with
  | nil => rfl
  | cons _ _ ih =>
    simp only [CallMachine.sumSteps, Pi.add_apply, ih, netPaid]
    omega

theorem lone_trades_unprofitable (sound : Sound contract state)
    (got : state.conditionalMarkets.get id = some conditional)
    (alone : (machine tokens contract).Meets (AloneAt trader id) state calls)
    (returned : ∀ outcome < conditional.outcomes.length,
      (machine tokens contract).sumSteps (sharesTraded trader id outcome) state calls = 0) :
    0 ≤ (machine tokens contract).sumSteps
      (collateralTraded trader id conditional.collateralToken) state calls := by
  obtain ⟨later, found, shifted⟩ := run_shifted sound got rfl alone
  have booked := sound.conditionals id conditional got
  have reached : Sound contract ((machine tokens contract).run state calls) :=
    run_invariant exec_sound sound calls
  have pool : later.poolBalances = conditional.poolBalances.map
      (· + (machine tokens contract).sumSteps
        (collateralTraded trader id conditional.collateralToken) state calls) := by
    rw [shifted.pool]
    apply List.ext_getElem (by simp [shiftReserves])
    intro index inside _
    have known : index < conditional.outcomes.length := by
      rw [← booked.sized]
      simpa [shiftReserves] using inside
    simp [shiftReserves, sumSteps_netPaid, returned index known]
  have raised := shifted.raised
  rw [pool] at raised
  apply SharePool.shift_nonneg booked.nonempty ?_ raised
  intro reserve mem
  apply (reached.conditionals id later found).reserves _
  rw [pool]
  exact List.mem_map_of_mem mem

variable {ledger : TokenLedger Address} {state : State Address} {id : Nat}
  {conditional : ConditionalMarket Address}

/-- From every reachable state, no call and no run dilutes the liquidity shares of a
market, and trades that return a trader's shares of every outcome cost the trader
something or nothing, as long as nobody else trades in the market and its liquidity
stays. -/
theorem liquidity_undiluted (reachable : (machine tokens contract).Reachable { ledger } state)
    (stored : state.conditionalMarkets.get id = some conditional) :
    (∀ call next, (machine tokens contract).exec state call = .ok next →
      ∃ later, next.conditionalMarkets.get id = some later ∧
        conditional.sharePool.Undiluted later.sharePool) ∧
    ∀ calls,
      (∃ later, ((machine tokens contract).run state calls).conditionalMarkets.get id =
          some later ∧ conditional.sharePool.Undiluted later.sharePool) ∧
      ∀ trader, (machine tokens contract).Meets (AloneAt trader id) state calls →
        (∀ outcome < conditional.outcomes.length,
          (machine tokens contract).sumSteps (sharesTraded trader id outcome) state calls = 0) →
        0 ≤ (machine tokens contract).sumSteps
          (collateralTraded trader id conditional.collateralToken) state calls := by
  have sound : Sound contract state := by
    obtain ⟨history, rfl⟩ := reachable
    exact run_invariant exec_sound (initial_sound ledger) history
  refine ⟨fun call next ran => ?_, fun calls => ⟨?_, fun trader alone returned => ?_⟩⟩
  · obtain ⟨later, found, continues⟩ := dispatch_continues sound stored ran
    exact ⟨later, found, continues.undiluted⟩
  · obtain ⟨later, found, continues⟩ := run_continues sound stored calls
    exact ⟨later, found, continues.undiluted⟩
  · exact lone_trades_unprofitable sound stored alone returned

/-- The addresses 1 to 4 authorize. -/
def signedEnv : Env Nat 0 where
  timestamp := 0
  auths := [1, 2, 3, 4]
  contract_silent := zero_notMem_four_signers

/-- A market of two outcomes with a liquidity of 36 that account 4 has traded in and
account 2 has deepened. -/
def openedMarket : List (Env Nat 0 × Operation Nat) :=
  [(signedEnv, .initializeMarkets 1),
    (signedEnv, .createBinaryMarket 2 "Will it rain?" 100 1 1 9 10 36),
    (signedEnv, .buyShares 4 1 0 52 0), (signedEnv, .addLiquidity 2 1 89 0)]

/-- Account 3 buys 55 shares of the second outcome for 23 and sells them later. -/
def roundTrip (between : List (Env Nat 0 × Operation Nat)) : List (Env Nat 0 × Operation Nat) :=
  (signedEnv, .buyShares 3 1 1 23 0) :: between ++ [(signedEnv, .sellShares 3 1 1 55 0)]

/-- The state that a list of calls leaves when all accounts start with 1000 of each
token. -/
def stateAfter (calls : List (Env Nat 0 × Operation Nat)) : State Nat :=
  (machine standardHost 0).run { ledger := fun _ holder => if holder = 0 then 0 else 1000 } calls

/-- Without others in between the round trip costs account 3 one unit. -/
theorem liquidity_undiluted_at_round_trip :
    0 ≤ (machine standardHost 0).sumSteps (collateralTraded 3 1 9) (stateAfter openedMarket)
      (roundTrip []) := by
  have alone : (machine standardHost 0).Meets (AloneAt 3 1) (stateAfter openedMarket)
      (roundTrip []) := ⟨fun _ _ => rfl, fun _ _ => rfl, trivial⟩
  have got : (stateAfter openedMarket).conditionalMarkets.get 1 = some
      { marketId := 1, outcomes := ["NO", "YES"], collateralToken := 9, disputeResolver := 1,
        disputeWindow := 10, minimumDisputeBond := 1, poolBalances := [104, 177],
        totalLiquidityShares := 72, collateralLocked := 177 } := by decide +kernel
  refine ((liquidity_undiluted ⟨openedMarket, rfl⟩ got).2 (roundTrip [])).2 3 alone ?_
  decide +kernel

/-- Account 3 profits when account 4 buys the same outcome in between, when liquidity
is added in between, and when it is withdrawn in small parts. -/
theorem interleaved_round_trips_profit :
    ((stateAfter openedMarket).conditionalMarkets.get 1).map (·.outcomes) = some ["NO", "YES"] ∧
    ∀ between ∈ [[(signedEnv, .buyShares 4 1 1 100 0)], [(signedEnv, .addLiquidity 2 1 500 0)],
        List.replicate 17 (signedEnv, .removeLiquidity 2 1 1)],
      (∀ outcome < 2, (machine standardHost 0).sumSteps (sharesTraded 3 1 outcome)
        (stateAfter openedMarket) (roundTrip between) = 0) ∧
      (machine standardHost 0).sumSteps (collateralTraded 3 1 9) (stateAfter openedMarket)
        (roundTrip between) < 0 := by
  decide +kernel

end SorobanPlayground.PredictionMarket
