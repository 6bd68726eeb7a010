import SorobanPlayground.Library.GroupedTotals
import SorobanPlayground.PredictionMarket.PoolValue

/-! # Bets on plain markets

A bet records a stake on one of two outcomes and adds it to the running total of that outcome. A
payout is a part of both totals by stake, rounded down, or a refund.
-/

namespace SorobanPlayground.PredictionMarket

open State FiniteMap

variable {Address : Type} [DecidableEq Address] {contract : Address} (state : State Address)

/-- The payout of a trader: the stake of a cancelled market, or the trader's part of both totals. -/
def calculatePayout (marketId : Nat) (trader : Address) : Outcome Error Int := do
  let market ← state.getMarket marketId
  if market.status = .cancelled then do
    let position ← orError (state.positions.get (marketId, trader)) .positionNotFound
    return position.stake
  else do
    ensure (market.status = .resolved) .marketNotResolved
    let winningOutcome ← orError market.winningOutcome .marketNotResolved
    let position ← orError (state.positions.get (marketId, trader)) .positionNotFound
    if position.outcome ≠ winningOutcome then return 0
    else do
      let totalPool ←
        checkedAdd (.error .arithmeticOverflow) market.totalYesStake market.totalNoStake
      let winningPool := if winningOutcome = 1 then market.totalYesStake else market.totalNoStake
      if winningPool = 0 then return 0 else mulDivFloor position.stake totalPool winningPool

/-- The market and the outcome that a position is on. -/
def sideOf (key : Nat × Address) (position : Position Address) : Nat × Nat :=
  (key.1, position.outcome)

def State.stakes (marketId outcome : Nat) : Int :=
  state.positions.groupTotal sideOf Position.stake (marketId, outcome)

/-- The number of traders on an outcome of a market. -/
def State.backers (marketId outcome : Nat) : Int :=
  state.positions.groupTotal sideOf (fun _ => 1) (marketId, outcome)

def State.payouts (marketId : Nat) (payout : Address → Int) : Int :=
  state.positions.total fun key _ => if key.1 = marketId then payout key.2 else 0

/-- The running totals are the sums of the stakes. -/
def StakesExact : Prop :=
  ∀ marketId market, state.markets.get marketId = some market →
    market.totalYesStake = state.stakes marketId 1 ∧ market.totalNoStake = state.stakes marketId 0

/-- What the positions and the running totals keep. -/
structure Wagered (state : State Address) : Prop where
  exact : StakesExact state
  placed : ∀ key position, state.positions.get key = some position →
    position.outcome ≤ 1 ∧ 0 < position.stake ∧ (position.marketId, position.trader) = key ∧
      ∃ market, state.markets.get key.1 = some market
  decided : ∀ marketId market, state.markets.get marketId = some market →
    market.status = .resolved → ∃ winner, market.winningOutcome = some winner

/-- The writes of a successful call to markets and positions. -/
inductive Bets (state next : State Address) : Prop
  | quiet (markets : next.markets = state.markets) (positions : next.positions = state.positions)
  | created (market : Market Address) (opened : market.status = .opened)
      (unstaked : market.totalYesStake = 0 ∧ market.totalNoStake = 0)
      (markets : next.markets = state.markets.set (state.marketCount + 1) market)
      (positions : next.positions = state.positions)
  | rewritten (marketId : Nat) (market written : Market Address)
      (stored : state.markets.get marketId = some market)
      (decided : written.status = .resolved → ∃ winner, written.winningOutcome = some winner)
      (same : written.totalYesStake = market.totalYesStake ∧
        written.totalNoStake = market.totalNoStake)
      (markets : next.markets = state.markets.set marketId written)
      (positions : next.positions = state.positions)
  | bet (trader : Address) (marketId outcome : Nat) (stake : Int) (positive : 0 < stake)
      (side : outcome ≤ 1) (market written : Market Address) (position : Position Address)
      (stored : state.markets.get marketId = some market) (opened : market.status = .opened)
      (accumulated : accumulatePosition trader marketId outcome stake
        (state.positions.get (marketId, trader)) = .ok position)
      (added : addStake market outcome stake = .ok written)
      (markets : next.markets = state.markets.set marketId written)
      (positions : next.positions =
        state.positions.set (position.marketId, position.trader) position)

variable {tokens : TokenHost Address} {env : Env Address contract} {state next : State Address}

/-- Markets and positions are left alone. -/
def Untouched (state next : State Address) : Prop :=
  next.markets = state.markets ∧ next.positions = state.positions

variable {position : Position Address} {stake : Int}

section

omit [DecidableEq Address]

theorem addStake_eq {market wrote : Market Address} {outcome : Nat}
    (added : addStake market outcome stake = .ok wrote) :
    wrote = if outcome = 1 then { market with totalYesStake := market.totalYesStake + stake }
      else { market with totalNoStake := market.totalNoStake + stake } := by
  unfold addStake at added
  split at added
  · next yes =>
    simp only [call_ok, arith_ok] at added
    obtain ⟨-, rfl⟩ := added
    rw [if_pos yes]
  · next no =>
    simp only [call_ok, arith_ok] at added
    obtain ⟨-, rfl⟩ := added
    rw [if_neg no]

theorem accumulatePosition_eq {trader : Address} {marketId outcome : Nat}
    {existing : Option (Position Address)}
    (placed : ∀ held, existing = some held → (held.marketId, held.trader) = (marketId, trader))
    (accumulated : accumulatePosition trader marketId outcome stake existing = .ok position) :
    position = { marketId, trader, outcome, stake := existing.elim 0 Position.stake + stake } ∧
      ∀ held, existing = some held → held.outcome = outcome := by
  cases existing with
  | none =>
    cases accumulated
    rw [Option.elim_none, zero_add]
    exact ⟨rfl, nofun⟩
  | some held =>
    simp only [accumulatePosition, call_ok, arith_ok] at accumulated
    obtain ⟨same, -, rfl⟩ := accumulated
    obtain ⟨rfl, rfl⟩ := Prod.mk.inj (placed held rfl)
    subst same
    exact ⟨rfl, fun other found => Option.some.inj found ▸ rfl⟩

end

variable {marketId : Nat} {owner : Address} {amount : Int} {outcomes : List Nat}

theorem creditOutcomes_untouched
    (ran : outcomes.foldlM (creditOutcome marketId owner amount) state = .ok next) :
    Untouched state next := by
  refine foldlM_invariant (Untouched state) (fun current outcome later _ before round => ?_)
    ⟨rfl, rfl⟩ ran
  simp only [creditOutcome, call_ok] at round
  obtain ⟨_, -, rfl⟩ := round
  exact before

theorem debitOutcomes_untouched
    (ran : outcomes.foldlM (debitOutcome marketId owner amount) state = .ok next) :
    Untouched state next := by
  refine foldlM_invariant (Untouched state) (fun current outcome later _ before round => ?_)
    ⟨rfl, rfl⟩ ran
  simp only [debitOutcome, call_ok] at round
  obtain ⟨_, -, rfl⟩ := round
  exact before

theorem withdrawOutcomes_untouched {provider : Address} {shares total : Int}
    {start final : Withdrawal Address}
    (ran : outcomes.foldlM (withdrawOutcome provider marketId shares total) start = .ok final) :
    Untouched start.state final.state := by
  refine foldlM_invariant
    (fun progress : Withdrawal Address => Untouched start.state progress.state)
    (fun current outcome later _ before round => ?_) ⟨rfl, rfl⟩ ran
  simp only [withdrawOutcome, call_ok] at round
  obtain ⟨_, -, _, -, _, -, _, -, _, -, rfl⟩ := round
  exact before

theorem createConditionalMarket_bets {creator oracle disputeResolver collateralToken : Address}
    {question : String} {marketType : MarketType} {outcomes : List String}
    {resolutionDeadline disputeWindow created : Nat} {initialLiquidity : Int}
    (ran : createConditionalMarket tokens env creator question marketType outcomes
      resolutionDeadline oracle disputeResolver collateralToken disputeWindow initialLiquidity
      state = .ok (created, next)) : Bets state next := by
  simp only [createConditionalMarket, incrementMarketCount, call_ok, arith_ok] at ran
  obtain ⟨_, -, -, -, -, -, -, -, _, -, -, -, rfl⟩ := ran
  exact .created _ rfl ⟨rfl, rfl⟩ rfl rfl

theorem dispatch_bets (sound : Sound contract state)
    {call : Env Address contract × Operation Address}
    (ran : dispatch tokens state call = .ok next) : Bets state next := by
  obtain ⟨_, op⟩ := call
  cases op with
  | createMarket =>
    obtain ⟨⟨created, _⟩, creates, rfl⟩ := map_eq_ok.mp ran
    simp only [createMarket, incrementMarketCount, call_ok, arith_ok] at creates
    obtain ⟨-, -, _, -, _, -, -, -, rfl⟩ := creates
    exact .created _ rfl ⟨rfl, rfl⟩ rfl rfl
  | createBinaryMarket =>
    obtain ⟨⟨created, _⟩, creates, rfl⟩ := map_eq_ok.mp ran
    exact createConditionalMarket_bets creates
  | createCategoricalMarket =>
    obtain ⟨⟨_, _⟩, creates, rfl⟩ := map_eq_ok.mp ran
    exact createConditionalMarket_bets creates
  | mintCompleteSet =>
    simp only [dispatch, mintCompleteSet, call_ok] at ran
    obtain ⟨-, -, _, -, market, -, _, -, conditional, -, ledger, -, _, loop, locked, -, rfl⟩ :=
      ran
    obtain ⟨markets, positions⟩ := creditOutcomes_untouched loop
    exact .quiet markets positions
  | redeemCompleteSet =>
    simp only [dispatch, redeemCompleteSet, bind_eq_ok, pure_eq_ok] at ran
    obtain ⟨_, -, _, -, _, -, market, -, _, -, conditional, -, _, -, _, loop, _, -,
      ledger, -, rfl⟩ := ran
    obtain ⟨markets, positions⟩ := debitOutcomes_untouched loop
    exact .quiet markets positions
  | removeLiquidity =>
    obtain ⟨⟨_, _⟩, removed, rfl⟩ := map_eq_ok.mp ran
    simp only [removeLiquidity, bind_eq_ok, pure_eq_ok, Prod.mk.injEq] at removed
    obtain ⟨_, -, _, -, market, -, _, -, _, -, _, -, _, -, _, loop, _, -,
      _, -, -, rfl⟩ := removed
    obtain ⟨markets, positions⟩ := withdrawOutcomes_untouched loop
    exact .quiet markets positions
  | finalizeResolution marketId =>
    simp only [dispatch, finalizeResolution, getMarket, call_ok] at ran
    obtain ⟨_, -, market, got, _, -, _, -, _, -, _, -, _, -, rfl⟩ := ran
    obtain rfl := (sound.markets marketId market got).1
    exact .rewritten market.id market (market.resolve _) got (fun _ => ⟨_, rfl⟩) ⟨rfl, rfl⟩
      rfl rfl
  | resolveDispute marketId finalOutcome =>
    simp only [dispatch, resolveDispute, getMarket, call_ok] at ran
    obtain ⟨_, -, market, got, _, -, _, -, _, -, _, -, _, -, _, -, _, -, rfl⟩ := ran
    obtain rfl := (sound.markets marketId market got).1
    exact .rewritten market.id market (market.resolve finalOutcome) got
      (fun _ => ⟨finalOutcome, rfl⟩) ⟨rfl, rfl⟩ rfl rfl
  | placeBet trader marketId outcome stake =>
    simp only [dispatch, placeBet, getMarket, call_ok] at ran
    obtain ⟨-, _, -, pos, side, market, got, opened, -, position, accumulated, wrote,
      added, rfl⟩ := ran
    have named : wrote.id = marketId := by
      rw [addStake_eq added, ← (sound.markets marketId market got).1]
      split <;> rfl
    refine .bet trader marketId outcome stake pos side market wrote position got opened
      accumulated added ?_ rfl
    rw [← named]
    rfl
  | resolveMarket marketId winningOutcome =>
    simp only [dispatch, resolveMarket, getMarket, call_ok] at ran
    obtain ⟨_, -, market, got, _, -, _, -, _, -, _, -, rfl⟩ := ran
    obtain rfl := (sound.markets marketId market got).1
    exact .rewritten market.id market (market.resolve winningOutcome) got
      (fun _ => ⟨winningOutcome, rfl⟩) ⟨rfl, rfl⟩ rfl rfl
  | cancelMarket marketId =>
    simp only [dispatch, cancelMarket, getMarket, call_ok] at ran
    obtain ⟨_, -, _, -, market, got, _, -, _, -, _, -, rfl⟩ := ran
    obtain rfl := (sound.markets marketId market got).1
    exact .rewritten market.id market { market with status := .cancelled } got
      (fun resolved => by cases resolved) ⟨rfl, rfl⟩ rfl rfl
  | _ =>
    obtain ⟨markets, positions⟩ : Untouched state next := by
      apply Outcome.Yields.of_ok ran
      simp only [dispatch, initializeMarkets, buyShares, sellShares, addLiquidity,
        proposeResolution, disputeResolution, redeemWinnings, yields_bind, yields_map, yields_pure,
        yields_true, Untouched, withLedger, setConditionalMarket,
        setOutcomeBalance, setLiquidityBalance, setResolution, and_self]
    exact .quiet markets positions

omit [DecidableEq Address] in
theorem stakes_congr (positions : next.positions = state.positions) (marketId outcome : Nat) :
    next.stakes marketId outcome = state.stakes marketId outcome := by
  unfold stakes
  rw [positions]

theorem stakes_of_unplaced (wagered : Wagered state) (gone : state.markets.get marketId = none)
    (outcome : Nat) : state.stakes marketId outcome = 0 := by
  apply groupTotal_eq_zero
  intro key position got side
  obtain ⟨-, -, -, _, found⟩ := wagered.placed key position got
  rw [(Prod.mk.inj side).1, gone] at found
  cases found

theorem stakes_bet {trader : Address} {marketId : Nat}
    (same : ∀ held, state.positions.get (marketId, trader) = some held →
      held.outcome = position.outcome) (raised : position.stake =
      (state.positions.get (marketId, trader)).elim 0 Position.stake + stake)
    (positions : next.positions = state.positions.set (marketId, trader) position)
    (other index : Nat) :
    next.stakes other index = state.stakes other index +
      if (other, index) = (marketId, position.outcome) then stake else 0 := by
  have before : ∀ held, state.positions.get (marketId, trader) = some held →
      sideOf (marketId, trader) held = (marketId, position.outcome) := by
    intro held got
    rw [sideOf, same held got]
  have after : ∀ wrote, some position = some wrote →
      sideOf (marketId, trader) wrote = (marketId, position.outcome) := by
    intro wrote found
    cases found
    rfl
  have sums : (state.positions.put (marketId, trader) (some position)).groupTotal sideOf
      Position.stake (other, index) = _ := groupTotal_put before after (other, index)
  unfold stakes
  rw [positions]
  change (state.positions.put (marketId, trader) (some position)).groupTotal _ _ _ = _
  rw [sums, Option.elim_some, raised, add_sub_cancel_left]

theorem Bets.wagered (bets : Bets state next) (sound : Sound contract state)
    (wagered : Wagered state) : Wagered next := by
  cases bets with
  | quiet markets positions =>
    refine ⟨fun marketId market got => ?_, ?_, markets ▸ wagered.decided⟩
    · rw [stakes_congr positions, stakes_congr positions]
      exact wagered.exact marketId market (markets ▸ got)
    · rw [markets, positions]
      exact wagered.placed
  | created _ opened unstaked markets positions =>
    have fresh : state.markets.get (state.marketCount + 1) = none := by
      by_contra present
      obtain ⟨other, got⟩ := Option.ne_none_iff_exists'.mp present
      have known := (sound.markets _ other got).2
      omega
    refine ⟨?_, fun key position got => ?_, ?_⟩
    · unfold StakesExact
      rw [markets]
      refine forall_set (fun marketId other got => ?_) ?_
      · rw [stakes_congr positions, stakes_congr positions]
        exact wagered.exact marketId other got
      · rw [stakes_congr positions, stakes_congr positions, stakes_of_unplaced wagered fresh,
          stakes_of_unplaced wagered fresh]
        exact unstaked
    · obtain ⟨side, pos, own, other, found⟩ :=
        wagered.placed key position (positions ▸ got)
      refine ⟨side, pos, own, other, ?_⟩
      have ne : key.1 ≠ state.marketCount + 1 := by
        intro same
        rw [same, fresh] at found
        cases found
      rw [markets, get_set_of_ne _ _ ne]
      exact found
    · rw [markets]
      refine forall_set wagered.decided fun resolved => ?_
      rw [opened] at resolved
      cases resolved
  | rewritten marketId market wrote got decided same markets positions =>
    refine ⟨?_, fun key position held => ?_, ?_⟩
    · unfold StakesExact
      rw [markets]
      refine forall_set (fun other found present => ?_) ?_
      · rw [stakes_congr positions, stakes_congr positions]
        exact wagered.exact other found present
      · rw [stakes_congr positions, stakes_congr positions, same.1, same.2]
        exact wagered.exact marketId market got
    · obtain ⟨side, pos, own, other, found⟩ :=
        wagered.placed key position (positions ▸ held)
      refine ⟨side, pos, own, ?_⟩
      rw [markets, get_set]
      split
      · exact ⟨wrote, rfl⟩
      · exact ⟨other, found⟩
    · rw [markets]
      exact forall_set wagered.decided decided
  | bet trader marketId outcome _ pos side market wrote position got opened accumulated
      added markets positions =>
    obtain ⟨rfl, same⟩ := accumulatePosition_eq
      (fun held found => (wagered.placed _ held found).2.2.1) accumulated
    have before : 0 ≤ (state.positions.get (marketId, trader)).elim 0 Position.stake := by
      cases held : state.positions.get (marketId, trader) with
      | none => exact le_rfl
      | some position => exact (wagered.placed _ position held).2.1.le
    have moved := stakes_bet same rfl positions
    have wrote := addStake_eq added
    refine ⟨fun other found present => ?_, ?_, ?_⟩
    · rw [markets, get_set] at present
      rw [moved, moved]
      split at present
      · next here =>
        cases present
        subst here
        obtain ⟨yes, no⟩ := wagered.exact other market got
        rw [wrote, ← yes, ← no]
        have cases : outcome = 0 ∨ outcome = 1 := by omega
        rcases cases with rfl | rfl
        · simp
        · simp
      · next others =>
        have apart : ∀ index, (other, index) ≠ (marketId, outcome) :=
          fun index equal => others (Prod.mk.inj equal).1
        rw [if_neg (apart 1), if_neg (apart 0), add_zero, add_zero]
        exact wagered.exact other found present
    · have kept : ∀ key, (∃ found, state.markets.get key = some found) →
          ∃ found, next.markets.get key = some found := by
        rintro key ⟨found, present⟩
        rw [markets, get_set]
        split
        · exact ⟨_, rfl⟩
        · exact ⟨found, present⟩
      rw [positions]
      refine forall_set (fun key held placed => ?_) ?_
      · obtain ⟨low, staked, own, listed⟩ := wagered.placed key held placed
        exact ⟨low, staked, own, kept _ listed⟩
      · exact ⟨side, add_pos_of_nonneg_of_pos before pos, rfl, kept marketId ⟨market, got⟩⟩
    · rw [markets]
      refine forall_set wagered.decided fun resolved => ?_
      have status : market.status = .resolved := by
        rw [← resolved, wrote]
        split <;> rfl
      rw [opened] at status
      cases status

variable {market : Market Address} {payout : Address → Int}

/-- The payouts of all traders with a position are computed. -/
def Computed (state : State Address) (marketId : Nat) (payout : Address → Int) : Prop :=
  ∀ trader position, state.positions.get (marketId, trader) = some position →
    calculatePayout state marketId trader = .ok (payout trader)

variable {winner : Nat}

section

variable (wagered : Wagered state)
include wagered

theorem Wagered.payouts_cancelled (got : state.markets.get marketId = some market)
    (cancelled : market.status = .cancelled) (eq : Computed state marketId payout) :
    state.payouts marketId payout = market.totalYesStake + market.totalNoStake := by
  obtain ⟨yes, no⟩ := wagered.exact marketId market got
  rw [yes, no, stakes, stakes, FiniteMap.groupTotal, FiniteMap.groupTotal, ←
    total_add]
  apply total_congr
  intro key position placed
  by_cases here : key.1 = marketId
  · subst here
    obtain ⟨_, -⟩ := wagered.placed key position placed
    have refund := eq key.2 position placed
    simp only [calculatePayout, getMarket, got, call_ok, Option.some.injEq,
      exists_eq_left', cancelled, ↓reduceIte, Prod.mk.eta, placed] at refund
    have cases : position.outcome = 0 ∨ position.outcome = 1 := by omega
    rcases cases with zero | one
    · simp [sideOf, zero, refund]
    · simp [sideOf, one, refund]
  · simp [sideOf, here]

theorem Wagered.winningPool_eq
    (got : state.markets.get marketId = some market) (side : winner ≤ 1) :
    (if winner = 1 then market.totalYesStake else market.totalNoStake) =
      state.stakes marketId winner := by
  obtain ⟨yes, no⟩ := wagered.exact marketId market got
  have cases : winner = 0 ∨ winner = 1 := by omega
  rcases cases with rfl | rfl
  · exact no
  · exact yes

theorem Wagered.stake_le {key : Nat × Address} (placed : state.positions.get key = some position) :
    position.stake ≤ state.stakes key.1 position.outcome :=
  weight_le_groupTotal
    (fun other held found _ => (wagered.placed other held found).2.1.le) placed rfl

theorem Wagered.payouts_resolved (got : state.markets.get marketId = some market)
    (resolved : market.status = .resolved) (decided : market.winningOutcome = some winner)
    (eq : Computed state marketId payout) :
    state.payouts marketId payout = state.positions.groupTotal sideOf
      (fun position => (market.totalYesStake + market.totalNoStake) * position.stake /
        state.stakes marketId winner) (marketId, winner) := by
  apply total_congr
  intro key position placed
  by_cases here : key.1 = marketId
  · subst here
    obtain ⟨side, pos, -⟩ := wagered.placed key position placed
    have paid := eq key.2 position placed
    simp only [calculatePayout, getMarket, got, call_ok, Option.some.injEq,
      exists_eq_left', resolved, reduceCtorEq, ↓reduceIte, decided, Prod.mk.eta, placed,
      true_and] at paid
    by_cases won : position.outcome = winner
    · subst won
      rw [wagered.winningPool_eq got side] at paid
      have pool := pos.trans_le (wagered.stake_le placed)
      rw [if_neg (not_not.mpr rfl)] at paid
      simp only [bind_eq_ok, arith_ok] at paid
      obtain ⟨-, divided⟩ := paid
      rw [if_neg pool.ne'] at divided
      obtain ⟨-, -, -, share⟩ := mulDivFloor_eq divided
      rw [if_pos rfl, share, mul_comm]
      exact (if_pos rfl).symm
    · rw [if_pos won] at paid
      have lost := pure_eq_ok.mp paid
      simp [sideOf, won, ← lost]
  · simp [sideOf, here]

theorem Wagered.stakes_nonneg (outcome : Nat) : 0 ≤ state.stakes marketId outcome := by
  unfold stakes FiniteMap.groupTotal
  apply total_nonneg
  intro key position placed
  split
  · exact (wagered.placed key position placed).2.1.le
  · exact le_rfl

end

/-- The parts of the traders on the winning outcome are within both totals, and short of them by
less than one for each of these traders when there are any. -/
theorem Wagered.payouts_bounds (wagered : Wagered state)
    (got : state.markets.get marketId = some market) (resolved : market.status = .resolved)
    (decided : market.winningOutcome = some winner) (eq : Computed state marketId payout) :
    state.payouts marketId payout ≤ market.totalYesStake + market.totalNoStake ∧
      ∀ key position, state.positions.get key = some position →
        sideOf key position = (marketId, winner) →
        market.totalYesStake + market.totalNoStake <
          state.payouts marketId payout + state.backers marketId winner := by
  have backed : ∀ key position, state.positions.get key = some position →
      sideOf key position = (marketId, winner) → 0 < state.stakes marketId winner := by
    intro key position placed side
    cases side
    exact (wagered.placed key position placed).2.1.trans_le (wagered.stake_le placed)
  obtain ⟨yes, no⟩ := wagered.exact marketId market got
  have total : 0 ≤ market.totalYesStake + market.totalNoStake := by
    rw [yes, no]
    exact add_nonneg (wagered.stakes_nonneg 1) (wagered.stakes_nonneg 0)
  rw [wagered.payouts_resolved got resolved decided eq]
  generalize market.totalYesStake + market.totalNoStake = whole at *
  constructor
  · rcases (wagered.stakes_nonneg winner).eq_or_lt with none | pool
    · rw [groupTotal_eq_zero fun key position placed side =>
        (backed key position placed side).ne none]
      exact total
    · have parts : state.positions.groupTotal sideOf
          (fun position => whole * position.stake / state.stakes marketId winner)
          (marketId, winner) ≤
            whole * state.stakes marketId winner / state.stakes marketId winner :=
        groupTotal_parts_le whole pool
      rwa [Int.mul_ediv_cancel _ pool.ne'] at parts
  · intro key position placed side
    have pool := backed key position placed side
    have parts : whole * state.stakes marketId winner < state.stakes marketId winner *
        (state.positions.groupTotal sideOf
          (fun position => whole * position.stake / state.stakes marketId winner)
          (marketId, winner) + state.backers marketId winner) :=
      lt_groupTotal_parts whole pool placed side
    rw [mul_comm] at parts
    exact lt_of_mul_lt_mul_left parts pool.le

omit [DecidableEq Address] in
theorem wagered_initial [DecidableEq Address] (ledger : TokenLedger Address) :
    Wagered ({ ledger } : State Address) :=
  ⟨nofun, nofun, nofun⟩

theorem wagered_of_reachable {ledger : TokenLedger Address} {state : State Address}
    (reached : (machine tokens contract).Reachable { ledger } state) : Wagered state := by
  obtain ⟨calls, rfl⟩ := reached
  have keeps : ∀ (state : State Address) call next, Sound contract state ∧ Wagered state →
      (machine tokens contract).exec state call = .ok next → Sound contract next ∧ Wagered next :=
    fun state call next both ran =>
      ⟨exec_sound state call next both.1 ran,
        (dispatch_bets both.1 ran).wagered both.1 both.2⟩
  exact (run_invariant keeps ⟨initial_sound ledger, wagered_initial ledger⟩ calls).2

/-- Accounts 2 and 3 bet 100 and 50 on the first outcome, account 4 bets 70 on the other one, and
the oracle resolves the market for the first. -/
def threeBets : List (Env Nat 0 × Operation Nat) :=
  [(signedEnv, .initializeMarkets 1), (signedEnv, .createMarket 2 "Will it rain?" 0 100 1),
    (signedEnv, .placeBet 2 1 1 100), (signedEnv, .placeBet 3 1 1 50),
    (signedEnv, .placeBet 4 1 0 70), (signedEnv, .resolveMarket 1 1)]

def bettedMarket : Market Nat :=
  { id := 1, creator := 2, question := "Will it rain?", marketType := .binary, status := .resolved,
    resolutionDeadline := 100, oracle := 1, winningOutcome := some 1, totalYesStake := 150,
    totalNoStake := 70, createdAt := 0 }

end SorobanPlayground.PredictionMarket
