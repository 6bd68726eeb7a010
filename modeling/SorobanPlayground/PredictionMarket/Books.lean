import SorobanPlayground.PredictionMarket.Contract

/-! # The books of conditional markets

The books of a market relate its record to the balances of all owners: the liquidity
shares are those of all providers, and the shares of an outcome, in the reserve or
with their owners, match the locked collateral. Every call of an owner on one market
is described once (`Reworked`): what it adds to the reserves, to the owner's shares
and to the collateral, and that it does not dilute the liquidity shares. A call of
that kind keeps the books of all markets (`Reworked.sound`).
-/

namespace SorobanPlayground.PredictionMarket

open State

variable {Address : Type} [DecidableEq Address] {contract : Address} (state : State Address)

/-- The shares of an outcome with all their owners. -/
def State.outcomeSum (id outcome : Nat) : Int :=
  state.outcomeBalances.total fun key balance =>
    if key.1 = id ∧ key.2.2 = outcome then balance else 0

def State.liquiditySum (id : Nat) : Int :=
  state.liquidityBalances.total fun key balance => if key.1 = id then balance else 0

def State.lockedSum (token : Address) : Int :=
  state.conditionalMarkets.total fun _ conditional =>
    if token = conditional.collateralToken then conditional.collateralLocked else 0

def State.isOpen (id : Nat) : Bool :=
  (state.markets.get id).any fun market => decide (market.status = .opened)

/-- Whether a market takes its collateral in a token. -/
def State.uses (id : Nat) (token : Address) : Bool :=
  (state.conditionalMarkets.get id).any fun conditional =>
    decide (conditional.collateralToken = token)

/-- The bond in a token that a resolution has pending. -/
def State.bondOf (token : Address) (id : Nat) (proposal : ResolutionProposal Address) : Int :=
  if proposal.disputer.isSome = true ∧ state.isOpen id = true ∧ state.uses id token = true then
    proposal.disputeBond
  else 0

/-- The bonds in a token of the disputed markets that are still open. -/
def State.bondSum (token : Address) : Int := state.resolutions.total (state.bondOf token)

variable {state : State Address}

/-- Nonnegative entries under known market ids. -/
def Holdings {Holder : Type} [DecidableEq Holder] (marketCount : Nat)
    (balances : FiniteMap (Nat × Holder) Int) : Prop :=
  ∀ key (balance : Int), balances.get key = some balance → key.1 ≤ marketCount ∧ 0 ≤ balance

theorem outcomeSum_setOutcomeBalance (id : Nat) (owner : Address) (outcome : Nat)
    (balance : Int) (other index : Nat) :
    (state.setOutcomeBalance id owner outcome balance).outcomeSum other index =
      state.outcomeSum other index + if other = id ∧ index = outcome then
        balance - state.getOutcomeBalance id owner outcome else 0 := by
  unfold outcomeSum setOutcomeBalance getOutcomeBalance
  rw [total_set_getD _ _ _ _ 0 (by simp)]
  by_cases same : other = id ∧ index = outcome
  · obtain ⟨rfl, rfl⟩ := same
    simp only [and_self, ↓reduceIte]
    omega
  · have ne : ¬ (id = other ∧ outcome = index) := by
      rintro ⟨first, second⟩
      exact same ⟨first.symm, second.symm⟩
    simp only [if_neg same, if_neg ne]
    omega

theorem liquiditySum_setLiquidityBalance (id : Nat) (owner : Address) (balance : Int)
    (other : Nat) :
    (state.setLiquidityBalance id owner balance).liquiditySum other =
      state.liquiditySum other + if other = id then
        balance - state.getLiquidityBalance id owner else 0 := by
  unfold liquiditySum setLiquidityBalance getLiquidityBalance
  rw [total_set_getD _ _ _ _ 0 (by simp)]
  by_cases same : other = id
  · omega
  · omega

variable {marketCount id : Nat}

theorem outcomeSum_of_fresh {outcome : Nat} (holdings : Holdings marketCount state.outcomeBalances)
    (fresh : marketCount < id) : state.outcomeSum id outcome = 0 := by
  refine total_eq_zero _ fun key balance got => if_neg ?_
  rintro ⟨rfl, -⟩
  exact absurd (holdings key balance got).1 (not_le.mpr fresh)

theorem liquiditySum_of_fresh (holdings : Holdings marketCount state.liquidityBalances)
    (fresh : marketCount < id) : state.liquiditySum id = 0 := by
  refine total_eq_zero _ fun key balance got => if_neg ?_
  rintro rfl
  exact absurd (holdings key balance got).1 (not_le.mpr fresh)

theorem Holdings.nonneg {Holder : Type} [DecidableEq Holder]
    {balances : FiniteMap (Nat × Holder) Int} (holdings : Holdings marketCount balances)
    (key : Nat × Holder) : 0 ≤ (balances.get key).getD 0 := by
  cases got : balances.get key with
  | none => exact le_rfl
  | some balance => exact (holdings key balance got).2

theorem getLiquidityBalance_le (holdings : Holdings marketCount state.liquidityBalances) (id : Nat)
    (owner : Address) : state.getLiquidityBalance id owner ≤ state.liquiditySum id := by
  have nonneg : ∀ key balance, state.liquidityBalances.get key = some balance →
      0 ≤ if key.1 = id then balance else 0 := by
    intro key balance got
    split_ifs
    · exact (holdings key balance got).2
    · exact le_rfl
  unfold getLiquidityBalance liquiditySum
  cases got : state.liquidityBalances.get (id, owner) with
  | none => exact total_nonneg nonneg
  | some =>
    have single := weight_le_total nonneg got
    rwa [if_pos rfl] at single

theorem outcomeSum_nonneg (holdings : Holdings marketCount state.outcomeBalances) (id outcome : Nat)
    :
    0 ≤ state.outcomeSum id outcome := by
  apply total_nonneg
  intro key balance got
  split_ifs
  · exact (holdings key balance got).2
  · exact le_rfl

/-- The state after adding to an owner's balance of each of the first outcomes. -/
def State.credited (state : State Address) (id : Nat) (owner : Address) (gained : Nat → Int) :
    Nat → State Address
  | 0 => state
  | outcome + 1 =>
      (state.credited id owner gained outcome).setOutcomeBalance id owner outcome
        ((state.credited id owner gained outcome).getOutcomeBalance id owner outcome +
          gained outcome)

variable {owner : Address} {gained : Nat → Int}

theorem credited_eq (count : Nat) : state.credited id owner gained count =
    { state with outcomeBalances := (state.credited id owner gained count).outcomeBalances } := by
  induction count with
  | zero => rfl
  | succ _ ih =>
    unfold credited
    rw [ih]
    rfl

theorem credited_frame (count : Nat) :
    (state.credited id owner gained count).markets = state.markets ∧
      (state.credited id owner gained count).marketCount = state.marketCount ∧
      (state.credited id owner gained count).conditionalMarkets = state.conditionalMarkets ∧
      (state.credited id owner gained count).liquidityBalances = state.liquidityBalances ∧
      (state.credited id owner gained count).resolutions = state.resolutions ∧
      (state.credited id owner gained count).ledger = state.ledger := by
  rw [credited_eq]
  exact ⟨rfl, rfl, rfl, rfl, rfl, rfl⟩

theorem outcomeSum_credited (count other index : Nat) :
    (state.credited id owner gained count).outcomeSum other index =
      state.outcomeSum other index + if other = id ∧ index < count then gained index else 0 := by
  induction count with
  | zero => simp [credited]
  | succ count ih =>
    rw [credited, outcomeSum_setOutcomeBalance, ih, add_sub_cancel_left]
    by_cases market : other = id
    · by_cases last : index = count
      · subst last
        simp [market]
      · have range : index < count + 1 ↔ index < count := by omega
        simp [market, last, range]
    · simp [market]

theorem getOutcomeBalance_setOutcomeBalance (outcome : Nat) (balance : Int) (index : Nat) :
    (state.setOutcomeBalance id owner outcome balance).getOutcomeBalance id owner index =
      if index = outcome then balance else state.getOutcomeBalance id owner index := by
  unfold getOutcomeBalance setOutcomeBalance
  rw [get_set]
  by_cases same : index = outcome
  · subst same
    rw [if_pos rfl, if_pos rfl, Option.getD_some]
  · have other : ¬ (id, owner, index) = (id, owner, outcome) := by
      simp only [Prod.mk.injEq, true_and]
      exact same
    rw [if_neg other, if_neg same]

theorem getOutcomeBalance_credited (count outcome : Nat) :
    (state.credited id owner gained count).getOutcomeBalance id owner outcome =
      state.getOutcomeBalance id owner outcome + if outcome < count then gained outcome else 0 := by
  induction count with
  | zero => simp [credited]
  | succ count ih =>
    rw [credited, getOutcomeBalance_setOutcomeBalance]
    by_cases last : outcome = count
    · subst last
      rw [if_pos rfl, if_pos (Nat.lt_succ_self outcome), ih, if_neg (lt_irrefl outcome), add_zero]
    · have range : outcome < count + 1 ↔ outcome < count := by omega
      simp only [if_neg last, ih, range]

variable {count : Nat}

theorem holdings_credited (known : id ≤ marketCount)
    (holdings : Holdings marketCount state.outcomeBalances)
    (covered : ∀ outcome < count, 0 ≤ state.getOutcomeBalance id owner outcome + gained outcome) :
    Holdings marketCount (state.credited id owner gained count).outcomeBalances := by
  induction count with
  | zero => exact holdings
  | succ count ih =>
    have earlier := ih fun outcome inside => covered outcome (by omega)
    have wrote : id ≤ marketCount ∧
        0 ≤ (state.credited id owner gained count).getOutcomeBalance id owner count +
          gained count := by
      rw [getOutcomeBalance_credited, if_neg (lt_irrefl count), add_zero]
      exact ⟨known, covered count (Nat.lt_succ_self count)⟩
    exact forall_set earlier wrote

theorem foldlM_credited {round : State Address → Nat → Outcome Error (State Address)}
    (credits : ∀ reached outcome next, round reached outcome = .ok next →
      next = reached.setOutcomeBalance id owner outcome
        (reached.getOutcomeBalance id owner outcome + gained outcome))
    {final : State Address} (ran : (List.range count).foldlM round state = .ok final) :
    final = state.credited id owner gained count := by
  induction count generalizing final with
  | zero => exact (pure_eq_ok.mp ran).symm
  | succ count ih =>
    rw [List.range_succ, List.foldlM_append] at ran
    obtain ⟨_, earlier, last⟩ := bind_eq_ok.mp ran
    obtain rfl := ih earlier
    obtain ⟨next, credit, done⟩ := bind_eq_ok.mp last
    obtain rfl := pure_eq_ok.mp done
    exact credits _ count next credit

/-- The shares of an outcome are claims on the collateral: those of every outcome
before the resolution, those of the winning one after it. -/
def Market.Pays (market : Market Address) (outcome : Nat) : Prop :=
  market.status = .resolved → market.winningOutcome = some outcome

/-- The phase of a conditional market, and its shares matching its collateral. -/
structure Backed (state : State Address) (id : Nat) (conditional : ConditionalMarket Address)
    (market : Market Address) : Prop where
  live : market.status ≠ .cancelled
  winner : ∀ winner, market.winningOutcome = some winner → winner < conditional.outcomes.length
  decided : market.status = .resolved → market.winningOutcome.isSome = true
  backed : ∀ outcome reserve, conditional.poolBalances[outcome]? = some reserve →
    market.Pays outcome → reserve + state.outcomeSum id outcome = conditional.collateralLocked

structure Booked (state : State Address) (id : Nat) (conditional : ConditionalMarket Address) :
    Prop where
  named : conditional.marketId = id
  several : minOutcomes ≤ conditional.outcomes.length
  sized : conditional.poolBalances.length = conditional.outcomes.length
  reserves : ∀ reserve ∈ conditional.poolBalances, 0 ≤ reserve
  liquidity : conditional.totalLiquidityShares = state.liquiditySum id
  market : ∃ market, state.markets.get id = some market ∧ Backed state id conditional market

structure Sound (contract : Address) (state : State Address) : Prop where
  markets : ∀ id market, state.markets.get id = some market →
    market.id = id ∧ id ≤ state.marketCount
  conditionals : ∀ id conditional, state.conditionalMarkets.get id = some conditional →
    Booked state id conditional
  holdings : Holdings state.marketCount state.outcomeBalances
  providers : Holdings state.marketCount state.liquidityBalances
  proposals : ∀ id proposal, state.resolutions.get id = some proposal →
    ∃ conditional, state.conditionalMarkets.get id = some conditional ∧
      proposal.outcome < conditional.outcomes.length
  covered : ∀ token, state.lockedSum token + state.bondSum token ≤ state.ledger token contract

variable {next : State Address} {conditional : ConditionalMarket Address}

omit [DecidableEq Address] in
theorem Backed.congr {market other : Market Address} (backed : Backed state id conditional market)
    (status : other.status = market.status)
    (winningOutcome : other.winningOutcome = market.winningOutcome)
    (outcomeSum : ∀ outcome, next.outcomeSum id outcome = state.outcomeSum id outcome) :
    Backed next id conditional other where
  live := by rw [status]; exact backed.live
  winner := by rw [winningOutcome]; exact backed.winner
  decided := by rw [status, winningOutcome]; exact backed.decided
  backed := by
    intro outcome reserve got pays
    unfold Market.Pays at pays
    rw [status, winningOutcome] at pays
    rw [outcomeSum]
    exact backed.backed outcome reserve got pays

variable {token : Address}

theorem bondSum_congr (resolutions : next.resolutions = state.resolutions)
    (same : ∀ id proposal, state.resolutions.get id = some proposal →
      next.bondOf token id proposal = state.bondOf token id proposal) :
    next.bondSum token = state.bondSum token := by
  unfold bondSum
  rw [resolutions]
  exact total_congr _ same

omit [DecidableEq Address] in
theorem isOpen_congr (markets : next.markets.get id = state.markets.get id) :
    next.isOpen id = state.isOpen id := by
  unfold isOpen
  rw [markets]

theorem bondOf_congr {proposal : ResolutionProposal Address}
    (markets : next.markets.get id = state.markets.get id)
    (conditionals : next.conditionalMarkets.get id = state.conditionalMarkets.get id) :
    next.bondOf token id proposal = state.bondOf token id proposal := by
  unfold bondOf uses
  rw [isOpen_congr markets, conditionals]

/-- A conditional market with changed reserves, liquidity shares and collateral. -/
def ConditionalMarket.reworked (conditional : ConditionalMarket Address) (change : Nat → Int)
    (minted locked : Int) : ConditionalMarket Address :=
  ((conditional.withPool (shiftReserves change conditional.poolBalances)).withLiquidity
    (conditional.totalLiquidityShares + minted)).withCollateral
      (conditional.collateralLocked + locked)

/-- The reserves with the liquidity shares. -/
def ConditionalMarket.sharePool (conditional : ConditionalMarket Address) : SharePool Int :=
  { reserves := conditional.poolBalances, shares := conditional.totalLiquidityShares }

/-- What a call of an owner on a conditional market does: it changes the reserves, the
owner's outcome and liquidity shares and the collateral, which moves between the
owner and the contract, and it does not dilute the liquidity shares. -/
structure Reworked (contract owner : Address) (state next : State Address) (id : Nat)
    (conditional : ConditionalMarket Address) (change gained : Nat → Int)
    (minted locked : Int) : Prop where
  stored : state.conditionalMarkets.get id = some conditional
  written : next.conditionalMarkets =
    state.conditionalMarkets.set conditional.marketId (conditional.reworked change minted locked)
  balanced : ∀ market, state.markets.get id = some market →
    ∀ outcome < conditional.outcomes.length, market.Pays outcome →
      change outcome + gained outcome = locked
  reserves : ∀ reserve ∈ shiftReserves change conditional.poolBalances, 0 ≤ reserve
  undiluted : conditional.sharePool.Undiluted (conditional.reworked change minted locked).sharePool
  raised : minted = 0 →
    conditional.poolBalances.prod ≤ (shiftReserves change conditional.poolBalances).prod
  unissued : conditional.totalLiquidityShares = 0 → minted = 0
  balance : ∀ outcome < conditional.outcomes.length, next.getOutcomeBalance id owner outcome =
    state.getOutcomeBalance id owner outcome + gained outcome
  outcomeSum : ∀ other outcome, next.outcomeSum other outcome = state.outcomeSum other outcome +
    if other = id ∧ outcome < conditional.outcomes.length then gained outcome else 0
  liquiditySum : ∀ other, next.liquiditySum other = state.liquiditySum other +
    if other = id then minted else 0
  holdings : Holdings state.marketCount next.outcomeBalances
  providers : Holdings state.marketCount next.liquidityBalances
  markets : next.markets = state.markets
  marketCount : next.marketCount = state.marketCount
  resolutions : next.resolutions = state.resolutions
  received : ∀ token, (next.ledger token contract : Int) = state.ledger token contract +
    if token = conditional.collateralToken then locked else 0
  spent : ∀ token, (next.ledger token owner : Int) = state.ledger token owner -
    if token = conditional.collateralToken then locked else 0

variable {change : Nat → Int} {minted locked : Int}

section

variable (step : Reworked contract owner state next id conditional change gained minted locked)

include step

theorem Reworked.booked (booked : Booked state id conditional) :
    Booked next id (conditional.reworked change minted locked) where
  named := booked.named
  several := booked.several
  sized := List.length_mapIdx.trans booked.sized
  reserves := step.reserves
  liquidity := by
    rw [step.liquiditySum, if_pos rfl, ← booked.liquidity]
    rfl
  market := by
    obtain ⟨market, got, backed⟩ := booked.market
    refine ⟨market, step.markets ▸ got, backed.live, backed.winner, backed.decided, ?_⟩
    intro outcome reserve found pays
    obtain ⟨earlier, here, rfl⟩ := getElem?_shiftReserves found
    have inside : outcome < conditional.outcomes.length := by
      rw [← booked.sized]
      exact (List.getElem?_eq_some_iff.mp here).1
    have before := backed.backed outcome earlier here pays
    have moved := step.balanced market got outcome inside pays
    rw [step.outcomeSum, if_pos ⟨rfl, inside⟩]
    unfold ConditionalMarket.reworked ConditionalMarket.withCollateral
    dsimp only
    omega

theorem Reworked.bookedOther {other : Nat} {unrelated : ConditionalMarket Address} (ne : other ≠ id)
    (booked : Booked state other unrelated) : Booked next other unrelated where
  named := booked.named
  several := booked.several
  sized := booked.sized
  reserves := booked.reserves
  liquidity := by
    rw [step.liquiditySum, if_neg ne, add_zero]
    exact booked.liquidity
  market := by
    obtain ⟨market, got, backed⟩ := booked.market
    refine ⟨market, step.markets ▸ got, backed.congr rfl rfl fun outcome => ?_⟩
    rw [step.outcomeSum, if_neg fun same => ne same.1, add_zero]

theorem Reworked.sound (sound : Sound contract state) : Sound contract next := by
  have booked := sound.conditionals id conditional step.stored
  have wrote := step.written
  rw [booked.named] at wrote
  have uses : ∀ other token, next.uses other token = state.uses other token := by
    intro other token
    unfold uses
    rw [wrote, get_set]
    split_ifs with same
    · rw [same, step.stored]
      rfl
    · rfl
  refine ⟨?_, fun other found got => ?_, ?_, ?_, ?_, fun token => ?_⟩
  · rw [step.markets, step.marketCount]
    exact sound.markets
  · rw [wrote, get_set] at got
    split_ifs at got with same
    · cases got
      exact same ▸ step.booked booked
    · exact step.bookedOther same (sound.conditionals other found got)
  · rw [step.marketCount]
    exact step.holdings
  · rw [step.marketCount]
    exact step.providers
  · intro other proposal pending
    rw [step.resolutions] at pending
    obtain ⟨existing, found, inside⟩ := sound.proposals other proposal pending
    rw [wrote, get_set]
    split_ifs with same
    · subst same
      obtain rfl := Option.mem_unique step.stored found
      exact ⟨_, rfl, inside⟩
    · exact ⟨existing, found, inside⟩
  · have bonds : next.bondSum token = state.bondSum token := by
      apply bondSum_congr step.resolutions
      intro other proposal _
      have opened : next.isOpen other = state.isOpen other := isOpen_congr (by rw [step.markets])
      unfold bondOf
      rw [uses, opened]
    have sum : next.lockedSum token = state.lockedSum token +
        if token = conditional.collateralToken then locked else 0 := by
      unfold lockedSum
      rw [wrote, total_set_of_stored _ step.stored]
      unfold ConditionalMarket.reworked ConditionalMarket.withCollateral
        ConditionalMarket.withLiquidity ConditionalMarket.withPool
      dsimp only
      split_ifs <;> omega
    have covered := sound.covered token
    rw [bonds, sum, step.received]
    omega

end

end SorobanPlayground.PredictionMarket
