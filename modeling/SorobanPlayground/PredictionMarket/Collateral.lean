import SorobanPlayground.PredictionMarket.OwnerCalls

/-! # The collateral of conditional markets

Markets are created, resolved and disputed without moving any shares. So the books
of all conditional markets hold in every state of every run, and the contract holds
the collateral of all markets and the bonds of the disputes that are still open.
-/

namespace SorobanPlayground.PredictionMarket

open Option

variable {Address : Type} [DecidableEq Address] {contract : Address} {state next : State Address}
  {id : Nat} {conditional : ConditionalMarket Address}

omit [DecidableEq Address] in
theorem Booked.congr (booked : Booked state id conditional)
    (outcomeSum : ∀ outcome, next.outcomeSum id outcome = state.outcomeSum id outcome)
    (liquiditySum : next.liquiditySum id = state.liquiditySum id)
    (market : ∃ market, next.markets.get id = some market ∧ Backed state id conditional market) :
    Booked next id conditional where
  named := booked.named
  several := booked.several
  sized := booked.sized
  reserves := booked.reserves
  liquidity := booked.liquidity.trans liquiditySum.symm
  market := by
    obtain ⟨market, got, backed⟩ := market
    exact ⟨market, got, backed.congr rfl rfl outcomeSum⟩

/-- A market is rewritten under its id, and nothing else that the books read. -/
structure Rewritten (state next : State Address) (id : Nat) (later : Market Address) : Prop where
  markets : next.markets = state.markets.set id later
  named : later.id = id
  conditionals : next.conditionalMarkets = state.conditionalMarkets
  outcomeBalances : next.outcomeBalances = state.outcomeBalances
  liquidityBalances : next.liquidityBalances = state.liquidityBalances
  resolutions : next.resolutions = state.resolutions

variable {later : Market Address}

omit [DecidableEq Address] in
theorem rewritten_setMarket (named : later.id = id) :
    Rewritten state (state.setMarket later) id later :=
  ⟨by rw [← named]; rfl, named, rfl, rfl, rfl, rfl⟩

theorem Rewritten.bondOf {later : Market Address} (wrote : Rewritten state next id later)
    (token : Address) {other : Nat} (ne : other ≠ id) (proposal : ResolutionProposal Address) :
    next.bondOf token other proposal = state.bondOf token other proposal := by
  unfold State.bondOf State.isOpen State.uses
  rw [wrote.markets, wrote.conditionals, get_set_of_ne _ _ ne]

theorem Rewritten.sound {later : Market Address} (wrote : Rewritten state next id later)
    (sound : Sound contract state) (known : id ≤ next.marketCount)
    (counted : state.marketCount ≤ next.marketCount)
    (backed : ∀ conditional, state.conditionalMarkets.get id = some conditional →
      Backed state id conditional later)
    (covered : ∀ token, state.lockedSum token + next.bondSum token ≤ next.ledger token contract) :
    Sound contract next := by
  refine ⟨fun other market got => ?_, fun other unrelated got => ?_, ?_, ?_, ?_, ?_⟩
  · rw [wrote.markets, get_set] at got
    split_ifs at got with same
    · cases got
      exact ⟨wrote.named.trans same.symm, same ▸ known⟩
    · obtain ⟨named, inside⟩ := sound.markets other market got
      exact ⟨named, inside.trans counted⟩
  · rw [wrote.conditionals] at got
    have booked := sound.conditionals other unrelated got
    refine booked.congr (fun outcome => congrArg (FiniteMap.total · _) wrote.outcomeBalances)
      (congrArg (FiniteMap.total · _) wrote.liquidityBalances) ?_
    rw [wrote.markets, get_set]
    split_ifs with same
    · subst same
      exact ⟨later, rfl, backed unrelated got⟩
    · exact booked.market
  · rw [wrote.outcomeBalances]
    exact fun key balance found =>
      (sound.holdings key balance found).imp_left fun inside => inside.trans counted
  · rw [wrote.liquidityBalances]
    exact fun key balance found =>
      (sound.providers key balance found).imp_left fun inside => inside.trans counted
  · rw [wrote.resolutions, wrote.conditionals]
    exact sound.proposals
  · intro token
    unfold State.lockedSum
    rw [wrote.conditionals]
    exact covered token

variable {token : Address}

theorem Rewritten.bondSum {later : Market Address} (wrote : Rewritten state next id later)
    (same : ∀ proposal, state.resolutions.get id = some proposal →
      next.bondOf token id proposal = state.bondOf token id proposal) :
    next.bondSum token = state.bondSum token := by
  apply bondSum_congr wrote.resolutions
  intro other proposal pending
  by_cases current : other = id
  · subst current
    exact same proposal pending
  · exact wrote.bondOf token current proposal

theorem Rewritten.sound_of_plain (wrote : Rewritten state next id later)
    (sound : Sound contract state) (known : id ≤ next.marketCount)
    (counted : state.marketCount ≤ next.marketCount)
    (plain : state.conditionalMarkets.get id = none) (ledger : next.ledger = state.ledger) :
    Sound contract next := by
  refine wrote.sound sound known counted (fun conditional got => ?_) fun token => ?_
  · rw [plain] at got
    cases got
  · have bonds : next.bondSum token = state.bondSum token := by
      apply wrote.bondSum
      intro proposal _
      unfold State.bondOf State.uses
      rw [wrote.conditionals, plain]
      simp only [any_none, Bool.false_eq_true, and_false, ↓reduceIte]
    rw [bonds, ledger]
    exact sound.covered token

theorem Sound.fresh (sound : Sound contract state) (beyond : state.marketCount < id) :
    state.conditionalMarkets.get id = none := by
  by_contra here
  obtain ⟨_, got⟩ := ne_none_iff_exists'.mp here
  exact absurd (sound.known got) (not_le.mpr beyond)

variable {tokens : TokenHost Address} {env : Env Address contract} {marketId : Nat} {outcome : Nat}

section

variable (sound : Sound contract state)
include sound

theorem createMarket_sound {creator oracle : Address} {question : String}
    {marketType resolutionDeadline id : Nat}
    (ran : createMarket env creator question marketType resolutionDeadline oracle state =
      .ok (id, next)) : Sound contract next := by
  simp only [createMarket, incrementMarketCount, call_ok, arith_ok] at ran
  obtain ⟨-, -, _, -, _, -, -, rfl, rfl⟩ := ran
  have fresh := sound.fresh (Nat.lt_succ_self state.marketCount)
  exact Rewritten.sound_of_plain ⟨rfl, rfl, rfl, rfl, rfl, rfl⟩ sound le_rfl (Nat.le_succ _)
    fresh rfl

theorem placeBet_sound {trader : Address} {stake : Int}
    (ran : placeBet env trader marketId outcome stake state = .ok next) : Sound contract next := by
  simp only [placeBet, State.getMarket, bind_eq_ok, orError_eq_ok, pure_eq_ok] at ran
  obtain ⟨_, -, _, -, _, -, _, -, market, found, _, -, _, -, position, -, later, staked,
    rfl⟩ := ran
  have same : later.id = market.id ∧ later.status = market.status ∧
      later.winningOutcome = market.winningOutcome := by
    unfold addStake at staked
    split_ifs at staked
    all_goals
      obtain ⟨_, -, staked⟩ := bind_eq_ok.mp staked
      cases staked
      exact ⟨rfl, rfl, rfl⟩
  obtain ⟨named, status, winningOutcome⟩ := same
  obtain ⟨own, known⟩ := sound.markets marketId market found
  have wrote : Rewritten state ((state.setPosition position).setMarket later) marketId later :=
    ⟨by rw [← own, ← named]; rfl, named.trans own, rfl, rfl, rfl, rfl⟩
  refine wrote.sound sound known le_rfl (fun conditional got => ?_) fun token => ?_
  · obtain ⟨_, here, backed⟩ := (sound.conditionals marketId conditional got).market
    cases found.symm.trans here
    exact backed.congr status winningOutcome fun _ => rfl
  · have bonds : State.bondSum ((state.setPosition position).setMarket later) token =
        state.bondSum token := by
      apply wrote.bondSum
      intro proposal _
      unfold State.bondOf State.isOpen
      rw [wrote.markets, get_set_self, found]
      simp only [any_some, status]
      rfl
    rw [bonds]
    exact sound.covered token

theorem resolveMarket_sound {winningOutcome : Nat}
    (ran : resolveMarket env marketId winningOutcome state = .ok next) : Sound contract next := by
  simp only [resolveMarket, State.getMarket, call_ok] at ran
  obtain ⟨_, -, market, found, plain, -, -, -, -, rfl⟩ := ran
  obtain ⟨own, known⟩ := sound.markets marketId market found
  refine Rewritten.sound_of_plain (rewritten_setMarket ?_) sound known le_rfl
    (has_eq_false.mp plain) rfl
  exact own

theorem cancelMarket_sound
    (ran : cancelMarket env marketId state = .ok next) : Sound contract next := by
  simp only [cancelMarket, State.getMarket, call_ok] at ran
  obtain ⟨_, -, _, -, market, found, plain, -, -, -, rfl⟩ := ran
  obtain ⟨own, known⟩ := sound.markets marketId market found
  refine Rewritten.sound_of_plain (rewritten_setMarket ?_) sound known le_rfl
    (has_eq_false.mp plain) rfl
  exact own

end

variable {market : Market Address}

omit [DecidableEq Address] in
theorem Backed.resolve {id outcome : Nat} (backed : Backed state id conditional market)
    (opened : market.status = .opened) (inside : outcome < conditional.outcomes.length) :
    Backed state id conditional (market.resolve outcome) where
  live := nofun
  winner := by
    rintro _ ⟨⟩
    exact inside
  decided := fun _ => rfl
  backed := by
    intro index reserve got _
    apply backed.backed index reserve got
    intro resolved
    rw [opened] at resolved
    cases resolved

variable {proposal : ResolutionProposal Address}

theorem bondOf_undisputed {id : Nat}
    (undisputed : proposal.disputer.isSome = false) : state.bondOf token id proposal = 0 := by
  unfold State.bondOf
  rw [undisputed, if_neg fun pending => Bool.false_ne_true pending.1]

theorem finalizeResolution_sound (sound : Sound contract state)
    (ran : finalizeResolution env marketId state = .ok next) : Sound contract next := by
  simp only [finalizeResolution, State.getMarket, call_ok] at ran
  obtain ⟨_, -, market, found, opened, _, -, proposal, pending, undisputed, -, rfl⟩ := ran
  obtain ⟨own, known⟩ := sound.markets marketId market found
  have wrote : Rewritten state (state.setMarket (market.resolve proposal.outcome)) marketId
      (market.resolve proposal.outcome) := rewritten_setMarket own
  refine wrote.sound sound known le_rfl (fun conditional got => ?_) fun token => ?_
  · obtain ⟨_, here, backed⟩ := (sound.conditionals marketId conditional got).market
    cases found.symm.trans here
    obtain ⟨_, same, inside⟩ := sound.proposals marketId proposal pending
    cases got.symm.trans same
    exact backed.resolve opened inside
  · have bonds : (state.setMarket (market.resolve proposal.outcome)).bondSum token =
        state.bondSum token := by
      apply wrote.bondSum
      intro other same
      cases pending.symm.trans same
      rw [bondOf_undisputed undisputed, bondOf_undisputed undisputed]
    rw [bonds]
    exact sound.covered token

theorem bondOf_disputed {proposal : ResolutionProposal Address} {challenger : Address}
    (got : state.conditionalMarkets.get marketId = some conditional)
    (found : state.markets.get marketId = some market) (opened : market.status = .opened)
    (disputed : proposal.disputer = some challenger) (token : Address) :
    state.bondOf token marketId proposal =
      if token = conditional.collateralToken then proposal.disputeBond else 0 := by
  unfold State.bondOf State.isOpen State.uses
  rw [got, found, disputed]
  simp [opened, eq_comm]

theorem resolveDispute_sound {finalOutcome : Nat} (sound : Sound contract state)
    (ran : resolveDispute tokens env marketId finalOutcome state = .ok next) :
    Sound contract next := by
  simp only [resolveDispute, State.getMarket, State.getConditionalMarket, validateOutcome,
    call_ok] at ran
  obtain ⟨_, -, market, found, opened, conditional, got, -, inside, proposal, pending,
    _, disputed, ledger, paid, rfl⟩ := ran
  obtain ⟨own, known⟩ := sound.markets marketId market found
  have wrote : Rewritten state ((state.setMarket (market.resolve finalOutcome)).withLedger ledger)
      marketId (market.resolve finalOutcome) := ⟨by rw [← own]; rfl, own, rfl, rfl, rfl, rfl⟩
  refine wrote.sound sound known le_rfl (fun other same => ?_) fun token => ?_
  · cases got.symm.trans same
    obtain ⟨_, here, backed⟩ := (sound.conditionals marketId conditional got).market
    cases found.symm.trans here
    exact backed.resolve opened (not_le.mp inside)
  · have settled : State.bondOf ((state.setMarket (market.resolve finalOutcome)).withLedger ledger)
        token marketId proposal = 0 := by
      unfold State.bondOf State.isOpen
      rw [wrote.markets, get_set_self]
      exact if_neg fun pending => Bool.false_ne_true pending.2.1
    have bonds : State.bondSum ((state.setMarket (market.resolve finalOutcome)).withLedger ledger)
        token = state.bondSum token - FiniteMap.weightAt _ marketId _ +
          FiniteMap.weightAt _ marketId _ :=
      state.resolutions.total_reweigh marketId fun other proposal ne _ =>
        (wrote.bondOf token ne proposal).symm
    rw [pending, weightAt_some, weightAt_some, settled, bondOf_disputed got
      found opened disputed] at bonds
    have left : (state.ledger token contract : Int) -
      (if token = conditional.collateralToken then proposal.disputeBond else 0) ≤
        ledger token contract := pay_leaves paid token
    have covered := sound.covered token
    exact le_trans (by omega) left

/-- A resolution is written, and nothing else that the books read but balances of
tokens. -/
theorem setResolution_sound {ledger : TokenLedger Address} (sound : Sound contract state)
    (got : state.conditionalMarkets.get marketId = some conditional)
    (inside : proposal.outcome < conditional.outcomes.length)
    (covered : ∀ token, state.lockedSum token +
      ((state.setResolution marketId proposal).withLedger ledger).bondSum token ≤
      ledger token contract) :
    Sound contract ((state.setResolution marketId proposal).withLedger ledger) := by
  refine ⟨sound.markets, fun id other found => ?_, sound.holdings, sound.providers, ?_, covered⟩
  · have booked := sound.conditionals id other found
    exact booked.congr (fun _ => rfl) rfl booked.market
  · have wrote : ∃ conditional, state.conditionalMarkets.get marketId = some conditional ∧
        proposal.outcome < conditional.outcomes.length := ⟨conditional, got, inside⟩
    exact forall_set sound.proposals wrote

theorem bondSum_setResolution (proposal : ResolutionProposal Address)
    (ledger : TokenLedger Address) (token : Address) :
    ((state.setResolution marketId proposal).withLedger ledger).bondSum token =
      state.bondSum token -
        FiniteMap.weightAt (state.bondOf token) marketId (state.resolutions.get marketId) +
        state.bondOf token marketId proposal :=
  total_set state.resolutions (state.bondOf token) marketId proposal

section

variable (sound : Sound contract state)

include sound

theorem proposeResolution_sound
    (ran : proposeResolution env marketId outcome state = .ok next) : Sound contract next := by
  simp only [proposeResolution, State.getMarket, State.getConditionalMarket, validateOutcome,
    call_ok, arith_ok] at ran
  obtain ⟨-, _, _, _, -, _, _, got, inside, -, fresh, _, -, rfl⟩ := ran
  rw [isSome_eq_false_iff, isNone_iff_eq_none] at fresh
  apply setResolution_sound sound got (not_le.mp inside)
  intro token
  rw [bondSum_setResolution, fresh, weightAt_none, bondOf_undisputed rfl, sub_zero, add_zero]
  exact sound.covered token

theorem disputeResolution_sound {challenger : Address} {bond : Int}
    (ran : disputeResolution tokens env challenger marketId bond state = .ok next) :
    Sound contract next := by
  simp only [disputeResolution, State.getMarket, State.getConditionalMarket, call_ok] at ran
  obtain ⟨_, -, signed, -, _, found, opened, _, got, proposal, pending, -,
    undisputed, -, _, paid, rfl⟩ := ran
  obtain ⟨_, same, inside⟩ := sound.proposals marketId proposal pending
  cases got.symm.trans same
  refine setResolution_sound sound got inside fun token => ?_
  have covered := sound.covered token
  rw [bondSum_setResolution, pending, weightAt_some, bondOf_undisputed undisputed,
    bondOf_disputed got found opened rfl, pay_credits paid (env.ne_contract
    signed)]
  dsimp only
  omega

theorem covered_fresh {later : Nat} (fresh : state.conditionalMarkets.get later = none)
    (conditionals : next.conditionalMarkets = state.conditionalMarkets.set later conditional)
    (markets : next.markets = state.markets.set later market)
    (resolutions : next.resolutions = state.resolutions)
    (received : (next.ledger token contract : Int) = state.ledger token contract +
      if token = conditional.collateralToken then conditional.collateralLocked else 0) :
    next.lockedSum token + next.bondSum token ≤ next.ledger token contract := by
  have locked : next.lockedSum token = state.lockedSum token +
      if token = conditional.collateralToken then conditional.collateralLocked else 0 := by
    unfold State.lockedSum
    rw [conditionals, total_set, fresh, weightAt_none, sub_zero]
  have bonds : next.bondSum token = state.bondSum token := by
    apply bondSum_congr resolutions
    intro other proposal pending
    obtain ⟨_, got, -⟩ := sound.proposals other proposal pending
    have ne : other ≠ later := by
      rintro rfl
      exact absurd got (by rw [fresh]; nofun)
    refine bondOf_congr ?_ ?_
    · rw [markets, get_set_of_ne _ _ ne]
    · rw [conditionals, get_set_of_ne _ _ ne]
  have covered := sound.covered token
  omega

theorem createConditionalMarket_sound {creator oracle disputeResolver collateralToken : Address}
    {question : String} {marketType : MarketType} {outcomes : List String}
    {resolutionDeadline disputeWindow id : Nat} {initialLiquidity : Int}
    (ran : createConditionalMarket tokens env creator question marketType outcomes
      resolutionDeadline oracle disputeResolver collateralToken disputeWindow initialLiquidity
      state = .ok (id, next)) : Sound contract next := by
  simp only [createConditionalMarket, incrementMarketCount, call_ok, arith_ok] at ran
  obtain ⟨_, -, signed, -, count, -, -, deposit, _, paid, -, rfl,
    rfl⟩ := ran
  have outsider := env.ne_contract signed
  have beyond : state.marketCount < state.marketCount + 1 := Nat.lt_succ_self _
  have fresh := sound.fresh beyond
  have noProvider : state.liquidityBalances.get (state.marketCount + 1, creator) = none := by
    by_contra here
    obtain ⟨balance, got⟩ := ne_none_iff_exists'.mp here
    exact absurd (sound.providers _ balance got).1 (Nat.not_succ_le_self _)
  have minted : ∀ other, (state.setLiquidityBalance (state.marketCount + 1) creator
      initialLiquidity).liquiditySum other =
      state.liquiditySum other + if other = state.marketCount + 1 then initialLiquidity else 0 := by
    intro other
    rw [liquiditySum_setLiquidityBalance, State.getLiquidityBalance, noProvider, getD_none,
      sub_zero]
  refine ⟨?_, ?_, ?_, ?_, ?_, fun token => ?_⟩
  · refine forall_set (fun other market got => ?_) ⟨rfl, le_rfl⟩
    exact (sound.markets other market got).imp_right fun inside => inside.trans beyond.le
  · refine forall_set (fun other existing got => ?_) ?_
    · have ne : other ≠ state.marketCount + 1 := by
        have known := sound.known got
        omega
      have booked := sound.conditionals other existing got
      refine booked.congr (fun _ => rfl) ?_ ?_
      · apply (minted other).trans
        rw [if_neg ne, add_zero]
      · obtain ⟨market, found, backed⟩ := booked.market
        exact ⟨market, (get_set_of_ne _ _ ne).trans found, backed⟩
    · refine ⟨rfl, not_lt.mp fun few => count (.inl few), List.length_replicate,
        fun reserve mem => ?_, ?_, ?_⟩
      · obtain rfl := List.eq_of_mem_replicate mem
        exact deposit.le
      · refine Eq.symm ((minted _).trans ?_)
        rw [if_pos rfl, liquiditySum_of_fresh sound.providers beyond, zero_add]
      · refine ⟨_, get_set_self _ _ _, by simp, by simp, by simp,
          fun index reserve got _ => ?_⟩
        obtain rfl := List.eq_of_mem_replicate (List.mem_of_getElem? got)
        have none : state.outcomeSum (state.marketCount + 1) index = 0 :=
          outcomeSum_of_fresh sound.holdings beyond
        exact (congrArg (reserve + ·) none).trans (add_zero reserve)
  · exact fun key balance got =>
      (sound.holdings key balance got).imp_left fun inside => inside.trans beyond.le
  · have wrote : state.marketCount + 1 ≤ state.marketCount + 1 ∧ 0 ≤ initialLiquidity :=
      ⟨le_rfl, deposit.le⟩
    refine forall_set (fun key balance got => ?_) wrote
    exact (sound.providers key balance got).imp_left fun inside => inside.trans beyond.le
  · intro other proposal pending
    obtain ⟨conditional, got, inside⟩ := sound.proposals other proposal pending
    have ne : other ≠ state.marketCount + 1 := by
      have known := sound.known got
      omega
    exact ⟨conditional, (get_set_of_ne _ _ ne).trans got, inside⟩
  · exact covered_fresh sound fresh rfl rfl rfl (pay_credits paid outsider token)

theorem initializeMarkets_sound {admin : Address}
    (ran : initializeMarkets env admin state = .ok next) : Sound contract next := by
  simp only [initializeMarkets, call_ok] at ran
  obtain ⟨-, -, rfl⟩ := ran
  refine ⟨sound.markets, fun id conditional got => ?_, sound.holdings, sound.providers,
    sound.proposals, sound.covered⟩
  have booked := sound.conditionals id conditional got
  exact booked.congr (fun _ => rfl) rfl booked.market

theorem transfer_sound {token source destination : Address} {amount : Int}
    (ran : dispatch tokens state (env, .transfer token source destination amount) = .ok next) :
    Sound contract next := by
  simp only [dispatch, payAs, call_ok] at ran
  obtain ⟨_, ⟨signed, paid⟩, rfl⟩ := ran
  refine ⟨sound.markets, fun id conditional got => ?_, sound.holdings, sound.providers,
    sound.proposals, fun read => (sound.covered read).trans ?_⟩
  · have booked := sound.conditionals id conditional got
    exact booked.congr (fun _ => rfl) rfl booked.market
  · exact pay_le paid (env.ne_contract signed).symm read

theorem dispatch_sound {call : Env Address contract × Operation Address}
    (ran : dispatch tokens state call = .ok next) : Sound contract next := by
  obtain ⟨_, op⟩ := call
  cases op with
  | initializeMarkets => exact initializeMarkets_sound sound ran
  | createMarket =>
    obtain ⟨⟨id, _⟩, created, rfl⟩ := map_eq_ok.mp ran
    exact createMarket_sound sound created
  | createBinaryMarket =>
    obtain ⟨⟨id, _⟩, created, rfl⟩ := map_eq_ok.mp ran
    exact createConditionalMarket_sound sound created
  | createCategoricalMarket =>
    obtain ⟨⟨_, _⟩, created, rfl⟩ := map_eq_ok.mp ran
    exact createConditionalMarket_sound sound created
  | buyShares =>
    obtain ⟨⟨_, _⟩, bought, rfl⟩ := map_eq_ok.mp ran
    obtain ⟨conditional, step⟩ := buyShares_reworked sound bought
    exact step.sound sound
  | sellShares =>
    obtain ⟨⟨_, _⟩, sold, rfl⟩ := map_eq_ok.mp ran
    obtain ⟨conditional, step⟩ := sellShares_reworked sound sold
    exact step.sound sound
  | mintCompleteSet =>
    obtain ⟨conditional, step⟩ := mintCompleteSet_reworked sound ran
    exact step.sound sound
  | addLiquidity =>
    obtain ⟨⟨_, _⟩, added, rfl⟩ := map_eq_ok.mp ran
    obtain ⟨conditional, step⟩ := addLiquidity_reworked sound added
    exact step.sound sound
  | removeLiquidity =>
    obtain ⟨⟨_, _⟩, removed, rfl⟩ := map_eq_ok.mp ran
    obtain ⟨conditional, _, gained, step⟩ := removeLiquidity_reworked sound removed
    exact step.sound sound
  | redeemCompleteSet =>
    obtain ⟨conditional, step⟩ := redeemCompleteSet_reworked sound ran
    exact step.sound sound
  | proposeResolution => exact proposeResolution_sound sound ran
  | disputeResolution => exact disputeResolution_sound sound ran
  | finalizeResolution => exact finalizeResolution_sound sound ran
  | resolveDispute => exact resolveDispute_sound sound ran
  | redeemWinnings =>
    obtain ⟨_, _, step⟩ := redeemWinnings_reworked sound ran
    exact step.sound sound
  | placeBet => exact placeBet_sound sound ran
  | resolveMarket => exact resolveMarket_sound sound ran
  | cancelMarket => exact cancelMarket_sound sound ran
  | transfer => exact transfer_sound sound ran

end

theorem initial_sound (ledger : TokenLedger Address) :
    Sound contract ({ ledger } : State Address) where
  markets := by simp
  conditionals := by simp
  holdings := by simp [Holdings]
  providers := by simp [Holdings]
  proposals := by simp
  covered := by
    intro token
    exact Int.natCast_nonneg _

theorem exec_sound (state : State Address) (call : Env Address contract × Operation Address)
    (next : State Address) (sound : Sound contract state)
    (ran : (machine tokens contract).exec state call = .ok next) : Sound contract next :=
  dispatch_sound sound ran

/-- What a conditional market's collateral is there for. -/
structure Collateralized (contract : Address) (state : State Address) : Prop where
  markets : ∀ id conditional, state.conditionalMarkets.get id = some conditional →
    ∃ market, state.markets.get id = some market ∧ 0 ≤ conditional.collateralLocked ∧
      ∀ outcome < conditional.outcomes.length, ∃ reserve,
        conditional.poolBalances[outcome]? = some reserve ∧ 0 ≤ reserve ∧
          (∀ owner, 0 ≤ state.getOutcomeBalance id owner outcome) ∧
          (market.Pays outcome →
            reserve + state.outcomeSum id outcome = conditional.collateralLocked)
  tokens : ∀ token, state.lockedSum token + state.bondSum token ≤ state.ledger token contract

section

omit [DecidableEq Address]

theorem Booked.reserve (booked : Booked state id conditional)
    (inside : outcome < conditional.outcomes.length) :
    ∃ reserve, conditional.poolBalances[outcome]? = some reserve ∧ 0 ≤ reserve := by
  rw [← booked.sized] at inside
  exact ⟨_, List.getElem?_eq_getElem inside, booked.reserves _ (List.getElem_mem inside)⟩

theorem Backed.exists_pays {market : Market Address} (backed : Backed state id conditional market)
    (several : minOutcomes ≤ conditional.outcomes.length) :
    ∃ outcome < conditional.outcomes.length, market.Pays outcome := by
  by_cases resolved : market.status = .resolved
  · obtain ⟨winner, won⟩ := isSome_iff_exists.mp (backed.decided resolved)
    exact ⟨winner, backed.winner winner won, fun _ => won⟩
  · exact ⟨0, Nat.lt_of_lt_of_le Nat.zero_lt_two several, fun now => absurd now resolved⟩

end

theorem Sound.collateralized (sound : Sound contract state) : Collateralized contract state where
  tokens := sound.covered
  markets := by
    intro id conditional got
    have booked := sound.conditionals id conditional got
    obtain ⟨market, found, backed⟩ := booked.market
    refine ⟨market, found, ?_, fun outcome inside => ?_⟩
    · obtain ⟨outcome, inside, pays⟩ := backed.exists_pays booked.several
      obtain ⟨reserve, here, nonneg⟩ := booked.reserve inside
      rw [← backed.backed outcome reserve here pays]
      exact add_nonneg nonneg (outcomeSum_nonneg sound.holdings id outcome)
    · obtain ⟨reserve, here, nonneg⟩ := booked.reserve inside
      exact ⟨reserve, here, nonneg, fun owner => sound.holdings.nonneg (id, owner, outcome),
        backed.backed outcome reserve here⟩

/-- In every state of every run the shares of an outcome, in the reserve and with
all owners, add up to the locked collateral, and the contract holds the collateral
of all markets and the pending bonds. -/
theorem always_collateralized (tokens : TokenHost Address) (ledger : TokenLedger Address)
    (calls : List (Env Address contract × Operation Address)) :
    (machine tokens contract).Always (Collateralized contract) { ledger } calls :=
  (always_invariant exec_sound (initial_sound ledger) calls).mono
    fun _ => Sound.collateralized

end SorobanPlayground.PredictionMarket
