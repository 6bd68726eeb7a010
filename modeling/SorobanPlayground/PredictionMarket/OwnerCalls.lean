import SorobanPlayground.PredictionMarket.Books

/-! # What owners do on a conditional market

Each of the seven calls of an owner on one conditional market is a rework of it:
trades, complete sets, liquidity and winnings. The specifications state the amounts
that each call adds.
-/

namespace SorobanPlayground.PredictionMarket

open List State

variable {Address : Type} [DecidableEq Address] {contract : Address} {tokens : TokenHost Address}
  {env : Env Address contract} {state next : State Address} {id outcome : Nat} {owner : Address}
  {conditional : ConditionalMarket Address}

theorem Sound.known (sound : Sound contract state)
    (got : state.conditionalMarkets.get id = some conditional) : id ≤ state.marketCount := by
  obtain ⟨market, found, -⟩ := (sound.conditionals id conditional got).market
  exact (sound.markets id market found).2

theorem Sound.liquidity_nonneg (sound : Sound contract state)
    (got : state.conditionalMarkets.get id = some conditional) :
    0 ≤ conditional.totalLiquidityShares := by
  rw [(sound.conditionals id conditional got).liquidity]
  apply total_nonneg
  intro key balance found
  split_ifs
  · exact (sound.providers key balance found).2
  · exact le_rfl

theorem outcomeSum_single {amount : Int} (inside : outcome < conditional.outcomes.length)
    (other index : Nat) :
    (state.setOutcomeBalance id owner outcome
        (state.getOutcomeBalance id owner outcome + amount)).outcomeSum other index =
      state.outcomeSum other index +
        if other = id ∧ index < conditional.outcomes.length then
          (if index = outcome then amount else 0) else 0 := by
  rw [outcomeSum_setOutcomeBalance, add_sub_cancel_left]
  by_cases market : other = id
  · by_cases chosen : index = outcome
    · subst chosen
      simp [market, inside]
    · simp [market, chosen]
  · simp [market]

theorem balance_single (amount : Int) (index : Nat) :
    (state.setOutcomeBalance id owner outcome
        (state.getOutcomeBalance id owner outcome + amount)).getOutcomeBalance id owner index =
      state.getOutcomeBalance id owner index + if index = outcome then amount else 0 := by
  rw [getOutcomeBalance_setOutcomeBalance]
  by_cases chosen : index = outcome
  · rw [if_pos chosen, if_pos chosen, chosen]
  · rw [if_neg chosen, if_neg chosen, add_zero]

theorem holdings_setOutcomeBalance {balance : Int} (sound : Sound contract state)
    (known : id ≤ state.marketCount) (nonneg : 0 ≤ balance) :
    Holdings state.marketCount
      (state.setOutcomeBalance id owner outcome balance).outcomeBalances := by
  have wrote : id ≤ state.marketCount ∧ 0 ≤ balance := ⟨known, nonneg⟩
  exact forall_set sound.holdings wrote

variable {amount : Int} {ledger later : TokenLedger Address} {token : Address}

theorem pay_out_received
    (paid : (tokens.pay ledger token contract owner amount : Outcome Error _) = .ok later)
    (outsider : owner ≠ contract) (read : Address) :
    (later read contract : Int) = ledger read contract + if read = token then -amount else 0 := by
  rw [pay_debits paid outsider.symm]
  split_ifs <;> omega

theorem pay_out_spent
    (paid : (tokens.pay ledger token contract owner amount : Outcome Error _) = .ok later)
    (outsider : owner ≠ contract) (read : Address) :
    (later read owner : Int) = ledger read owner - if read = token then -amount else 0 := by
  rw [pay_credits paid outsider.symm]
  split_ifs <;> omega

variable {change : Nat → Int}

theorem undiluted_of_trade {locked : Int} (sound : Sound contract state)
    (got : state.conditionalMarkets.get id = some conditional)
    (raised : conditional.poolBalances.prod ≤ (shiftReserves change conditional.poolBalances).prod)
    :
    conditional.sharePool.Undiluted (conditional.reworked change 0 locked).sharePool :=
  SharePool.undiluted_of_prod_le (sound.liquidity_nonneg got) (add_zero _) raised

theorem shiftReserves_zero (reserves : List Int) :
    shiftReserves (fun _ => 0) reserves = reserves := by
  apply ext_getElem length_mapIdx
  simp

theorem buyShares_reworked {collateralAmount minShares shares : Int} (sound : Sound contract state)
    (ran : buyShares tokens env owner id outcome collateralAmount minShares state =
      .ok (shares, next)) :
    ∃ conditional, Reworked contract owner state next id conditional
      (tradeChange outcome collateralAmount shares)
      (fun index => if index = outcome then shares else 0) 0 collateralAmount := by
  simp only [buyShares, getMarket, getConditionalMarket, call_ok, arith_ok] at ran
  obtain ⟨_, -, signed, _, _, _, _, conditional, got, quote, quoted, -,
    _, paid, _, deepens, _, chosen, -, -, -, rfl,
    rfl⟩ := ran
  have outsider := env.ne_contract signed
  have booked := sound.conditionals id conditional got
  obtain ⟨_, bought, inside, reserves, raised⟩ :=
    quoteBuyShares_keeps booked.reserves quoted
  obtain rfl := mapM_eq_map (fun _ _ added => (checkedAdd_eq_ok.mp added).2.symm) deepens
  rw [List.getElem?_map, Option.map_eq_some_iff] at chosen
  obtain ⟨reserve, kept, rfl⟩ := chosen
  have pool : shiftReserves (tradeChange outcome collateralAmount quote)
      conditional.poolBalances = _ := shiftReserves_trade kept
  have later : (conditional.withPool ((conditional.poolBalances.map (· + collateralAmount)).set
      outcome (reserve + collateralAmount - quote))).withCollateral
        (conditional.collateralLocked + collateralAmount) =
      conditional.reworked (tradeChange outcome collateralAmount quote) 0 collateralAmount := by
    unfold ConditionalMarket.reworked
    rw [pool, add_zero]
    rfl
  have held : 0 ≤ state.getOutcomeBalance id owner outcome := sound.holdings.nonneg _
  refine ⟨conditional, got, ?_, ?_, reserves, undiluted_of_trade sound got raised,
    fun _ => raised, fun _ => rfl, fun index _ => balance_single quote index,
    outcomeSum_single inside, ?_, ?_, sound.providers, rfl, rfl, rfl,
    pay_credits paid outsider, pay_debits paid outsider⟩
  · rw [← later]
    rfl
  · intro _ _ index _ _
    exact sub_add_cancel _ _
  · intro other
    rw [ite_self, add_zero]
    rfl
  · exact holdings_setOutcomeBalance sound (sound.known got) (add_nonneg held bought.le)

theorem sellShares_reworked {shares minCollateral collateral : Int} (sound : Sound contract state)
    (ran : sellShares tokens env owner id outcome shares minCollateral state =
      .ok (collateral, next)) :
    ∃ conditional, Reworked contract owner state next id conditional
      (tradeChange outcome (-collateral) (-shares))
      (fun index => if index = outcome then -shares else 0) 0 (-collateral) := by
  simp only [sellShares, getMarket, getConditionalMarket, call_ok, checkedAdd_eq_ok,
    checkedSub_eq_ok] at ran
  obtain ⟨_, -, signed, _, _, _, _, conditional, got, quote, quoted, -,
    _, selected, chosen, _, ⟨-, rfl⟩, _, lowers, _, ⟨-, rfl⟩, balance, ⟨-, _⟩,
    _, paid, rfl, rfl⟩ := ran
  obtain rfl : balance = state.getOutcomeBalance id owner outcome + -shares := by omega
  have outsider := env.ne_contract signed
  obtain ⟨_, _, inside, reserves, raised⟩ := quoteSellShares_keeps quoted
  obtain rfl := mapM_eq_map (fun _ _ taken => (checkedSub_eq_ok.mp taken).2.symm) lowers
  have pool : shiftReserves (tradeChange outcome (-quote) (-shares))
      conditional.poolBalances = _ := shiftReserves_trade chosen
  have later : (conditional.withPool ((conditional.poolBalances.set outcome
      (selected + shares)).map (· - quote))).withCollateral (conditional.collateralLocked - quote) =
      conditional.reworked (tradeChange outcome (-quote) (-shares)) 0 (-quote) := by
    have entry : selected + shares - quote = selected + -quote - -shares := by omega
    unfold ConditionalMarket.reworked
    rw [pool, add_zero, map_set, entry]
    rfl
  refine ⟨conditional, got, ?_, ?_, fun reserve mem => (reserves reserve mem).le,
    undiluted_of_trade sound got raised, fun _ => raised, fun _ => rfl,
    fun index _ => balance_single (-shares) index, outcomeSum_single inside, ?_, ?_,
    sound.providers, rfl, rfl, rfl, pay_out_received paid outsider, pay_out_spent paid outsider⟩
  · rw [← later]
    rfl
  · intro _ _ index _ _
    exact sub_add_cancel _ _
  · intro other
    rw [ite_self, add_zero]
    rfl
  · exact holdings_setOutcomeBalance sound (sound.known got) (by omega)

omit [DecidableEq Address] in
theorem reworked_zero (locked : Int) : conditional.reworked (fun _ => 0) 0 locked =
    conditional.withCollateral (conditional.collateralLocked + locked) := by
  unfold ConditionalMarket.reworked
  rw [shiftReserves_zero, add_zero]
  rfl

/-- A complete set is an amount of the shares of every outcome against the same
amount of collateral. -/
theorem completeSet_reworked {amount : Int} {ledger : TokenLedger Address}
    (sound : Sound contract state) (got : state.conditionalMarkets.get id = some conditional)
    (covered : ∀ index < conditional.outcomes.length,
      0 ≤ state.getOutcomeBalance id owner index + amount)
    (received : ∀ token, (ledger token contract : Int) = state.ledger token contract +
      if token = conditional.collateralToken then amount else 0)
    (spent : ∀ token, (ledger token owner : Int) = state.ledger token owner -
      if token = conditional.collateralToken then amount else 0) :
    Reworked contract owner state
      (((state.credited id owner (fun _ => amount)
        conditional.outcomes.length).setConditionalMarket
          (conditional.withCollateral (conditional.collateralLocked + amount))).withLedger ledger)
      id conditional (fun _ => 0) (fun _ => amount) 0 amount := by
  have booked := sound.conditionals id conditional got
  obtain ⟨markets, marketCount, conditionals, providers, resolutions, -⟩ :
      (state.credited id owner (fun _ => amount) conditional.outcomes.length).markets = _ ∧ _ :=
    credited_frame _
  refine ⟨got, ?_, ?_, ?_, ?_, fun _ => ?_, fun _ => rfl, fun index inside => ?_,
    fun other index => ?_, fun other => ?_, ?_, ?_, markets, marketCount, resolutions, received,
    spent⟩
  · rw [reworked_zero, ← conditionals]
    rfl
  · intro _ _ _ _ _
    exact zero_add amount
  · rw [shiftReserves_zero]
    exact booked.reserves
  · rw [reworked_zero]
    exact SharePool.Undiluted.refl _
  · rw [shiftReserves_zero]
  · exact (getOutcomeBalance_credited _ index).trans (by rw [if_pos inside])
  · exact outcomeSum_credited _ other index
  · rw [ite_self, add_zero]
    exact congrArg (FiniteMap.total · _) providers
  · exact holdings_credited (sound.known got) sound.holdings covered
  · exact providers ▸ sound.providers

theorem mintCompleteSet_reworked {amount : Int} (sound : Sound contract state)
    (ran : mintCompleteSet tokens env owner id amount state = .ok next) :
    ∃ conditional, Reworked contract owner state next id conditional (fun _ => 0)
      (fun _ => amount) 0 amount := by
  simp only [mintCompleteSet, getMarket, getConditionalMarket, call_ok,
    arith_ok] at ran
  obtain ⟨_, -, signed, pos, _, _, _, _, conditional, got, _, paid,
    _, credits, -, rfl⟩ := ran
  have outsider := env.ne_contract signed
  obtain rfl := foldlM_credited (fun reached index later credit => by
    simp only [creditOutcome, call_ok, arith_ok] at credit
    obtain ⟨-, rfl⟩ := credit
    rfl) credits
  refine ⟨conditional, completeSet_reworked sound got (fun index _ => ?_)
    (pay_credits paid outsider) (pay_debits paid outsider)⟩
  exact add_nonneg (sound.holdings.nonneg (id, owner, index)) pos.le

theorem redeemCompleteSet_reworked {amount : Int} (sound : Sound contract state)
    (ran : redeemCompleteSet tokens env owner id amount state = .ok next) :
    ∃ conditional, Reworked contract owner state next id conditional (fun _ => 0)
      (fun _ => -amount) 0 (-amount) := by
  simp only [redeemCompleteSet, getMarket, getConditionalMarket, call_ok,
    checkedSub_eq_ok] at ran
  obtain ⟨_, -, signed, _, _, _, _, conditional, got, enough,
    _, debits, collateralLocked, ⟨-, _⟩, _, paid, rfl⟩ := ran
  obtain rfl : collateralLocked = conditional.collateralLocked + -amount := by omega
  have outsider := env.ne_contract signed
  obtain rfl := foldlM_credited (fun reached index later debit => by
    simp only [debitOutcome, call_ok, checkedSub_eq_ok] at debit
    obtain ⟨_, ⟨-, rfl⟩, rfl⟩ := debit
    rw [Int.sub_eq_add_neg]) debits
  refine ⟨conditional, completeSet_reworked sound got (fun index inside => ?_)
    (pay_out_received paid outsider) (pay_out_spent paid outsider)⟩
  have held := enough index inside
  omega

theorem redeemWinnings_reworked {amount : Int} (sound : Sound contract state)
    (ran : redeemWinnings tokens env owner id amount state = .ok next) :
    ∃ conditional winner, Reworked contract owner state next id conditional (fun _ => 0)
      (fun index => if index = winner then -amount else 0) 0 (-amount) := by
  simp only [redeemWinnings, getMarket, getConditionalMarket, call_ok,
    checkedSub_eq_ok] at ran
  obtain ⟨_, -, signed, _, market, found, resolved, winner, won, conditional, got,
    _, balance, ⟨-, _⟩, collateralLocked, ⟨-, _⟩, _, paid, rfl⟩ := ran
  obtain rfl : collateralLocked = conditional.collateralLocked + -amount := by omega
  obtain rfl : balance = state.getOutcomeBalance id owner winner + -amount := by omega
  have outsider := env.ne_contract signed
  have booked := sound.conditionals id conditional got
  obtain ⟨_, same, backed⟩ := booked.market
  cases found.symm.trans same
  refine ⟨conditional, winner, got, ?_, ?_, ?_, ?_, fun _ => ?_, fun _ => rfl,
    fun index _ => balance_single (-amount) index, outcomeSum_single (backed.winner winner won),
    ?_, ?_, sound.providers, rfl, rfl, rfl, pay_out_received paid outsider,
    pay_out_spent paid outsider⟩
  · rw [reworked_zero]
    rfl
  · intro other here index _ pays
    cases found.symm.trans here
    obtain rfl := Option.some.inj (won.symm.trans (pays resolved))
    rw [if_pos rfl, zero_add]
  · rw [shiftReserves_zero]
    exact booked.reserves
  · rw [reworked_zero]
    exact SharePool.Undiluted.refl _
  · rw [shiftReserves_zero]
  · intro other
    rw [ite_self, add_zero]
    rfl
  · exact holdings_setOutcomeBalance sound (sound.known got) (by omega)

variable {reserves : List Int}

theorem shiftReserves_congr {other : Nat → Int}
    (same : ∀ index < reserves.length, change index = other index) :
    shiftReserves change reserves = shiftReserves other reserves := by
  apply ext_getElem (by simp [shiftReserves])
  intro index inside _
  have bound : index < reserves.length := by simpa [shiftReserves] using inside
  simp [shiftReserves, same index bound]

theorem forall₂_shiftReserves {related : Int → Int → Prop}
    (pointwise : ∀ index reserve, reserves[index]? = some reserve →
      related reserve (reserve + change index)) :
    List.Forall₂ related reserves (shiftReserves change reserves) := by
  refine forall₂_iff_get.mpr ⟨length_mapIdx.symm, fun index inside _ => ?_⟩
  have related := pointwise index reserves[index] (List.getElem?_eq_getElem inside)
  simpa [shiftReserves] using related

theorem lowerMinted_le {collateralAmount total minted final : Int} {reserves : List Int}
    (lowered : reserves.foldlM (lowerMinted collateralAmount total) minted = .ok final) :
    final ≤ minted ∧ ∀ reserve ∈ reserves,
      0 < reserve ∧ (0 ≤ final → reserve * final ≤ collateralAmount * total) := by
  induction reserves generalizing minted with
  | nil =>
    cases lowered
    exact ⟨le_rfl, fun reserve mem => absurd mem not_mem_nil⟩
  | cons reserve _ ih =>
    obtain ⟨_, round, lowered⟩ := bind_eq_ok.mp lowered
    simp only [lowerMinted, call_ok] at round
    obtain ⟨pos, _, divided, rfl⟩ := round
    obtain ⟨-, -, -, rfl⟩ := mulDivFloor_eq divided
    obtain ⟨least, later⟩ := ih lowered
    have share := least.trans (min_le_left _ _)
    refine ⟨least.trans (min_le_right _ _),
      forall_mem_cons.mpr ⟨⟨pos, fun _ => ?_⟩, later⟩⟩
    calc reserve * final ≤ reserve * (collateralAmount * total / reserve) :=
          mul_le_mul_of_nonneg_left share pos.le
      _ ≤ collateralAmount * total := Int.mul_ediv_self_le pos.ne'

theorem addLiquidity_reworked {collateralAmount minLiquidityShares minted : Int}
    (sound : Sound contract state)
    (ran : addLiquidity tokens env owner id collateralAmount minLiquidityShares state =
      .ok (minted, next)) :
    ∃ conditional, Reworked contract owner state next id conditional (fun _ => collateralAmount)
      (fun _ => 0) minted collateralAmount := by
  simp only [addLiquidity, getMarket, getConditionalMarket, call_ok, arith_ok] at ran
  obtain ⟨_, -, signed, _, _, _, _, deposit, conditional, got, share, lowered,
    _, _, paid, _, deepens, -, -, -, rfl,
    rfl⟩ := ran
  have outsider := env.ne_contract signed
  have booked := sound.conditionals id conditional got
  have pos : 0 < share := by omega
  obtain ⟨-, bounds⟩ := lowerMinted_le lowered
  obtain rfl := mapM_eq_map (fun _ _ added => (checkedAdd_eq_ok.mp added).2.symm) deepens
  have pool : shiftReserves (fun _ => collateralAmount) conditional.poolBalances =
      conditional.poolBalances.map (· + collateralAmount) :=
    ext_getElem (by simp [shiftReserves]) fun index _ _ => by simp [shiftReserves]
  have newReserves : ∀ reserve ∈ shiftReserves (fun _ => collateralAmount)
      conditional.poolBalances, 0 ≤ reserve := by
    rw [pool]
    exact forall_mem_map.mpr fun reserve mem =>
      add_nonneg (booked.reserves reserve mem) deposit.le
  have undiluted : conditional.sharePool.Undiluted
      (conditional.reworked (fun _ => collateralAmount) share collateralAmount).sharePool := by
    have total := sound.liquidity_nonneg got
    refine SharePool.undiluted_of_forall₂ (add_nonneg total pos.le)
      (forall₂_shiftReserves fun index reserve here => ?_)
    obtain ⟨held, bounded⟩ := bounds reserve (mem_of_getElem? here)
    refine ⟨held.le, ?_⟩
    calc reserve * (conditional.totalLiquidityShares + share)
        = reserve * conditional.totalLiquidityShares + reserve * share := mul_add _ _ _
      _ ≤ reserve * conditional.totalLiquidityShares +
            collateralAmount * conditional.totalLiquidityShares := by omega
      _ = (reserve + collateralAmount) * conditional.totalLiquidityShares := (add_mul _ _ _).symm
  have held : 0 ≤ state.getLiquidityBalance id owner := sound.providers.nonneg _
  have unissued : conditional.totalLiquidityShares ≠ 0 := by
    intro none
    have nonempty : 0 < conditional.poolBalances.length :=
      booked.sized ▸ Nat.zero_lt_two.trans_le booked.several
    obtain ⟨reserve, mem⟩ := exists_mem_of_length_pos nonempty
    obtain ⟨filled, bounded⟩ := bounds reserve mem
    have bound := bounded pos.le
    rw [none, mul_zero] at bound
    exact absurd (mul_pos filled pos) (not_lt.mpr bound)
  refine ⟨conditional, got, ?_, ?_, newReserves, undiluted, fun none => absurd none pos.ne',
    fun none => absurd none unissued, fun _ _ => (add_zero _).symm, fun other index => ?_,
    fun other => ?_, sound.holdings, ?_, rfl, rfl, rfl, pay_credits paid outsider,
    pay_debits paid outsider⟩
  · unfold ConditionalMarket.reworked
    rw [pool]
    rfl
  · intro _ _ _ _ _
    exact add_zero collateralAmount
  · rw [ite_self, add_zero]
    rfl
  · apply (liquiditySum_setLiquidityBalance id owner _ other).trans
    rw [add_sub_cancel_left]
  · have wrote : id ≤ state.marketCount ∧ 0 ≤ state.getLiquidityBalance id owner + share :=
      ⟨sound.known got, add_nonneg held pos.le⟩
    exact forall_set sound.providers wrote

/-- A share of a reserve, rounded down. -/
def withdrawnShare (reserves : List Int) (liquidityShares total : Int) (outcome : Nat) : Int :=
  reserves.getD outcome 0 * liquidityShares / total

theorem withdrawOutcome_rounds {liquidityShares total : Int} {reserves : List Int} {count : Nat}
    {final : Withdrawal Address}
    (ran : (List.range count).foldlM (withdrawOutcome owner id liquidityShares total)
      { poolBalances := reserves, state, withdrawn := [] } = .ok final) :
    final.poolBalances = shiftReserves
        (fun index => if index < count then -withdrawnShare reserves liquidityShares total index
          else 0) reserves ∧
      final.state = state.credited id owner (withdrawnShare reserves liquidityShares total) count ∧
      ∀ index < count, 0 < withdrawnShare reserves liquidityShares total index := by
  induction count generalizing final with
  | zero =>
    cases ran
    refine ⟨?_, rfl, fun index beyond => absurd beyond (Nat.not_lt_zero index)⟩
    exact (shiftReserves_zero reserves).symm
  | succ count ih =>
    rw [range_succ, foldlM_append] at ran
    obtain ⟨_, earlier, last⟩ := bind_eq_ok.mp ran
    obtain ⟨pool, credited, pos⟩ := ih earlier
    obtain ⟨_, round, done⟩ := bind_eq_ok.mp last
    cases done
    simp only [withdrawOutcome, call_ok, arith_ok] at round
    obtain ⟨_, here, amount, divided, withdrawn, -, -, rfl⟩ := round
    rw [pool] at here
    obtain ⟨_, got, rfl⟩ := getElem?_shiftReserves here
    rw [if_neg (lt_irrefl count), add_zero] at divided here
    obtain ⟨_, rfl⟩ := List.getElem?_eq_some_iff.mp got
    have share : amount = withdrawnShare reserves liquidityShares total count := by
      unfold withdrawnShare
      rw [(mulDivFloor_eq divided).2.2.2, getD_eq_getElem?_getD, got, Option.getD_some]
    rw [share] at withdrawn ⊢
    refine ⟨?_, ?_, fun index within => ?_⟩
    · rw [pool]
      apply ext_getElem (by simp [shiftReserves])
      intro index _ _
      simp only [shiftReserves, getElem_set, getElem_mapIdx]
      by_cases current : count = index
      · subst current
        rw [if_pos rfl, if_neg (lt_irrefl count), if_pos (Nat.lt_succ_self count), add_zero,
          Int.sub_eq_add_neg]
      · have range : index < count + 1 ↔ index < count := by omega
        simp only [if_neg current, range]
    · rw [State.credited, ← credited]
    · rcases Nat.lt_succ_iff_lt_or_eq.mp within with before | rfl
      · exact pos index before
      · exact withdrawn

theorem withdrawnShare_spec {liquidityShares total reserve : Int} {reserves : List Int}
    {index : Nat} (got : reserves[index]? = some reserve) (nonneg : 0 ≤ reserve)
    (pos : 0 < total) (part : liquidityShares ≤ total) :
    withdrawnShare reserves liquidityShares total index ≤ reserve ∧
      withdrawnShare reserves liquidityShares total index * total ≤ reserve * liquidityShares := by
  unfold withdrawnShare
  rw [getD_eq_getElem?_getD, got, Option.getD_some]
  have whole : reserve * liquidityShares ≤ reserve * total := mul_le_mul_of_nonneg_left part nonneg
  exact ⟨Int.ediv_le_of_le_mul pos whole, Int.ediv_mul_le _ pos.ne'⟩

omit [DecidableEq Address] in
theorem withdrawal_undiluted {liquidityShares : Int} (booked : Booked state id conditional)
    (pos : 0 < conditional.totalLiquidityShares)
    (part : liquidityShares ≤ conditional.totalLiquidityShares) :
    conditional.sharePool.Undiluted (conditional.reworked (fun index =>
      -withdrawnShare conditional.poolBalances liquidityShares conditional.totalLiquidityShares
        index) (-liquidityShares) 0).sharePool := by
  have left : 0 ≤ conditional.totalLiquidityShares + -liquidityShares := by omega
  refine SharePool.undiluted_of_forall₂ left (forall₂_shiftReserves fun index reserve here => ?_)
  have got : conditional.poolBalances[index]? = some reserve := here
  have nonneg := booked.reserves reserve (mem_of_getElem? got)
  have rounded := (withdrawnShare_spec got nonneg pos part).2
  refine ⟨nonneg, ?_⟩
  calc reserve * (conditional.totalLiquidityShares + -liquidityShares)
      = reserve * conditional.totalLiquidityShares - reserve * liquidityShares := by ring
    _ ≤ reserve * conditional.totalLiquidityShares -
          withdrawnShare conditional.poolBalances liquidityShares
            conditional.totalLiquidityShares index * conditional.totalLiquidityShares := by omega
    _ = (reserve + -withdrawnShare conditional.poolBalances liquidityShares
          conditional.totalLiquidityShares index) * conditional.totalLiquidityShares := by ring

theorem removeLiquidity_reworked {liquidityShares : Int} {withdrawn : List Int}
    (sound : Sound contract state)
    (ran : removeLiquidity env owner id liquidityShares state = .ok (withdrawn, next)) :
    ∃ conditional change gained, Reworked contract owner state next id conditional change gained
      (-liquidityShares) 0 := by
  simp only [removeLiquidity, getMarket, getConditionalMarket, call_ok,
    checkedSub_eq_ok] at ran
  obtain ⟨_, -, _, _, _, _, pos, conditional, got, owned, final,
    rounds, totalShares, ⟨-, _⟩, balance, ⟨-, _⟩, rfl, rfl⟩ := ran
  obtain rfl : balance = state.getLiquidityBalance id owner + -liquidityShares := by omega
  obtain rfl : totalShares = conditional.totalLiquidityShares + -liquidityShares := by omega
  have booked := sound.conditionals id conditional got
  have part : liquidityShares ≤ conditional.totalLiquidityShares := by
    rw [booked.liquidity]
    exact owned.trans (getLiquidityBalance_le sound.providers id owner)
  have total : 0 < conditional.totalLiquidityShares := pos.trans_le part
  obtain ⟨pool, credited, gains⟩ := withdrawOutcome_rounds rounds
  obtain ⟨markets, marketCount, conditionals, providers, resolutions, ledger⟩ :
      final.state.markets = _ ∧ _ := credited ▸ credited_frame _
  have nonneg : ∀ index (reserve : Int), conditional.poolBalances[index]? = some reserve →
      0 ≤ reserve := fun index reserve here =>
    booked.reserves reserve (mem_of_getElem? here)
  have every : final.poolBalances = shiftReserves (fun index => -withdrawnShare
      conditional.poolBalances liquidityShares conditional.totalLiquidityShares index)
      conditional.poolBalances :=
    pool.trans (shiftReserves_congr fun index inside => if_pos inside)
  rw [booked.sized] at credited gains
  refine ⟨conditional, fun index => -withdrawnShare conditional.poolBalances liquidityShares
    conditional.totalLiquidityShares index, withdrawnShare conditional.poolBalances
      liquidityShares conditional.totalLiquidityShares, got, ?_, ?_, ?_, ?_,
    fun none => absurd none (neg_ne_zero.mpr pos.ne'), fun none => absurd none total.ne', ?_,
    ?_, ?_, ?_, ?_, markets, marketCount, resolutions, ?_, ?_⟩
  · unfold ConditionalMarket.reworked
    rw [← every, ← conditionals, add_zero]
    rfl
  · intro _ _ index _ _
    exact neg_add_cancel _
  · intro reserve mem
    obtain ⟨index, inside⟩ := mem_iff_getElem?.mp mem
    obtain ⟨original, here, rfl⟩ := getElem?_shiftReserves inside
    have share := (withdrawnShare_spec here (nonneg index original here) total part).1
    omega
  · exact withdrawal_undiluted booked total part
  · intro index inside
    apply (congrArg (getOutcomeBalance · id owner index) credited).trans
    rw [getOutcomeBalance_credited, if_pos inside]
  · intro other index
    exact (congrArg (outcomeSum · other index) credited).trans (outcomeSum_credited _ _ _)
  · intro other
    have sum : (state.setLiquidityBalance id owner
        (state.getLiquidityBalance id owner + -liquidityShares)).liquiditySum other = _ :=
      liquiditySum_setLiquidityBalance id owner _ other
    rw [add_sub_cancel_left] at sum
    rw [← sum]
    have same := congrArg (FiniteMap.set · (id, owner)
      (state.getLiquidityBalance id owner + -liquidityShares)) providers
    exact congrArg (FiniteMap.total · _) same
  · have gained := holdings_credited (sound.known got) sound.holdings fun index inside =>
      add_nonneg (sound.holdings.nonneg (id, owner, index)) (gains index inside).le
    exact credited ▸ gained
  · have wrote : id ≤ state.marketCount ∧
        0 ≤ state.getLiquidityBalance id owner + -liquidityShares :=
      ⟨sound.known got, by omega⟩
    exact forall_set (providers ▸ sound.providers) wrote
  · intro token
    rw [ite_self, add_zero]
    exact congrArg (fun balances : TokenLedger Address => (balances token contract : Int)) ledger
  · intro token
    rw [ite_self, sub_zero]
    exact congrArg (fun balances : TokenLedger Address => (balances token owner : Int)) ledger

end SorobanPlayground.PredictionMarket
