import SorobanPlayground.SportsBetting.Contract

/-! # Settlements

Stakes, claims and ballots are recorded beside the state. What a market owes is what its bets
are worth, after a settlement their payouts, and the fee that is not claimed.
-/

namespace SorobanPlayground.SportsBetting

variable {Address : Type} [DecidableEq Address] {contract : Address}

/-- What a stake is worth; before the settlement, itself. -/
def payoutOf (market : Market Address) (outcome : Nat) (stake : Int) : Int :=
  if market.status = .resolved then
    if market.winningOutcome = some outcome then
      stake * (market.totalPool - market.feeAmount) / (market.pools[outcome]?).getD 0
    else 0
  else stake

variable (state : State Address)

def State.sumBets (id : Nat) (weight : Nat → Int → Int) : Int :=
  state.bets.total fun key stake => if key.1 = id then weight key.2.2 stake else 0

/-- All stakes on a market. -/
def State.betsOf (id : Nat) : Int := state.sumBets id fun _ stake => stake

/-- The stakes on one outcome of a market. -/
def State.betsOn (id outcome : Nat) : Int :=
  state.sumBets id fun other stake => if other = outcome then stake else 0

/-- The payouts that are still to claim and the fee that is not claimed. -/
def State.owed (id : Nat) (market : Market Address) : Int :=
  state.sumBets id (payoutOf market) + if market.feeClaimed = true then 0 else market.feeAmount

/-- What a market owes in a token. -/
def State.owedIn (token : Address) (id : Nat) (market : Market Address) : Int :=
  if market.token = token then state.owed id market else 0

structure Ballot where
  outcome : Nat
  time : Nat
  byOracle : Bool

/-- The stakes and claims of all bets and the ballots of all oracles. -/
structure Record (Address : Type) where
  staked : BetKey Address → Int := fun _ => 0
  claims : BetKey Address → Nat := fun _ => 0
  ballots : Nat × Address → Option Ballot := fun _ => none

def Record.follow (call : Env Address contract × Operation Address) (_ : State Address)
    (record : Record Address) : Record Address :=
  match call.2 with
  | .placeBet bettor id outcome amount =>
      { record with
        staked := Function.update record.staked (id, bettor, outcome)
          (record.staked (id, bettor, outcome) + amount) }
  | .submitResult oracle id outcome =>
      { record with
        ballots := Function.update record.ballots (id, oracle)
          (some ⟨outcome, call.1.timestamp, state.isOracle oracle⟩) }
  | .claim bettor id outcome =>
      { record with
        claims := Function.update record.claims (id, bettor, outcome)
          (record.claims (id, bettor, outcome) + 1) }
  | _ => record

/-- The contract beside which stakes, claims and ballots are recorded. -/
def recording (tokens : TokenHost Address) (contract : Address) :
    CallMachine (State Address × Record Address) (Env Address contract × Operation Address)
      (Failure Error) :=
  (machine tokens contract).withGhost Record.follow

/-- What a call is to pay. -/
def payments (contract : Address) (state : State Address) : Operation Address → List (Leg Address)
  | .placeBet bettor id _ amount =>
      (state.markets.get id).elim [] fun market => [⟨market.token, bettor, contract, amount⟩]
  | .claim bettor id outcome =>
      (state.markets.get id).elim [] fun market =>
        [⟨market.token, contract, bettor,
          payoutOf market outcome (state.stakeOf (id, bettor, outcome))⟩]
  | .claimFee id =>
      (state.markets.get id).elim [] fun market =>
        [⟨market.token, contract, (state.config.map Config.feeRecipient).getD contract,
          market.feeAmount⟩]
  | .transferTokens token source destination amount => [⟨token, source, destination, amount⟩]
  | _ => []

/-- A voter cast a ballot for an outcome in time, as an oracle. -/
def Cast (record : Record Address) (market : Market Address) (outcome : Nat) (voter : Address) :
    Prop :=
  ∃ ballot, record.ballots (market.id, voter) = some ballot ∧ ballot.outcome = outcome ∧
    market.closeTime ≤ ballot.time ∧ ballot.time ≤ market.settlementDeadline ∧
    ballot.byOracle = true

/-- At least a number of distinct oracles voted for an outcome. -/
def VotedBy (record : Record Address) (market : Market Address) (outcome count : Nat) : Prop :=
  ∃ voters : List Address, voters.Nodup ∧ count ≤ voters.length ∧
    ∀ voter ∈ voters, Cast record market outcome voter

/-- A stake is either not claimed or claimed once, after the settlement. -/
def PaidOnce (record : Record Address) (key : BetKey Address) : Prop :=
  record.claims key = 0 ∧ state.stakeOf key = record.staked key ∨
    record.claims key = 1 ∧ state.stakeOf key = 0 ∧
      ∃ market, state.markets.get key.1 = some market ∧ market.status ≠ .opened

/-- All markets are in order. -/
structure Lawful (contract : Address) (account : State Address × Record Address) : Prop where
  pooled : ∀ id market, account.1.markets.get id = some market → market.status = .opened →
    market.pools.sum = market.totalPool ∧ market.totalPool = account.1.betsOf id
  elected : ∀ id market, account.1.markets.get id = some market → market.status = .resolved →
    ∃ outcome, market.winningOutcome = some outcome ∧
      VotedBy account.2 market outcome market.oracleThreshold
  covered : ∀ token,
    account.1.markets.total (account.1.owedIn token) ≤ account.1.ledger token contract
  once : ∀ key, PaidOnce account.1 account.2 key

/-- A call makes its payments and no others, resolves a market by a vote only, and changes of a
settled market nothing but that the fee is claimed. -/
structure Rightly (tokens : TokenHost Address) (account : State Address × Record Address)
    (call : Env Address contract × Operation Address) : Prop where
  paid : Moved (payments contract account.1 call.2) account.1.ledger
    ((recording tokens contract).apply account call).1.ledger
  settles : ∀ id market, account.1.markets.get id = some market → market.status = .opened →
    ∃ later, ((recording tokens contract).apply account call).1.markets.get id = some later ∧
      (later.status = .resolved → ∃ oracle outcome, call.2 = .submitResult oracle id outcome ∧
        later.winningOutcome = some outcome)
  final : ∀ id market, account.1.markets.get id = some market → market.status ≠ .opened →
    ∃ feeClaimed, ((recording tokens contract).apply account call).1.markets.get id =
      some { market with feeClaimed }

variable {state next : State Address} {id : Nat} {weight : Nat → Int → Int}

theorem sumBets_congr (same : ∀ key, key.1 = id → next.bets.get key = state.bets.get key) :
    next.sumBets id weight = state.sumBets id weight := by
  refine FiniteMap.total_of_same fun key => ?_
  by_cases market : key.1 = id
  · rw [same key market]
  · have weightless : ∀ got : Option Int, FiniteMap.weightAt
        (fun key stake => if key.1 = id then weight key.2.2 stake else 0) key got = 0 := by
      intro got
      cases got with
      | none => rfl
      | some => exact if_neg market
    rw [weightless, weightless]

variable {bettor : Address}

theorem sumBets_set {outcome : Nat} {stake : Int}
    (bets : next.bets = state.bets.set (id, bettor, outcome) stake)
    (weightless : weight outcome 0 = 0) :
    next.sumBets id weight =
      state.sumBets id weight - weight outcome (state.stakeOf (id, bettor, outcome)) +
        weight outcome stake := by
  have wrote := total_set_getD state.bets
    (fun key stake => if key.1 = id then weight key.2.2 stake else 0) (id, bettor, outcome) stake 0
    ((if_pos rfl).trans weightless)
  rw [if_pos rfl, if_pos rfl, ← bets] at wrote
  exact wrote

theorem sumBets_of_unstaked (unstaked : ∀ bettor outcome, state.stakeOf (id, bettor, outcome) = 0)
    (weightless : ∀ outcome, weight outcome 0 = 0) : state.sumBets id weight = 0 := by
  refine total_eq_zero _ fun key stake got => ?_
  split
  · next same =>
    have nothing := unstaked key.2.1 key.2.2
    unfold State.stakeOf at nothing
    rw [← same] at nothing
    rw [got] at nothing
    obtain rfl : stake = 0 := nothing
    exact weightless _
  · rfl

omit [DecidableEq Address] in
@[simp] theorem payoutOf_zero (market : Market Address) (outcome : Nat) :
    payoutOf market outcome 0 = 0 := by
  unfold payoutOf
  rw [zero_mul, Int.zero_ediv, ite_self, ite_self]

/-- What a vote makes of a market: it waits for more votes, is cancelled where nobody bet on the
outcome, or is resolved. -/
inductive Verdict (market : Market Address) (outcome votes feeBps : Nat) : Market Address → Prop
  | waiting (few : votes < market.oracleThreshold) : Verdict market outcome votes feeBps market
  | refunded (enough : market.oracleThreshold ≤ votes) :
      Verdict market outcome votes feeBps { market with status := .cancelled }
  | won (pool : Int) (enough : market.oracleThreshold ≤ votes)
      (found : market.pools[outcome]? = some pool) (backed : pool ≠ 0) :
      Verdict market outcome votes feeBps { market with
        status := .resolved
        winningOutcome := some outcome
        feeAmount := (market.totalPool * feeBps).tdiv 10000 }

/-- A new market without bets and votes. -/
structure Opened (state : State Address) (outcomeCount : Nat) (market : Market Address) : Prop where
  named : market.id = state.marketCount
  threshold : 0 < market.oracleThreshold ∧ market.oracleThreshold ≤ state.oracleCount
  status : market.status = .opened
  pools : market.pools = List.replicate outcomeCount 0
  total : market.totalPool = 0
  fee : market.feeAmount = 0

/-- What a call does to the markets and bets. -/
inductive Effect (contract : Address) (state : State Address) :
    Env Address contract × Operation Address → State Address → Prop
  | quiet (call : Env Address contract × Operation Address) (next : State Address)
      (config : state.config.isSome = true →
        next.config = state.config ∧ next.marketCount = state.marketCount)
      (fees : (∀ config, state.config = some config → config.feeBps ≤ maxFeeBps) →
        ∀ config, next.config = some config → config.feeBps ≤ maxFeeBps)
      (oracles : state.oracleCount ≤ maxOracles → next.oracleCount ≤ maxOracles)
      (markets : next.markets = state.markets) (bets : next.bets = state.bets)
      (votes : next.votes = state.votes) (voteCounts : next.voteCounts = state.voteCounts)
      (gains : ∀ token, state.ledger token contract ≤ next.ledger token contract)
      (paid : Moved (payments contract state call.2) state.ledger next.ledger)
      (unrecorded : ∀ record, Record.follow state call next record = record)
      (other : ∀ oracle id outcome, call.2 ≠ .submitResult oracle id outcome) :
      Effect contract state call next
  | created (env : Env Address contract) (eventId : String) (token : Address)
      (outcomeCount closeTime settlementDeadline oracleThreshold : Nat)
      (market : Market Address) (config : state.config.isSome = true)
      (opened : Opened state outcomeCount market) :
      Effect contract state (env, .createMarket eventId token outcomeCount closeTime
        settlementDeadline oracleThreshold) { state with
          markets := state.markets.set state.marketCount market
          marketCount := state.marketCount + 1 }
  | bet (env : Env Address contract) (bettor : Address) (id outcome : Nat) (amount : Int)
      (market : Market Address) (pool : Int) (ledger : TokenLedger Address)
      (outside : bettor ≠ contract) (positive : 0 < amount)
      (stored : state.markets.get id = some market) (opened : market.status = .opened)
      (found : market.pools[outcome]? = some pool) (fits : InI128 (market.totalPool + amount))
      (paid : Moved [⟨market.token, bettor, contract, amount⟩] state.ledger ledger) :
      Effect contract state (env, .placeBet bettor id outcome amount) { state with
        bets := state.bets.set (id, bettor, outcome) (state.stakeOf (id, bettor, outcome) + amount)
        markets := state.markets.set market.id { market with
          totalPool := market.totalPool + amount
          pools := market.pools.set outcome (pool + amount) }
        ledger }
  | voted (env : Env Address contract) (oracle : Address) (id outcome : Nat)
      (config : Config Address) (market written : Market Address) (count : Nat)
      (markets : FiniteMap Nat (Market Address)) (setUp : state.config = some config)
      (eligible : state.isOracle oracle = true) (stored : state.markets.get id = some market)
      (opened : market.status = .opened) (closed : market.closeTime ≤ env.timestamp)
      (timely : env.timestamp ≤ market.settlementDeadline)
      (fresh : state.votes.get (id, oracle) = none)
      (found : (state.countsOf id market)[outcome]? = some count)
      (verdict : Verdict market outcome (count + 1) config.feeBps written)
      (updated : (markets = state.markets ∧ written = market) ∨
        markets = state.markets.set written.id written) :
      Effect contract state (env, .submitResult oracle id outcome) { state with
        votes := state.votes.set (id, oracle) outcome
        voteCounts := state.voteCounts.set id ((state.countsOf id market).set outcome (count + 1))
        markets }
  | expired (env : Env Address contract) (id : Nat) (market : Market Address)
      (stored : state.markets.get id = some market) (opened : market.status = .opened) :
      Effect contract state (env, .cancelExpired id) { state with
        markets := state.markets.set market.id { market with status := .cancelled } }
  | claimed (env : Env Address contract) (bettor : Address) (id outcome : Nat)
      (market : Market Address) (payout : Int) (ledger : TokenLedger Address)
      (stored : state.markets.get id = some market) (settled : market.status ≠ .opened)
      (staked : state.stakeOf (id, bettor, outcome) ≠ 0)
      (computed : computePayout market outcome (state.stakeOf (id, bettor, outcome)) = .ok payout)
      (paid : 0 ≤ payout → Moved [⟨market.token, contract, bettor, payout⟩] state.ledger ledger) :
      Effect contract state (env, .claim bettor id outcome) { state with
        bets := state.bets.set (id, bettor, outcome) 0
        ledger }
  | feeClaimed (env : Env Address contract) (id : Nat) (market : Market Address)
      (config : Config Address) (ledger : TokenLedger Address)
      (setUp : state.config = some config) (stored : state.markets.get id = some market)
      (settled : market.status = .resolved) (unclaimed : market.feeClaimed = false)
      (paid : 0 ≤ market.feeAmount →
        Moved [⟨market.token, contract, config.feeRecipient, market.feeAmount⟩] state.ledger
          ledger) :
      Effect contract state (env, .claimFee id) { state with
        markets := state.markets.set market.id { market with feeClaimed := true }
        ledger }

variable {tokens : TokenHost Address} {env : Env Address contract}

theorem createMarket_effect {eventId : String} {token : Address}
    {outcomeCount closeTime settlementDeadline oracleThreshold : Nat}
    (ran : (Prod.snd <$> createMarket env eventId token outcomeCount closeTime
      settlementDeadline oracleThreshold state) = .ok next) :
    Effect contract state (env, .createMarket eventId token outcomeCount closeTime
      settlementDeadline oracleThreshold) next := by
  simp only [createMarket, loadConfig, ensureNotPaused, map_eq_ok, call_ok, arith_ok, not_or,
    not_lt] at ran
  obtain ⟨_, ⟨_, setUp, -, -, -, -, -, ⟨some, few⟩, -, rfl⟩, rfl⟩ := ran
  exact Effect.created env eventId token outcomeCount closeTime settlementDeadline oracleThreshold _
    (by rw [setUp]; rfl) ⟨rfl, ⟨Nat.pos_of_ne_zero some, few⟩, rfl, rfl, rfl, rfl⟩

theorem placeBet_effect {id outcome : Nat} {amount : Int}
    (ran : placeBet tokens env bettor id outcome amount state = .ok next) :
    Effect contract state (env, .placeBet bettor id outcome amount) next := by
  simp only [placeBet, loadConfig, ensureNotPaused, loadMarket, call_ok, orTrap_eq_ok, arith_ok,
    not_le] at ran
  obtain ⟨-, -, -, signed, pos, market, got, opened, -, -, pool, found, -, fits, -, ledger, paid,
    rfl⟩ := ran
  exact Effect.bet env bettor id outcome amount market pool ledger (env.ne_contract signed) pos
    got opened found fits (pay_moved paid)

theorem checkedMulDiv_eq_ok {a b divisor result : Int} (pos : 0 < divisor) :
    checkedMulDiv a b divisor = .ok result ↔ InI128 (a * b) ∧ (a * b).tdiv divisor = result := by
  simp only [checkedMulDiv, bind_eq_ok, arith_ok]
  constructor
  · rintro ⟨fits, -, -, rfl⟩
    exact ⟨fits, rfl⟩
  · rintro ⟨fits, rfl⟩
    exact ⟨fits, pos.ne', inI128_tdiv fits pos, rfl⟩

omit [DecidableEq Address] in
theorem settle_verdict {market wrote : Market Address} {outcome votes feeBps : Nat}
    (enough : market.oracleThreshold ≤ votes) (ran : settle market outcome feeBps = .ok wrote) :
    Verdict market outcome votes feeBps wrote := by
  simp only [settle, bind_eq_ok, orTrap_eq_ok] at ran
  obtain ⟨pool, found, ran⟩ := ran
  split at ran
  · cases ran
    exact Verdict.refunded enough
  · next backed =>
    simp only [call_ok] at ran
    obtain ⟨_, eq, rfl⟩ := ran
    obtain ⟨-, rfl⟩ := (checkedMulDiv_eq_ok (by decide)).mp eq
    exact Verdict.won pool enough found backed

theorem submitResult_effect {oracle : Address} {id outcome : Nat}
    (ran : (Prod.snd <$> submitResult env oracle id outcome state) = .ok next) :
    Effect contract state (env, .submitResult oracle id outcome) next := by
  simp only [submitResult, loadConfig, ensureNotPaused, loadMarket, map_eq_ok, call_ok,
    orTrap_eq_ok, arith_ok, not_lt, Bool.not_eq_true] at ran
  obtain ⟨_, ⟨config, setUp, -, -, eligible, market, got, opened, closed, timely, -, fresh,
    count, found, -, ran⟩, rfl⟩ := ran
  have unvoted := has_eq_false.mp fresh
  split at ran
  · next enough =>
    simp only [call_ok] at ran
    obtain ⟨wrote, settled, rfl⟩ := ran
    exact Effect.voted env oracle id outcome config market wrote count _ setUp eligible got
      opened closed timely unvoted found (settle_verdict enough settled) (.inr rfl)
  · next few =>
    cases ran
    exact Effect.voted env oracle id outcome config market market count _ setUp eligible got
      opened closed timely unvoted found (Verdict.waiting (not_le.mp few)) (.inl ⟨rfl, rfl⟩)

theorem cancelExpired_effect {id : Nat} (ran : cancelExpired env id state = .ok next) :
    Effect contract state (env, .cancelExpired id) next := by
  simp only [cancelExpired, loadConfig, loadMarket, call_ok] at ran
  obtain ⟨-, -, market, got, opened, -, rfl⟩ := ran
  exact Effect.expired env id market got opened

theorem claim_effect {id outcome : Nat}
    (ran : (Prod.snd <$> claim tokens env bettor id outcome state) = .ok next) :
    Effect contract state (env, .claim bettor id outcome) next := by
  simp only [claim, loadConfig, loadMarket, map_eq_ok, call_ok] at ran
  obtain ⟨_, ⟨-, -, -, market, got, -, settled, staked, payout, eq, ledger, paid, rfl⟩,
    rfl⟩ := ran
  exact Effect.claimed env bettor id outcome market payout ledger got settled staked eq
    (pay_positive_moved paid)

theorem claimFee_effect {id : Nat} (ran : (Prod.snd <$> claimFee tokens env id state) = .ok next) :
    Effect contract state (env, .claimFee id) next := by
  simp only [claimFee, loadConfig, loadMarket, map_eq_ok, call_ok] at ran
  obtain ⟨_, ⟨config, setUp, -, market, got, settled, unclaimed, ledger, paid, rfl⟩, rfl⟩ :=
    ran
  exact Effect.feeClaimed env id market config ledger setUp got settled
    (Bool.eq_false_iff.mpr unclaimed) (pay_positive_moved paid)

theorem dispatch_effect {call : Env Address contract × Operation Address}
    (ran : dispatch tokens state call = .ok next) : Effect contract state call next := by
  obtain ⟨env, op⟩ := call
  have still : Moved [] state.ledger state.ledger := moved_nil state.ledger
  cases op with
  | initializeBetting =>
    simp only [dispatch, initializeBetting, call_ok] at ran
    obtain ⟨unset, few, -, rfl⟩ := ran
    refine Effect.quiet _ _ (absurd · unset) (fun _ config set => ?_) (fun _ => Nat.zero_le _) rfl
      rfl rfl rfl (fun _ => le_rfl) still (fun _ => rfl) (by simp)
    cases set
    exact not_lt.mp few
  | setPaused =>
    simp only [dispatch, setPaused, loadConfig, call_ok] at ran
    obtain ⟨config, -, -, rfl⟩ := ran
    exact Effect.quiet _ _ (fun _ => ⟨rfl, rfl⟩) id id rfl rfl rfl rfl (fun _ => le_rfl) still
      (fun _ => rfl) (by simp)
  | addOracle =>
    simp only [dispatch, addOracle, loadConfig, call_ok, not_le] at ran
    obtain ⟨config, -, -, -, few, rfl⟩ := ran
    exact Effect.quiet _ _ (fun _ => ⟨rfl, rfl⟩) id (fun _ => few) rfl rfl rfl rfl
      (fun _ => le_rfl) still (fun _ => rfl) (by simp)
  | removeOracle =>
    simp only [dispatch, removeOracle, loadConfig, call_ok, checkedSubUnsigned_eq_ok] at ran
    obtain ⟨_, -, -, -, _, ⟨-, rfl⟩, rfl⟩ := ran
    exact Effect.quiet _ _ (fun _ => ⟨rfl, rfl⟩) id (Nat.sub_le _ _).trans rfl rfl rfl rfl
      (fun _ => le_rfl) still (fun _ => rfl) (by simp)
  | createMarket =>
    exact createMarket_effect ran
  | placeBet =>
    simp only [dispatch, bind_eq_ok, inI128_eq_ok] at ran
    obtain ⟨_, ⟨-, rfl⟩, ran⟩ := ran
    exact placeBet_effect ran
  | submitResult => exact submitResult_effect ran
  | cancelExpired => exact cancelExpired_effect ran
  | claim => exact claim_effect ran
  | claimFee => exact claimFee_effect ran
  | transferTokens =>
    simp only [dispatch, payAs, call_ok] at ran
    obtain ⟨_, ⟨signed, paid⟩, rfl⟩ := ran
    refine Effect.quiet _ _ (fun _ => ⟨rfl, rfl⟩) id id rfl rfl rfl rfl (fun read => ?_)
      (pay_moved paid) (fun _ => rfl) (by simp)
    exact_mod_cast tokens.pay_le paid (env.ne_contract signed).symm read

end SorobanPlayground.SportsBetting
