import SorobanPlayground.SportsBetting.Claims

/-! # Payouts of a betting contract

The contract always covers what it owes. A settlement is stuck exactly where a product of a stake
and the pool, or of the pool and the fee rate, leaves `i128`.
-/

namespace SorobanPlayground.SportsBetting

variable {Address : Type} [DecidableEq Address] {contract : Address}

theorem Books.lawful {account : State Address × Record Address} (books : Books contract account) :
    Lawful contract account where
  pooled id market got opened := by
    have before := (books.booked id market got).opened opened
    exact ⟨before.pooled, before.staked⟩
  elected id market got resolved := by
    obtain ⟨outcome, _, winning⟩ := (books.booked id market got).resolved resolved
    exact ⟨outcome, winning.winner, winning.elected⟩
  covered := books.covered
  once := books.once

variable {state next : State Address} {record : Record Address} {market written : Market Address}
  {id : Nat}

theorem Books.paid (books : Books contract (state, record))
    {call : Env Address contract × Operation Address} (effect : Effect contract state call next) :
    Moved (payments contract state call.2) state.ledger next.ledger := by
  have still : Moved [] state.ledger state.ledger := moved_nil state.ledger
  cases effect with
  | quiet _ _ _ _ _ _ _ _ _ _ paid =>
    exact paid
  | created => exact still
  | bet _ _ _ _ _ _ _ _ _ _ got _ _ _ paid =>
    dsimp only [payments]
    rw [got]
    exact paid
  | voted => exact still
  | expired => exact still
  | claimed _ bettor id outcome market _ _ got settled _ eq paid =>
    have booked := books.booked id market got
    have nonneg : 0 ≤ state.stakeOf (id, bettor, outcome) := books.nonneg _
    obtain ⟨-, rfl⟩ := (booked.computePayout_eq_ok settled nonneg).mp eq
    dsimp only [payments]
    rw [got]
    exact paid (booked.payoutOf_nonneg nonneg)
  | feeClaimed _ id market _ _ setUp got settled _ paid =>
    obtain ⟨_, _, winning⟩ := (books.booked id market got).resolved settled
    dsimp only [payments]
    rw [got, setUp]
    exact paid winning.fee.1

/-- What a call makes of a market. -/
inductive Later (call : Operation Address) (id : Nat) (market : Market Address) :
    Market Address → Prop
  | same : Later call id market market
  | unresolved (written : Market Address) (opened : market.status = .opened)
      (still : written.status ≠ .resolved) : Later call id market written
  | won (written : Market Address) (oracle : Address) (outcome : Nat)
      (opened : market.status = .opened) (vote : call = .submitResult oracle id outcome)
      (winner : written.winningOutcome = some outcome) : Later call id market written
  | feeClaimed : Later call id market { market with feeClaimed := true }

variable {call : Operation Address} {found : Market Address}

theorem later_of_set {other : Nat} (got : state.markets.get id = some market)
    (held : state.markets.get other = some found) (later : Later call id market written) :
    ∃ after, (state.markets.set id written).get other = some after ∧
      Later call other found after := by
  by_cases same : other = id
  · subst same
    cases got.symm.trans held
    exact ⟨written, get_set_self _ _ _, later⟩
  · exact ⟨found, (get_set_of_ne _ _ same).trans held, Later.same⟩

theorem Books.later (books : Books contract (state, record))
    {call : Env Address contract × Operation Address} (effect : Effect contract state call next)
    {other : Nat} (held : state.markets.get other = some found) :
    ∃ after, next.markets.get other = some after ∧ Later call.2 other found after := by
  cases effect with
  | quiet _ _ _ _ _ markets =>
    rw [markets]
    exact ⟨found, held, Later.same⟩
  | created =>
    have ne : other ≠ state.marketCount := by
      rintro rfl
      rw [books.fresh] at held
      cases held
    exact ⟨found, (get_set_of_ne _ _ ne).trans held, Later.same⟩
  | bet _ _ id _ _ market _ _ _ _ got opened =>
    have named := (books.booked id market got).named.1
    rw [named]
    refine later_of_set got held (Later.unresolved _ opened ?_)
    rw [opened]
    nofun
  | voted _ oracle id outcome _ market _ _ _ _ _ got opened _ _ _ _ verdict updated =>
    have named := verdict.sameTerms.id.trans (books.booked id market got).named.1
    rcases updated with ⟨rfl, rfl⟩ | rfl
    · exact ⟨found, held, Later.same⟩
    · rw [named]
      refine later_of_set got held ?_
      cases verdict with
      | waiting => exact Later.same
      | refunded => exact Later.unresolved _ opened nofun
      | won => exact Later.won _ oracle outcome opened rfl rfl
  | expired _ id market got opened =>
    have named := (books.booked id market got).named.1
    rw [named]
    exact later_of_set got held (Later.unresolved _ opened nofun)
  | claimed =>
    exact ⟨found, held, Later.same⟩
  | feeClaimed _ id market _ _ _ got =>
    have named := (books.booked id market got).named.1
    subst named
    exact later_of_set got held Later.feeClaimed

section

omit [DecidableEq Address]

theorem Later.settles (later : Later call id market written) (opened : market.status = .opened)
    (resolved : written.status = .resolved) :
    ∃ oracle outcome, call = .submitResult oracle id outcome ∧
      written.winningOutcome = some outcome := by
  cases later with
  | same => cases opened.symm.trans resolved
  | unresolved _ _ still => exact absurd resolved still
  | won _ oracle outcome _ vote winner => exact ⟨oracle, outcome, vote, winner⟩
  | feeClaimed => cases opened.symm.trans resolved

theorem Later.final (later : Later call id market written) (settled : market.status ≠ .opened) :
    ∃ feeClaimed, written = { market with feeClaimed } := by
  cases later with
  | same => exact ⟨market.feeClaimed, rfl⟩
  | unresolved _ opened => exact absurd opened settled
  | won _ _ _ opened => exact absurd opened settled
  | feeClaimed => exact ⟨true, rfl⟩

end

variable {outcome : Nat}

theorem Books.payable (books : Books contract (state, record)) {bettor : Address}
    (got : state.markets.get id = some market) :
    payoutOf market outcome (state.stakeOf (id, bettor, outcome)) ≤
      state.ledger market.token contract := by
  have bets : ∀ other found, state.markets.get other = some found → ∀ place stake,
      state.bets.get place = some stake →
        0 ≤ if place.1 = other then payoutOf found place.2.2 stake else 0 := by
    intro other found held place stake placed
    have nonneg : 0 ≤ state.stakeOf place := books.nonneg place
    unfold State.stakeOf at nonneg
    rw [placed] at nonneg
    split
    · exact (books.booked other found held).payoutOf_nonneg nonneg
    · exact le_rfl
  have fees : ∀ other found, state.markets.get other = some found → 0 ≤ found.feeAmount := by
    intro other found held
    have booked := books.booked other found held
    by_cases resolved : found.status = .resolved
    · obtain ⟨_, _, winning⟩ := booked.resolved resolved
      exact winning.fee.1
    · exact (booked.free resolved).ge
  have unclaimed : ∀ other found, state.markets.get other = some found →
      0 ≤ if found.feeClaimed = true then 0 else found.feeAmount := by
    intro other found held
    split
    · exact le_rfl
    · exact fees other found held
  have part : payoutOf market outcome (state.stakeOf (id, bettor, outcome)) ≤
      state.sumBets id (payoutOf market) := by
    unfold State.stakeOf
    cases placed : state.bets.get (id, bettor, outcome) with
    | none =>
      rw [Option.getD_none, payoutOf_zero]
      exact total_nonneg (bets id market got)
    | some =>
      have weight := weight_le_total (bets id market got) placed
      rw [if_pos rfl] at weight
      exact weight
  have owed : ∀ other found, state.markets.get other = some found → 0 ≤ state.owed other found := by
    intro other found held
    exact add_nonneg (total_nonneg (bets other found held)) (unclaimed other found held)
  have own : state.owedIn market.token id market = state.owed id market := if_pos rfl
  calc payoutOf market outcome (state.stakeOf (id, bettor, outcome))
      ≤ state.owedIn market.token id market := by
        rw [own]
        exact part.trans (le_add_of_nonneg_right (unclaimed id market got))
    _ ≤ state.markets.total (state.owedIn market.token) := by
        refine weight_le_total (fun other found held => ?_) got
        unfold State.owedIn
        split
        · exact owed other found held
        · exact le_rfl
    _ ≤ state.ledger market.token contract := books.covered market.token

structure MayClaim (env : Env Address contract) (state : State Address) (bettor : Address)
    (id outcome : Nat) (market : Market Address) : Prop where
  signed : bettor ∈ env.auths
  stored : state.markets.get id = some market
  settled : market.status ≠ .opened
  staked : state.stakeOf (id, bettor, outcome) ≠ 0

structure MayVote (env : Env Address contract) (state : State Address) (oracle : Address)
    (id outcome : Nat) (config : Config Address) (market : Market Address) : Prop where
  setUp : state.config = some config
  unpaused : state.paused = false
  signed : oracle ∈ env.auths
  eligible : state.isOracle oracle = true
  stored : state.markets.get id = some market
  opened : market.status = .opened
  closed : market.closeTime ≤ env.timestamp
  timely : env.timestamp ≤ market.settlementDeadline
  inside : outcome < market.pools.length
  fresh : state.votes.get (id, oracle) = none

/-- If a vote settles a market with bets on the outcome, the product of the fee fits into
`i128`. -/
def FeeFits (state : State Address) (id outcome : Nat) (config : Config Address)
    (market : Market Address) : Prop :=
  ∀ count : Nat, (state.countsOf id market)[outcome]? = some count →
    market.oracleThreshold ≤ count + 1 → market.pools[outcome]? ≠ some 0 →
      InI128 (market.totalPool * config.feeBps)

variable {env : Env Address contract}

theorem Books.claim_isOk_iff (books : Books contract (state, record)) {tokens : TokenHost Address}
    (pays : tokens.PaysCovered) {bettor : Address}
    (may : MayClaim env state bettor id outcome market) :
    (∃ next, claim tokens env bettor id outcome state =
      .ok (payoutOf market outcome (state.stakeOf (id, bettor, outcome)), next)) ↔
        PayoutFits market outcome (state.stakeOf (id, bettor, outcome)) := by
  obtain ⟨signed, got, settled, staked⟩ := may
  have booked := books.booked id market got
  have nonneg : 0 ≤ state.stakeOf (id, bettor, outcome) := books.nonneg _
  simp only [claim, loadConfig, loadMarket, call_ok]
  constructor
  · rintro ⟨_, -, -, -, _, held, -, -, -, _, eq, -⟩
    cases got.symm.trans held
    exact ((booked.computePayout_eq_ok settled nonneg).mp eq).1
  · intro fits
    obtain ⟨ledger, paid⟩ : ∃ ledger, payIfPositive contract tokens state.ledger market.token bettor
        (payoutOf market outcome (state.stakeOf (id, bettor, outcome))) =
          (.ok ledger : Outcome Error _) :=
      pays.pay_positive bettor (books.payable got)
    obtain ⟨config, setUp⟩ := Option.ne_none_iff_exists'.mp (books.set got)
    exact ⟨_, config, setUp, signed, market, got,
      booked.outcomes bettor outcome staked, settled, staked, _,
      (booked.computePayout_eq_ok settled nonneg).mpr ⟨fits, rfl⟩, ledger, paid, rfl, rfl⟩

omit [DecidableEq Address] in
theorem settle_isOk_iff {outcome feeBps : Nat} {pool : Int}
    (found : market.pools[outcome]? = some pool) :
    (∃ written, settle market outcome feeBps = .ok written) ↔
      (market.pools[outcome]? ≠ some 0 → InI128 (market.totalPool * feeBps)) := by
  simp only [settle, found, bind_eq_ok, orTrap_eq_ok]
  by_cases empty : pool = 0
  · subst empty
    refine ⟨fun _ backed => absurd rfl backed, fun _ => ?_⟩
    exact ⟨{ market with status := .cancelled }, 0, rfl, rfl⟩
  · have backed : some pool ≠ some 0 := fun none => empty (Option.some.inj none)
    constructor
    · rintro ⟨_, _, ⟨⟩, ran⟩ -
      rw [if_neg empty] at ran
      obtain ⟨fee, eq, -⟩ := bind_eq_ok.mp ran
      exact ((checkedMulDiv_eq_ok (by decide)).mp eq).1
    · intro fits
      have fee : checkedMulDiv market.totalPool feeBps 10000 =
          .ok ((market.totalPool * feeBps).tdiv 10000) :=
        (checkedMulDiv_eq_ok (by decide)).mpr ⟨fits backed, rfl⟩
      exact ⟨_, pool, rfl, (if_neg empty).trans (bind_eq_ok.mpr ⟨_, fee, rfl⟩)⟩

theorem Books.submitResult_isOk_iff (books : Books contract (state, record)) {oracle : Address}
    {config : Config Address} (may : MayVote env state oracle id outcome config market) :
    (∃ settled next, submitResult env oracle id outcome state = .ok (settled, next)) ↔
      FeeFits state id outcome config market := by
  obtain ⟨setUp, unpaused, signed, eligible, got, opened, closed, timely, inside, fresh⟩ := may
  have booked := books.booked id market got
  obtain ⟨pool, chosen⟩ : ∃ pool, market.pools[outcome]? = some pool :=
    ⟨_, List.getElem?_eq_getElem inside⟩
  obtain ⟨count, tallied⟩ : ∃ count, (state.countsOf id market)[outcome]? = some count :=
    ⟨_, List.getElem?_eq_getElem (inside.trans_eq booked.counts.symm)⟩
  have few : count + 1 ≤ u32Max := by
    have undecided := (booked.opened opened).undecided outcome count tallied
    have threshold := booked.threshold
    have small : maxOracles ≤ u32Max := by decide
    omega
  have fits : FeeFits state id outcome config market ↔ (market.oracleThreshold ≤ count + 1 →
      ∃ written, settle market outcome config.feeBps = .ok written) := by
    rw [settle_isOk_iff chosen]
    refine ⟨fun fits enough => fits count tallied enough, fun fits other held enough => ?_⟩
    cases tallied.symm.trans held
    exact fits enough
  rw [fits]
  simp only [submitResult, loadConfig, ensureNotPaused, loadMarket, call_ok, orTrap_eq_ok, arith_ok,
    not_lt]
  constructor
  · rintro ⟨_, _, _, held, -, -, -, _, same, -, -, -, -, -, _, again, -,
      ran⟩ enough
    cases setUp.symm.trans held
    cases got.symm.trans same
    cases tallied.symm.trans again
    rw [if_pos enough] at ran
    obtain ⟨written, settled, -⟩ := bind_eq_ok.mp ran
    exact ⟨written, settled⟩
  · intro settles
    have unvoted : ¬ state.votes.has (id, oracle) = true :=
      Bool.not_eq_true _ ▸ has_eq_false.mpr fresh
    have running : ¬ state.paused = true := Bool.not_eq_true _ ▸ unpaused
    by_cases enough : market.oracleThreshold ≤ count + 1
    · obtain ⟨written, settled⟩ := settles enough
      exact ⟨_, _, config, setUp, running, signed, eligible, market, got, opened, closed, timely,
        inside, unvoted, count, tallied, few,
        (if_pos enough).trans (bind_eq_ok.mpr ⟨written, settled, rfl⟩)⟩
    · exact ⟨_, _, config, setUp, running, signed, eligible, market, got, opened, closed, timely,
        inside, unvoted, count, tallied, few, if_neg enough⟩

variable {tokens : TokenHost Address}

variable (contract) in
/-- Every vote and claim that may be made succeeds exactly when its product fits. -/
structure Answered (tokens : TokenHost Address) (state : State Address) : Prop where
  votes : ∀ (env : Env Address contract) (oracle : Address) (id outcome : Nat)
    (config : Config Address) (market : Market Address),
    MayVote env state oracle id outcome config market →
    ((∃ settled next, submitResult env oracle id outcome state = .ok (settled, next)) ↔
      FeeFits state id outcome config market)
  claims : ∀ (env : Env Address contract) (bettor : Address) (id outcome : Nat)
    (market : Market Address), MayClaim env state bettor id outcome market →
    ((∃ next, claim tokens env bettor id outcome state =
      .ok (payoutOf market outcome (state.stakeOf (id, bettor, outcome)), next)) ↔
      PayoutFits market outcome (state.stakeOf (id, bettor, outcome)))

variable (contract) in
/-- Every vote and claim that may be made succeeds. -/
structure Unstuck (tokens : TokenHost Address) (state : State Address) : Prop where
  votes : ∀ (env : Env Address contract) (oracle : Address) (id outcome : Nat)
    (config : Config Address) (market : Market Address),
    MayVote env state oracle id outcome config market →
    ∃ settled next, submitResult env oracle id outcome state = .ok (settled, next)
  claims : ∀ (env : Env Address contract) (bettor : Address) (id outcome : Nat)
    (market : Market Address), MayClaim env state bettor id outcome market →
    ∃ next, claim tokens env bettor id outcome state =
      .ok (payoutOf market outcome (state.stakeOf (id, bettor, outcome)), next)

variable (contract) in
/-- The products of all votes and claims that may be made fit. -/
structure Fitting (state : State Address) : Prop where
  votes : ∀ (env : Env Address contract) (oracle : Address) (id outcome : Nat)
    (config : Config Address) (market : Market Address),
    MayVote env state oracle id outcome config market → FeeFits state id outcome config market
  claims : ∀ (env : Env Address contract) (bettor : Address) (id outcome : Nat)
    (market : Market Address), MayClaim env state bettor id outcome market →
    PayoutFits market outcome (state.stakeOf (id, bettor, outcome))

theorem Answered.unstuck_iff {state : State Address} (answered : Answered contract tokens state) :
    Unstuck contract tokens state ↔ Fitting contract state := by
  constructor
  · intro unstuck
    refine ⟨fun env oracle id outcome config market may => ?_,
      fun env bettor id outcome market may => ?_⟩
    · exact (answered.votes env oracle id outcome config market may).mp
        (unstuck.votes env oracle id outcome config market may)
    · exact (answered.claims env bettor id outcome market may).mp
        (unstuck.claims env bettor id outcome market may)
  · intro fitting
    refine ⟨fun env oracle id outcome config market may => ?_,
      fun env bettor id outcome market may => ?_⟩
    · exact (answered.votes env oracle id outcome config market may).mpr
        (fitting.votes env oracle id outcome config market may)
    · exact (answered.claims env bettor id outcome market may).mpr
        (fitting.claims env bettor id outcome market may)

theorem books_empty (ledger : TokenLedger Address) : Books contract ({ ledger }, {}) where
  started := fun _ => rfl
  fees := nofun
  oracles := Nat.zero_le _
  booked := nofun
  unused := fun _ _ => ⟨rfl, fun _ _ => rfl⟩
  nonneg := fun _ => le_rfl
  once := fun _ => .inl ⟨rfl, rfl⟩
  unvoted := fun _ _ => rfl
  covered := fun _ => Int.natCast_nonneg _

theorem books_step (account : State Address × Record Address)
    (call : Env Address contract × Operation Address) (next : State Address × Record Address)
    (books : Books contract account)
    (ran : (recording tokens contract).exec account call = .ok next) : Books contract next :=
  withGhost_step ran fun _ done => books.step (dispatch_effect done)

theorem rightly_step (account : State Address × Record Address)
    (call : Env Address contract × Operation Address) (next : State Address × Record Address)
    (books : Books contract account)
    (ran : (recording tokens contract).exec account call = .ok next) :
    Rightly tokens account call := by
  have effect := dispatch_effect (withGhost_exec_eq_ok.mp ran).1
  have applied := apply_of_ok _ ran
  refine ⟨?_, fun id market got opened => ?_, fun id market got settled => ?_⟩
  · rw [applied]
    exact books.paid effect
  · rw [applied]
    obtain ⟨after, held, later⟩ := books.later effect got
    exact ⟨after, held, later.settles opened⟩
  · rw [applied]
    obtain ⟨_, held, later⟩ := books.later effect got
    obtain ⟨feeClaimed, rfl⟩ := later.final settled
    exact ⟨feeClaimed, held⟩

/-- In every run all markets are in order and pay rightly. Votes and claims succeed exactly when
their products fit, so nothing gets stuck exactly when all of them fit. -/
theorem settlements_unstuck_iff (pays : tokens.PaysCovered) (ledger : TokenLedger Address)
    (calls : List (Env Address contract × Operation Address)) :
    (recording tokens contract).Always (Lawful contract) ({ ledger }, {}) calls ∧
    (recording tokens contract).Meets (Rightly tokens) ({ ledger }, {}) calls ∧
    (recording tokens contract).Always (fun account => Answered contract tokens account.1)
      ({ ledger }, {}) calls ∧
    ((recording tokens contract).Always (fun account => Unstuck contract tokens account.1)
        ({ ledger }, {}) calls ↔
      (recording tokens contract).Always (fun account => Fitting contract account.1)
        ({ ledger }, {}) calls) := by
  have initial : Books contract (({ ledger }, {}) : State Address × Record Address) :=
    books_empty ledger
  have always : (recording tokens contract).Always (Books contract) ({ ledger }, {}) calls :=
    always_invariant books_step initial calls
  have answered : (recording tokens contract).Always
      (fun account => Answered contract tokens account.1) ({ ledger }, {}) calls :=
    always.mono fun _ books => ⟨fun _ _ _ _ _ _ may => books.submitResult_isOk_iff may,
      fun _ _ _ _ _ may => books.claim_isOk_iff pays may⟩
  refine ⟨always.mono fun _ books => books.lawful,
    meets_of_step books_step rightly_step initial calls, answered, ?_⟩
  exact CallMachine.always_congr answered fun _ answered => answered.unstuck_iff

/-! Two bettors stake 10 tokens of 18 decimals on different outcomes of a market of one oracle. -/

/-- A call that the addresses 1 and 2 authorize. -/
def signedAt (timestamp : Nat) : Env Nat 0 :=
  { timestamp, auths := [1, 2], contract_silent := zero_notMem_two_signers }

/-- The bettors 1 and 2 hold 10 tokens 9 each. -/
def funded : TokenLedger Nat := fun token holder =>
  if token = 9 ∧ (holder = 1 ∨ holder = 2) then 10000000000000000000 else 0

def rivals : List (Env Nat 0 × Operation Nat) :=
  [(signedAt 0, .initializeBetting 1 1 100), (signedAt 0, .addOracle 1),
    (signedAt 0, .createMarket "final" 9 2 10 20 1),
    (signedAt 1, .placeBet 2 0 0 10000000000000000000),
    (signedAt 1, .placeBet 1 0 1 10000000000000000000), (signedAt 15, .submitResult 1 0 0)]

theorem settlements_unstuck_iff_rivals :
    (recording standardHost 0).Always (Lawful 0) ({ ledger := funded }, {}) rivals ∧
    (recording standardHost 0).Meets (Rightly standardHost) ({ ledger := funded }, {}) rivals ∧
    (recording standardHost 0).Always (fun account => Answered 0 standardHost account.1)
      ({ ledger := funded }, {}) rivals ∧
    ((recording standardHost 0).Always (fun account => Unstuck 0 standardHost account.1)
        ({ ledger := funded }, {}) rivals ↔
      (recording standardHost 0).Always (fun account => Fitting 0 account.1)
        ({ ledger := funded }, {}) rivals) :=
  settlements_unstuck_iff standardHost_paysCovered funded rivals

/-- What the settled market of the rivals is. -/
def rivalMarket : Market Nat where
  id := 0
  eventId := "final"
  token := 9
  closeTime := 10
  settlementDeadline := 20
  oracleThreshold := 1
  status := .resolved
  winningOutcome := some 0
  pools := [10000000000000000000, 10000000000000000000]
  totalPool := 20000000000000000000
  feeAmount := 200000000000000000
  feeClaimed := false

/-- The market is settled, but the product of the winner's payout overflows. -/
theorem winner_is_stuck :
    MayClaim (signedAt 16) ((recording standardHost 0).run ({ ledger := funded }, {}) rivals).1
      2 0 0 rivalMarket ∧
    claim standardHost (signedAt 16) 2 0 0
      ((recording standardHost 0).run ({ ledger := funded }, {}) rivals).1 =
        .error (.error .arithmeticError) ∧
    ¬ (recording standardHost 0).Always (fun account => Unstuck 0 standardHost account.1)
      ({ ledger := funded }, {}) rivals := by
  have may : MayClaim (signedAt 16)
      ((recording standardHost 0).run ({ ledger := funded }, {}) rivals).1 2 0 0 rivalMarket :=
    ⟨by decide, rfl, by decide, by decide⟩
  have fails : claim standardHost (signedAt 16) 2 0 0
      ((recording standardHost 0).run ({ ledger := funded }, {}) rivals).1 =
        .error (.error .arithmeticError) := rfl
  refine ⟨may, fails, fun always => ?_⟩
  obtain ⟨_, succeeds⟩ := always.final.claims _ _ _ _ _ may
  cases fails.symm.trans succeeds

end SorobanPlayground.SportsBetting
