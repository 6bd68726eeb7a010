import SorobanPlayground.Library.Rounding
import SorobanPlayground.SportsBetting.Settlement

/-! # Books of a betting contract

While a market is open its pools are the sums of its bets. A settlement owes no more than the
pool, since the shares of the winners are rounded down, and every claim lowers what is owed by
what it is paid.
-/

namespace SorobanPlayground.SportsBetting

open Function List

variable {Address : Type} [DecidableEq Address] {contract : Address}

structure OpenBooks (state : State Address) (id : Nat) (market : Market Address) : Prop where
  pooled : market.pools.sum = market.totalPool
  staked : market.totalPool = state.betsOf id
  outcomes : ∀ outcome pool, market.pools[outcome]? = some pool → pool = state.betsOn id outcome
  undecided : ∀ outcome count : Nat, (state.countsOf id market)[outcome]? = some count →
    count < market.oracleThreshold

/-- The books of a resolved market. -/
structure Winning (record : Record Address) (market : Market Address) (outcome : Nat) (pool : Int) :
    Prop where
  winner : market.winningOutcome = some outcome
  chosen : market.pools[outcome]? = some pool
  positive : 0 < pool
  fee : 0 ≤ market.feeAmount ∧ market.feeAmount ≤ market.totalPool
  elected : VotedBy record market outcome market.oracleThreshold

structure Booked (state : State Address) (record : Record Address) (id : Nat)
    (market : Market Address) : Prop where
  named : market.id = id ∧ id < state.marketCount
  threshold : market.oracleThreshold ≤ maxOracles
  total : 0 ≤ market.totalPool ∧ market.totalPool ≤ i128Max
  outcomes : ∀ bettor outcome, state.stakeOf (id, bettor, outcome) ≠ 0 →
    outcome < market.pools.length
  counts : (state.countsOf id market).length = market.pools.length
  tally : ∀ outcome count : Nat, (state.countsOf id market)[outcome]? = some count →
    VotedBy record market outcome count
  opened : market.status = .opened → OpenBooks state id market
  free : market.status ≠ .resolved → market.feeAmount = 0
  resolved : market.status = .resolved → ∃ outcome pool, Winning record market outcome pool

/-- Nothing is recorded for a market that does not exist. -/
structure Unused (state : State Address) (id : Nat) : Prop where
  counts : state.voteCounts.get id = none
  stakes : ∀ bettor outcome, state.stakeOf (id, bettor, outcome) = 0

structure Books (contract : Address) (account : State Address × Record Address) : Prop where
  started : account.1.config = none → account.1.markets = ∅
  fees : ∀ config, account.1.config = some config → config.feeBps ≤ maxFeeBps
  oracles : account.1.oracleCount ≤ maxOracles
  booked : ∀ id market, account.1.markets.get id = some market →
    Booked account.1 account.2 id market
  unused : ∀ id, account.1.markets.get id = none → Unused account.1 id
  nonneg : ∀ key, 0 ≤ account.1.stakeOf key
  once : ∀ key, PaidOnce account.1 account.2 key
  unvoted : ∀ key, account.1.votes.get key = none → account.2.ballots key = none
  covered : ∀ token,
    account.1.markets.total (account.1.owedIn token) ≤ account.1.ledger token contract

/-- Nothing changes outside one market. -/
structure Elsewhere (id : Nat) (state next : State Address) (record later : Record Address) :
    Prop where
  bets : ∀ key, key.1 ≠ id → next.bets.get key = state.bets.get key
  counts : ∀ other ≠ id, next.voteCounts.get other = state.voteCounts.get other
  votes : ∀ key, key.1 ≠ id → next.votes.get key = state.votes.get key
  staked : ∀ key, key.1 ≠ id → later.staked key = record.staked key
  claims : ∀ key, key.1 ≠ id → later.claims key = record.claims key
  ballots : ∀ key, key.1 ≠ id → later.ballots key = record.ballots key

variable {state next : State Address} {record later : Record Address}
  {market written : Market Address} {id : Nat}

omit [DecidableEq Address] in
theorem VotedBy.mono {outcome count : Nat} (voted : VotedBy record market outcome count)
    (kept : ∀ voter, Cast record market outcome voter → Cast later written outcome voter) :
    VotedBy later written outcome count := by
  obtain ⟨voters, apart, enough, cast⟩ := voted
  exact ⟨voters, apart, enough, fun voter mem => kept voter (cast voter mem)⟩

variable {other : Nat} {found : Market Address}

section

variable (elsewhere : Elsewhere id state next record later)

include elsewhere

theorem Elsewhere.stakeOf {key : BetKey Address} (ne : key.1 ≠ id) :
    next.stakeOf key = state.stakeOf key := by
  unfold State.stakeOf
  rw [elsewhere.bets key ne]

theorem Elsewhere.sumBets (ne : other ≠ id) (weight : Nat → Int → Int) :
    next.sumBets other weight = state.sumBets other weight :=
  sumBets_congr fun key same => elsewhere.bets key (same ▸ ne)

theorem Elsewhere.countsOf (ne : other ≠ id) :
    next.countsOf other found = state.countsOf other found := by
  unfold State.countsOf
  rw [elsewhere.counts other ne]

theorem Elsewhere.booked (ne : other ≠ id) (count : state.marketCount ≤ next.marketCount)
    (booked : Booked state record other found) : Booked next later other found := by
  have counts : next.countsOf other found = state.countsOf other found :=
    elsewhere.countsOf ne
  have cast : ∀ outcome voter,
      Cast record found outcome voter → Cast later found outcome voter := by
    rintro outcome _ ⟨ballot, held, rest⟩
    refine ⟨ballot, ?_, rest⟩
    rw [elsewhere.ballots _ (by rw [booked.named.1]; exact ne), held]
  refine ⟨⟨booked.named.1, booked.named.2.trans_le count⟩, booked.threshold, booked.total, ?_, ?_,
    ?_, fun opened => ?_, booked.free, fun resolved => ?_⟩
  · intro bettor outcome staked
    rw [elsewhere.stakeOf ne] at staked
    exact booked.outcomes bettor outcome staked
  · rw [counts]
    exact booked.counts
  · intro outcome count held
    rw [counts] at held
    exact (booked.tally outcome count held).mono (cast outcome)
  · have before := booked.opened opened
    refine ⟨before.pooled, ?_, fun outcome pool held => ?_, fun outcome count held => ?_⟩
    · exact before.staked.trans (elsewhere.sumBets ne _).symm
    · exact (before.outcomes outcome pool held).trans (elsewhere.sumBets ne _).symm
    · rw [counts] at held
      exact before.undecided outcome count held
  · obtain ⟨outcome, pool, winning⟩ := booked.resolved resolved
    exact ⟨outcome, pool, { winning with elected := winning.elected.mono (cast outcome) }⟩

theorem Elsewhere.owedIn (ne : other ≠ id) (token : Address) :
    next.owedIn token other found = state.owedIn token other found := by
  unfold State.owedIn State.owed
  rw [elsewhere.sumBets ne]

end

theorem Books.write (books : Books contract (state, record))
    (elsewhere : Elsewhere id state next record later) (set : state.config ≠ none)
    (config : next.config = state.config) (oracles : next.oracleCount = state.oracleCount)
    (markets : next.markets = state.markets.set id written)
    (count : state.marketCount ≤ next.marketCount) (booked : Booked next later id written)
    (nonneg : ∀ bettor outcome, 0 ≤ next.stakeOf (id, bettor, outcome))
    (once : ∀ bettor outcome, PaidOnce next later (id, bettor, outcome))
    (unvoted : ∀ voter, next.votes.get (id, voter) = none → later.ballots (id, voter) = none)
    (balance : ∀ token, next.owedIn token id written -
        FiniteMap.weightAt (state.owedIn token) id (state.markets.get id) ≤
      next.ledger token contract - state.ledger token contract) : Books contract (next, later) where
  started unset := absurd (config.symm.trans unset) set
  fees := by
    rw [config]
    exact books.fees
  oracles := oracles.trans_le books.oracles
  booked other found got := by
    rw [markets, get_set] at got
    split at got
    · next same =>
      cases got
      rwa [same]
    · next ne => exact elsewhere.booked ne count (books.booked other found got)
  unused other gone := by
    rw [markets, get_set] at gone
    split at gone
    · cases gone
    · next ne =>
      have before := books.unused other gone
      refine ⟨(elsewhere.counts other ne).trans before.counts, fun bettor outcome => ?_⟩
      rw [elsewhere.stakeOf ne]
      exact before.stakes bettor outcome
  nonneg key := by
    obtain ⟨other, bettor, outcome⟩ := key
    by_cases same : other = id
    · subst same
      exact nonneg bettor outcome
    · rw [elsewhere.stakeOf same]
      exact books.nonneg _
  once key := by
    obtain ⟨other, bettor, outcome⟩ := key
    by_cases same : other = id
    · subst same
      exact once bettor outcome
    · have before := books.once (other, bettor, outcome)
      unfold PaidOnce at before ⊢
      rw [elsewhere.stakeOf same, elsewhere.claims _ same, elsewhere.staked _ same, markets,
        get_set_of_ne _ _ same]
      exact before
  unvoted key gone := by
    obtain ⟨other, voter⟩ := key
    by_cases same : other = id
    · subst same
      exact unvoted voter gone
    · rw [elsewhere.votes _ same] at gone
      rw [elsewhere.ballots _ same]
      exact books.unvoted _ gone
  covered token := by
    have before := books.covered token
    have change := balance token
    have total : (state.markets.set id written).total (next.owedIn token) =
        state.markets.total (state.owedIn token) -
          FiniteMap.weightAt (state.owedIn token) id (state.markets.get id) +
          next.owedIn token id written :=
      FiniteMap.total_set_reweigh state.markets id written
        fun index held ne => elsewhere.owedIn ne token
    dsimp only at before ⊢
    rw [markets, total]
    omega

omit [DecidableEq Address] in
theorem payoutOf_unresolved (unresolved : market.status ≠ .resolved) :
    payoutOf market = fun _ stake => stake := by
  funext outcome stake
  exact if_neg unresolved

theorem owed_unresolved (unresolved : market.status ≠ .resolved) (free : market.feeAmount = 0) :
    state.owed id market = state.betsOf id := by
  unfold State.owed
  rw [payoutOf_unresolved unresolved, free, ite_self, add_zero]
  rfl

variable {outcome : Nat}

theorem owed_resolved_le {pool : Int} (resolved : written.status = .resolved)
    (winner : written.winningOutcome = some outcome) (chosen : written.pools[outcome]? = some pool)
    (pos : 0 < pool) (backed : pool = state.betsOn id outcome)
    (fee : 0 ≤ written.feeAmount ∧ written.feeAmount ≤ written.totalPool) :
    state.owed id written ≤ written.totalPool := by
  have value : ∀ other stake, payoutOf written other stake =
      (written.totalPool - written.feeAmount) * (if other = outcome then stake else 0) / pool := by
    intro other stake
    unfold payoutOf
    rw [if_pos resolved, winner]
    by_cases same : other = outcome
    · subst same
      rw [if_pos rfl, if_pos rfl, chosen, mul_comm]
      rfl
    · rw [if_neg same, if_neg fun won => same (Option.some.inj won).symm, mul_zero, Int.zero_ediv]
  have shares : state.sumBets id (payoutOf written) ≤ written.totalPool - written.feeAmount := by
    calc state.sumBets id (payoutOf written)
        = state.bets.total fun key stake => (written.totalPool - written.feeAmount) *
            (if key.1 = id then (if key.2.2 = outcome then stake else 0) else 0) / pool := by
          refine total_congr _ fun key stake _ => ?_
          split
          · exact value key.2.2 stake
          · rw [mul_zero, Int.zero_ediv]
      _ ≤ (written.totalPool - written.feeAmount) * state.betsOn id outcome / pool := by
          refine (FiniteMap.total_ediv_le pos).trans_eq ?_
          rw [FiniteMap.total_mul_left]
          rfl
      _ = written.totalPool - written.feeAmount := by
          rw [← backed, Int.mul_ediv_cancel _ pos.ne']
  unfold State.owed
  split <;> omega

theorem Books.set (books : Books contract (state, record))
    (got : state.markets.get id = some market) : state.config ≠ none := by
  intro unset
  rw [books.started unset] at got
  cases got

theorem Books.fresh (books : Books contract (state, record)) :
    state.markets.get state.marketCount = none := by
  cases got : state.markets.get state.marketCount with
  | none => rfl
  | some found => exact absurd (books.booked _ found got).named.2 (Nat.lt_irrefl _)

theorem PaidOnce.keep {key : BetKey Address} (once : PaidOnce state record key)
    (stake : next.stakeOf key = state.stakeOf key) (staked : later.staked key = record.staked key)
    (claims : later.claims key = record.claims key)
    (settled : ∀ market, state.markets.get key.1 = some market → market.status ≠ .opened →
      ∃ after, next.markets.get key.1 = some after ∧ after.status ≠ .opened) :
    PaidOnce next later key := by
  unfold PaidOnce at once ⊢
  rw [stake, staked, claims]
  rcases once with unclaimed | ⟨claimed, paid, market, got, done⟩
  · exact .inl unclaimed
  · exact .inr ⟨claimed, paid, settled market got done⟩

omit [DecidableEq Address] in
theorem votedBy_zero (outcome : Nat) : VotedBy record market outcome 0 :=
  ⟨[], nodup_nil, Nat.zero_le _, nofun⟩

theorem Books.created (books : Books contract (state, record)) {outcomeCount : Nat}
    (config : state.config.isSome = true) (opened : Opened state outcomeCount written) :
    Books contract ({ state with
      markets := state.markets.set state.marketCount written
      marketCount := state.marketCount + 1 }, record) := by
  have unused := books.unused _ books.fresh
  have nothing : ∀ weight : Nat → Int → Int, (∀ outcome, weight outcome 0 = 0) →
      state.sumBets state.marketCount weight = 0 := fun weight =>
    sumBets_of_unstaked unused.stakes
  have betsOf : state.betsOf state.marketCount = 0 := nothing _ fun _ => rfl
  have betsOn : ∀ outcome, state.betsOn state.marketCount outcome = 0 := fun outcome =>
    nothing _ fun _ => ite_self 0
  have counts : state.countsOf state.marketCount written = List.replicate outcomeCount 0 := by
    unfold State.countsOf
    rw [unused.counts, opened.pools, length_replicate]
    rfl
  have zero : ∀ outcome count : Nat, (List.replicate outcomeCount 0)[outcome]? = some count →
      count = 0 := fun outcome count held => (mem_replicate.mp (mem_of_getElem? held)).2
  have unresolved : written.status ≠ .resolved := by
    rw [opened.status]
    nofun
  have owed : state.owed state.marketCount written = 0 := by
    unfold State.owed
    rw [payoutOf_unresolved unresolved, nothing _ fun _ => rfl, opened.fee, ite_self, add_zero]
  refine books.write ⟨fun _ _ => rfl, fun _ _ => rfl, fun _ _ => rfl, fun _ _ => rfl,
    fun _ _ => rfl, fun _ _ => rfl⟩ (Option.isSome_iff_ne_none.mp config) rfl rfl rfl
    (Nat.le_succ _) ?_ (fun _ _ => books.nonneg _) (fun bettor outcome => ?_)
    (fun voter => books.unvoted _) fun read => ?_
  · refine ⟨⟨opened.named, Nat.lt_succ_self _⟩, opened.threshold.2.trans books.oracles, ?_,
      fun bettor outcome staked => absurd (unused.stakes bettor outcome) staked, ?_,
      fun outcome count held => ?_, fun _ => ⟨?_, ?_, fun outcome pool held => ?_,
      fun outcome count held => ?_⟩, fun _ => opened.fee,
      fun resolved => absurd resolved unresolved⟩
    · rw [opened.total]
      decide
    · change (state.countsOf state.marketCount written).length = written.pools.length
      rw [counts, opened.pools, length_replicate, length_replicate]
    · change (state.countsOf state.marketCount written)[outcome]? = some count at held
      rw [counts] at held
      rw [zero outcome count held]
      exact votedBy_zero outcome
    · rw [opened.pools, opened.total, sum_replicate, nsmul_zero]
    · exact opened.total.trans betsOf.symm
    · rw [opened.pools] at held
      exact (mem_replicate.mp (mem_of_getElem? held)).2.trans (betsOn outcome).symm
    · change (state.countsOf state.marketCount written)[outcome]? = some count at held
      rw [counts] at held
      rw [zero outcome count held]
      exact opened.threshold.1
  · refine (books.once _).keep rfl rfl rfl fun found got => ?_
    rw [books.fresh] at got
    cases got
  · rw [books.fresh, weightAt_none, sub_zero, sub_self]
    refine (?_ : state.owedIn read state.marketCount written = 0).le
    unfold State.owedIn
    rw [owed, ite_self]

variable {bettor : Address} {stake : Int}

theorem betsOf_set (bets : next.bets = state.bets.set (id, bettor, outcome) stake) :
    next.betsOf id = state.betsOf id - state.stakeOf (id, bettor, outcome) + stake :=
  sumBets_set bets rfl

theorem betsOn_set (bets : next.bets = state.bets.set (id, bettor, outcome) stake) (other : Nat) :
    next.betsOn id other = state.betsOn id other -
      (if outcome = other then state.stakeOf (id, bettor, outcome) else 0) +
        if outcome = other then stake else 0 :=
  sumBets_set bets (ite_self 0)

theorem stakeOf_set {place : BetKey Address}
    (bets : next.bets = state.bets.set place stake) (key : BetKey Address) :
    next.stakeOf key = if key = place then stake else state.stakeOf key := by
  unfold State.stakeOf
  rw [bets, get_set]
  split <;> rfl

theorem countsOf_congr (voteCounts : next.voteCounts.get id = state.voteCounts.get id)
    (length : written.pools.length = market.pools.length) :
    next.countsOf id written = state.countsOf id market := by
  unfold State.countsOf
  rw [voteCounts, length]

theorem OpenBooks.bet {amount pool : Int}
    (before : OpenBooks state id market) (found : market.pools[outcome]? = some pool)
    (bets : next.bets = state.bets.set (id, bettor, outcome)
      (state.stakeOf (id, bettor, outcome) + amount))
    (voteCounts : next.voteCounts = state.voteCounts) :
    OpenBooks next id { market with
      totalPool := market.totalPool + amount
      pools := market.pools.set outcome (pool + amount) } where
  pooled := by
    obtain ⟨inside, rfl⟩ := List.getElem?_eq_some_iff.mp found
    dsimp only
    rw [sum_set', dif_pos inside, before.pooled]
    omega
  staked := by
    dsimp only
    rw [betsOf_set bets, before.staked]
    omega
  outcomes other held got := by
    rw [betsOn_set bets]
    rw [List.getElem?_set] at got
    split at got
    · next same =>
      subst same
      rw [if_pos (List.getElem?_eq_some_iff.mp found).1] at got
      cases got
      rw [if_pos rfl, if_pos rfl, before.outcomes outcome pool found]
      omega
    · next ne =>
      rw [if_neg ne, if_neg ne, sub_zero, add_zero]
      exact before.outcomes other held got
  undecided other count held := by
    have counts : next.countsOf id { market with
        totalPool := market.totalPool + amount
        pools := market.pools.set outcome (pool + amount) } = state.countsOf id market :=
      countsOf_congr (by rw [voteCounts]) length_set
    rw [counts] at held
    exact before.undecided other count held

theorem Books.bet (books : Books contract (state, record)) {amount pool : Int}
    {ledger : TokenLedger Address} (outside : bettor ≠ contract) (pos : 0 < amount)
    (got : state.markets.get id = some market) (opened : market.status = .opened)
    (found : market.pools[outcome]? = some pool) (fits : InI128 (market.totalPool + amount))
    (paid : Moved [⟨market.token, bettor, contract, amount⟩] state.ledger ledger)
    (same : next = { state with
      bets := state.bets.set (id, bettor, outcome) (state.stakeOf (id, bettor, outcome) + amount)
      markets := state.markets.set market.id { market with
        totalPool := market.totalPool + amount
        pools := market.pools.set outcome (pool + amount) }
      ledger }) :
    Books contract (next, { record with
      staked := update record.staked (id, bettor, outcome)
        (record.staked (id, bettor, outcome) + amount) }) := by
  have booked := books.booked id market got
  have before := booked.opened opened
  have unresolved : market.status ≠ .resolved := by
    rw [opened]
    nofun
  have inside := (List.getElem?_eq_some_iff.mp found).1
  have bets : next.bets = state.bets.set (id, bettor, outcome)
      (state.stakeOf (id, bettor, outcome) + amount) := by rw [same]
  have voteCounts : next.voteCounts = state.voteCounts := by rw [same]
  have markets : next.markets = state.markets.set id { market with
      totalPool := market.totalPool + amount
      pools := market.pools.set outcome (pool + amount) } := by
    rw [same, ← booked.named.1]
  have after := before.bet found bets voteCounts
  have counts : next.countsOf id { market with
      totalPool := market.totalPool + amount
      pools := market.pools.set outcome (pool + amount) } = state.countsOf id market :=
    countsOf_congr (by rw [voteCounts]) length_set
  have elsewhere : Elsewhere id state next record { record with
      staked := update record.staked (id, bettor, outcome)
        (record.staked (id, bettor, outcome) + amount) } := by
    refine ⟨fun key ne => ?_, fun _ _ => by rw [voteCounts], fun _ _ => by rw [same],
      fun key ne => ?_, fun _ _ => rfl, fun _ _ => rfl⟩
    · rw [bets]
      exact get_set_of_ne _ _ fun other => ne (congrArg Prod.fst other)
    · exact update_of_ne (fun other => ne (congrArg Prod.fst other)) _ _
  refine books.write elsewhere (books.set got) (by rw [same]) (by rw [same]) markets
    (by rw [same]) ?_ (fun other place => ?_) (fun other place => ?_)
    (fun voter gone => books.unvoted (id, voter) (by rwa [same] at gone)) fun read => ?_
  · refine ⟨⟨booked.named.1, by rw [same]; exact booked.named.2⟩, booked.threshold, ⟨?_, fits.2⟩,
      fun other place staked => ?_, ?_, fun other count held => ?_, fun _ => after,
      fun _ => booked.free unresolved, fun resolved => absurd resolved unresolved⟩
    · exact add_nonneg booked.total.1 pos.le
    · rw [length_set]
      rw [stakeOf_set bets] at staked
      split at staked
      · next own =>
        obtain rfl := (Prod.mk.inj (Prod.mk.inj own).2).2
        exact inside
      · exact booked.outcomes other place staked
    · rw [counts, length_set]
      exact booked.counts
    · rw [counts] at held
      exact booked.tally other count held
  · rw [stakeOf_set bets]
    split
    · exact add_nonneg (books.nonneg _) pos.le
    · exact books.nonneg _
  · by_cases own : (id, other, place) = (id, bettor, outcome)
    · rw [own]
      rcases books.once (id, bettor, outcome) with ⟨unclaimed, staked⟩ | ⟨-, -, found, held, done⟩
      · refine .inl ⟨unclaimed, ?_⟩
        dsimp only at staked ⊢
        rw [stakeOf_set bets, if_pos rfl, update_self, staked]
      · cases got.symm.trans held
        exact absurd opened done
    · refine (books.once (id, other, place)).keep ?_ (update_of_ne own _ _) rfl
        fun found held done => ?_
      · rw [stakeOf_set bets, if_neg own]
      · cases got.symm.trans held
        exact absurd opened done
  · have free := booked.free unresolved
    have owed : next.owed id { market with
        totalPool := market.totalPool + amount
        pools := market.pools.set outcome (pool + amount) } = state.owed id market + amount := by
      refine (owed_unresolved ?_ ?_).trans ?_
      · exact unresolved
      · exact free
      · rw [owed_unresolved unresolved free, betsOf_set bets]
        omega
    have ledgers : next.ledger = ledger := by rw [same]
    have balance := paid read contract
    rw [movedBy_cons, movedBy_nil] at balance
    dsimp only at balance
    rw [transferDelta_in outside, if_congr (eq_comm : read = market.token ↔ _) rfl rfl] at balance
    rw [got, weightAt_some, ledgers]
    unfold State.owedIn
    split_ifs at balance ⊢ <;> omega

end SorobanPlayground.SportsBetting
