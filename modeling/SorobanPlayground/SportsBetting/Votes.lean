import SorobanPlayground.SportsBetting.Books

/-! # Votes of a betting contract

Every recorded vote is a ballot of another oracle, so a count of votes is a number of oracles. The
vote that reaches the threshold settles the market.
-/

namespace SorobanPlayground.SportsBetting

open Function State

variable {Address : Type} [DecidableEq Address] {contract : Address} {state next : State Address}
  {record later : Record Address} {market written : Market Address} {id : Nat} {oracle : Address}
  {outcome count : Nat} {ballot : Ballot}

/-- The record after a ballot. -/
def Record.vote (record : Record Address) (id : Nat) (oracle : Address) (ballot : Ballot) :
    Record Address :=
  { record with ballots := Function.update record.ballots (id, oracle) (some ballot) }

/-- What a vote leaves of the terms of a market. -/
structure SameTerms (market written : Market Address) : Prop where
  id : written.id = market.id
  token : written.token = market.token
  closeTime : written.closeTime = market.closeTime
  deadline : written.settlementDeadline = market.settlementDeadline
  threshold : written.oracleThreshold = market.oracleThreshold
  pools : written.pools = market.pools
  total : written.totalPool = market.totalPool

variable {votes feeBps : Nat}

section

omit [DecidableEq Address]

section

variable (verdict : Verdict market outcome votes feeBps written)

include verdict

theorem Verdict.sameTerms : SameTerms market written := by
  cases verdict with
  | waiting => exact ⟨rfl, rfl, rfl, rfl, rfl, rfl, rfl⟩
  | refunded => exact ⟨rfl, rfl, rfl, rfl, rfl, rfl, rfl⟩
  | won => exact ⟨rfl, rfl, rfl, rfl, rfl, rfl, rfl⟩

theorem Verdict.waits (still : written.status = .opened) :
    written = market ∧ votes < market.oracleThreshold := by
  cases verdict with
  | waiting few => exact ⟨rfl, few⟩
  | refunded => cases still
  | won => cases still

theorem Verdict.free (free : market.feeAmount = 0) (unresolved : written.status ≠ .resolved) :
    written.feeAmount = 0 := by
  cases verdict with
  | waiting => exact free
  | refunded => exact free
  | won => exact absurd rfl unresolved

end

end

theorem Cast.vote {other : Nat} {voter : Address} (cast : Cast record market other voter)
    (terms : SameTerms market written) (named : market.id = id)
    (fresh : record.ballots (id, oracle) = none) :
    Cast (record.vote id oracle ballot) written other voter := by
  obtain ⟨held, found, rest⟩ := cast
  refine ⟨held, ?_, by rw [terms.closeTime, terms.deadline]; exact rest⟩
  rw [named] at found
  rw [terms.id, named]
  refine (update_of_ne (fun same => ?_) _ _).trans found
  rw [same, fresh] at found
  cases found

theorem VotedBy.vote (voted : VotedBy record market outcome count)
    (terms : SameTerms market written) (named : market.id = id)
    (fresh : record.ballots (id, oracle) = none) (chosen : ballot.outcome = outcome)
    (timely : market.closeTime ≤ ballot.time ∧ ballot.time ≤ market.settlementDeadline)
    (eligible : ballot.byOracle = true) :
    VotedBy (record.vote id oracle ballot) written outcome (count + 1) := by
  obtain ⟨voters, apart, enough, cast⟩ := voted
  refine ⟨oracle :: voters, List.nodup_cons.mpr ⟨fun mem => ?_, apart⟩,
    Nat.succ_le_succ enough, List.forall_mem_cons.mpr ⟨?_, fun voter mem => ?_⟩⟩
  · obtain ⟨_, found, -⟩ := cast oracle mem
    rw [named, fresh] at found
    cases found
  · refine ⟨ballot, ?_, chosen, ?_, ?_, eligible⟩
    · rw [terms.id, named]
      exact update_self _ _ _
    · rw [terms.closeTime]
      exact timely.1
    · rw [terms.deadline]
      exact timely.2
  · exact (cast voter mem).vote terms named fresh

omit [DecidableEq Address] in
theorem VotedBy.le {fewer : Nat} (voted : VotedBy record market outcome count)
    (less : fewer ≤ count) : VotedBy record market outcome fewer := by
  obtain ⟨voters, apart, enough, cast⟩ := voted
  exact ⟨voters, apart, less.trans enough, cast⟩

theorem OpenBooks.pool_nonneg (before : OpenBooks state id market)
    (nonneg : ∀ key, 0 ≤ state.stakeOf key) {pool : Int}
    (found : market.pools[outcome]? = some pool) : 0 ≤ pool := by
  rw [before.outcomes outcome pool found]
  unfold betsOn sumBets
  refine total_nonneg fun key stake got => ?_
  have staked := nonneg key
  unfold stakeOf at staked
  rw [got] at staked
  dsimp only
  split
  · split
    · exact staked
    · exact le_rfl
  · exact le_rfl

theorem Verdict.winning (verdict : Verdict market outcome votes feeBps written)
    (opened : market.status = .opened) (resolved : written.status = .resolved)
    (before : OpenBooks state id market) (nonneg : ∀ key, 0 ≤ state.stakeOf key)
    (total : 0 ≤ market.totalPool) (fees : feeBps ≤ maxFeeBps)
    (elected : VotedBy later written outcome votes) :
    ∃ pool, Winning later written outcome pool ∧ pool = state.betsOn id outcome := by
  cases verdict with
  | waiting =>
    rw [opened] at resolved
    cases resolved
  | refunded => cases resolved
  | won pool enough found backed =>
    have pos := (before.pool_nonneg nonneg found).lt_of_ne backed.symm
    exact ⟨pool, ⟨rfl, found, pos, Rounding.part_bounds total (fees.trans (by decide))
      (by decide), elected.le enough⟩, before.outcomes outcome pool found⟩

theorem Verdict.owed_le (verdict : Verdict market outcome votes feeBps written)
    (opened : market.status = .opened) (before : OpenBooks state id market)
    (nonneg : ∀ key, 0 ≤ state.stakeOf key) (total : 0 ≤ market.totalPool)
    (fees : feeBps ≤ maxFeeBps) (free : market.feeAmount = 0) :
    state.owed id written ≤ state.owed id market := by
  have unresolved : market.status ≠ .resolved := by
    rw [opened]
    nofun
  rw [owed_unresolved unresolved free]
  cases verdict with
  | waiting => exact (owed_unresolved unresolved free).le
  | refunded =>
    refine (owed_unresolved ?_ ?_).le
    · nofun
    · exact free
  | won pool _ found backed =>
    have pos := (before.pool_nonneg nonneg found).lt_of_ne backed.symm
    rw [← before.staked]
    refine owed_resolved_le rfl rfl found pos (before.outcomes outcome pool found) ?_
    exact Rounding.part_bounds total (fees.trans (by decide)) (by decide)

theorem Books.voted (books : Books contract (state, record)) {env : Env Address contract}
    {config : Config Address} {markets : FiniteMap Nat (Market Address)}
    (setUp : state.config = some config) (eligible : state.isOracle oracle = true)
    (got : state.markets.get id = some market) (opened : market.status = .opened)
    (closed : market.closeTime ≤ env.timestamp) (timely : env.timestamp ≤ market.settlementDeadline)
    (fresh : state.votes.get (id, oracle) = none)
    (found : (state.countsOf id market)[outcome]? = some count)
    (verdict : Verdict market outcome (count + 1) config.feeBps written)
    (updated : (markets = state.markets ∧ written = market) ∨
      markets = state.markets.set written.id written) (same : next = { state with
      votes := state.votes.set (id, oracle) outcome
      voteCounts := state.voteCounts.set id ((state.countsOf id market).set outcome (count + 1))
      markets }) :
    Books contract
      (next, record.vote id oracle ⟨outcome, env.timestamp, state.isOracle oracle⟩) := by
  have booked := books.booked id market got
  have before := booked.opened opened
  have terms := verdict.sameTerms
  have named := booked.named.1
  have unballoted := books.unvoted (id, oracle) fresh
  have fees := books.fees config setUp
  have unresolved : market.status ≠ .resolved := by
    rw [opened]
    nofun
  have free := booked.free unresolved
  have written_markets : next.markets = state.markets.set id written := by
    rw [same]
    rcases updated with ⟨rfl, rfl⟩ | rfl
    · exact (set_of_get got).symm
    · rw [terms.id, named]
  have bets : next.bets = state.bets := by rw [same]
  have counts : next.countsOf id written = (state.countsOf id market).set outcome (count + 1) := by
    unfold countsOf
    rw [same]
    rw [get_set_self]
    rfl
  have sums : ∀ weight, next.sumBets id weight = state.sumBets id weight := fun weight =>
    sumBets_congr fun key _ => by rw [bets]
  have stake : ∀ key, next.stakeOf key = state.stakeOf key := by
    intro key
    unfold stakeOf
    rw [bets]
  have tally : ∀ other votes : Nat, (next.countsOf id written)[other]? = some votes →
      VotedBy (record.vote id oracle ⟨outcome, env.timestamp, state.isOracle oracle⟩) written other
        votes := by
    intro other votes held
    rw [counts, List.getElem?_set] at held
    split at held
    · next chosen =>
      subst chosen
      rw [if_pos (List.getElem?_eq_some_iff.mp found).1] at held
      cases held
      exact (booked.tally outcome count found).vote terms named unballoted rfl ⟨closed, timely⟩
        eligible
    · exact (booked.tally other votes held).mono fun voter cast => cast.vote terms named unballoted
  have elected : VotedBy (record.vote id oracle ⟨outcome, env.timestamp, state.isOracle oracle⟩)
      written outcome (count + 1) :=
    (booked.tally outcome count found).vote terms named unballoted rfl ⟨closed, timely⟩ eligible
  have others : Elsewhere id state next record
      (record.vote id oracle ⟨outcome, env.timestamp, state.isOracle oracle⟩) := by
    refine ⟨fun _ _ => by rw [bets], fun other ne => ?_, fun key ne => ?_,
      fun _ _ => rfl, fun _ _ => rfl, fun key ne => ?_⟩
    · rw [same]
      exact get_set_of_ne _ _ ne
    · rw [same]
      exact get_set_of_ne _ _ fun other => ne (congrArg Prod.fst other)
    · exact update_of_ne (fun other => ne (congrArg Prod.fst other)) _ _
  refine books.write others (books.set got) (by rw [same]) (by rw [same]) written_markets
    (by rw [same]) ?_ (fun other place => ?_) (fun other place => ?_) (fun voter gone => ?_)
    fun read => ?_
  · refine ⟨⟨terms.id.trans named, by rw [same]; exact booked.named.2⟩, ?_, ?_,
      fun other place staked => ?_, ?_, tally, fun still => ?_, fun _ => ?_, fun resolved => ?_⟩
    · exact terms.threshold.trans_le booked.threshold
    · rw [terms.total]
      exact booked.total
    · rw [stake] at staked
      rw [terms.pools]
      exact booked.outcomes other place staked
    · rw [counts, List.length_set, terms.pools]
      exact booked.counts
    · obtain ⟨rfl, few⟩ := verdict.waits still
      refine ⟨before.pooled, before.staked.trans (sums _).symm, fun other pool held =>
        (before.outcomes other pool held).trans (sums _).symm, fun other votes held => ?_⟩
      rw [counts, List.getElem?_set] at held
      split at held
      · rw [if_pos (List.getElem?_eq_some_iff.mp found).1] at held
        cases held
        exact few
      · exact before.undecided other votes held
    · next still => exact verdict.free free still
    · obtain ⟨pool, winning, -⟩ := verdict.winning opened resolved before books.nonneg
        booked.total.1 fees elected
      exact ⟨outcome, pool, winning⟩
  · rw [stake]
    exact books.nonneg _
  · refine (books.once (id, other, place)).keep (stake _) rfl rfl fun found held done => ?_
    cases got.symm.trans held
    exact absurd opened done
  · have ne : voter ≠ oracle := by
      rintro rfl
      rw [same] at gone
      rw [get_set_self] at gone
      cases gone
    have apart : (id, voter) ≠ (id, oracle) := fun other => ne (Prod.mk.inj other).2
    refine (update_of_ne apart _ _).trans (books.unvoted (id, voter) ?_)
    rw [same] at gone
    exact (get_set_of_ne _ _ apart).symm.trans gone
  · have owed := verdict.owed_le opened before books.nonneg booked.total.1 fees free
    have ledgers : next.ledger = state.ledger := by rw [same]
    rw [got, weightAt_some, ledgers, sub_self]
    dsimp only at owed
    have kept : next.owed id written = state.owed id written := by
      unfold State.owed
      rw [sums]
    unfold owedIn
    rw [terms.token, kept]
    split <;> omega

end SorobanPlayground.SportsBetting
