import SorobanPlayground.SportsBetting.Votes

/-! # Claims of a betting contract

A claim lowers what is owed by what it is paid. With it every call keeps the books.
-/

namespace SorobanPlayground.SportsBetting

open Function State

variable {Address : Type} [DecidableEq Address] {contract : Address} {state next : State Address}
  {record : Record Address} {market written : Market Address} {id : Nat}
  {ledger : TokenLedger Address}

section

variable (books : Books contract (state, record)) (got : state.markets.get id = some market)
include books got

theorem Books.reviewed (rest : next.config = state.config ∧ next.oracleCount = state.oracleCount ∧
      next.marketCount = state.marketCount ∧ next.bets = state.bets ∧
      next.votes = state.votes ∧ next.voteCounts = state.voteCounts)
    (markets : next.markets = state.markets.set market.id written)
    (terms : SameTerms market written) (settled : written.status ≠ .opened)
    (free : written.status ≠ .resolved → written.feeAmount = 0)
    (resolved : written.status = .resolved → ∃ outcome pool, Winning record written outcome pool)
    (balance : ∀ token, (if market.token = token then state.owed id written else 0) -
        (if market.token = token then state.owed id market else 0) ≤
      next.ledger token contract - (state.ledger token contract : Int)) :
    Books contract (next, record) := by
  have booked := books.booked id market got
  obtain ⟨config, oracles, count, bets, votes, voteCounts⟩ := rest
  have stake : ∀ key, next.stakeOf key = state.stakeOf key := by
    intro key
    unfold stakeOf
    rw [bets]
  have counts : next.countsOf id written = state.countsOf id market :=
    countsOf_congr (by rw [voteCounts]) (congrArg List.length terms.pools)
  have cast : ∀ outcome voter, Cast record market outcome voter →
      Cast record written outcome voter := by
    intro outcome voter held
    unfold Cast
    rw [terms.id, terms.closeTime, terms.deadline]
    exact held
  have others : Elsewhere id state next record record :=
    ⟨fun _ _ => by rw [bets], fun _ _ => by rw [voteCounts], fun _ _ => by rw [votes],
      fun _ _ => rfl, fun _ _ => rfl, fun _ _ => rfl⟩
  rw [booked.named.1] at markets
  refine books.write others (books.set got) config oracles markets count.ge ?_
    (fun bettor outcome => ?_) (fun bettor outcome => ?_)
    (fun voter gone => books.unvoted (id, voter) (by rwa [votes] at gone)) fun token => ?_
  · refine ⟨⟨terms.id.trans booked.named.1, count ▸ booked.named.2⟩, ?_, ?_,
      fun bettor outcome staked => ?_, ?_, fun outcome votes held => ?_,
      fun still => absurd still settled, free, resolved⟩
    · exact terms.threshold.trans_le booked.threshold
    · rw [terms.total]
      exact booked.total
    · rw [stake] at staked
      rw [terms.pools]
      exact booked.outcomes bettor outcome staked
    · rw [counts, terms.pools]
      exact booked.counts
    · rw [counts] at held
      exact (booked.tally outcome votes held).mono (cast outcome)
  · rw [stake]
    exact books.nonneg _
  · refine (books.once (id, bettor, outcome)).keep (stake _) rfl rfl fun found held done => ?_
    refine ⟨written, ?_, settled⟩
    rw [markets]
    exact get_set_self _ _ _
  · have change := balance token
    have kept : next.owed id written = state.owed id written := by
      have sums : next.sumBets id (payoutOf written) = state.sumBets id (payoutOf written) :=
        sumBets_congr fun key _ => by rw [bets]
      unfold owed
      rw [sums]
    rw [got, weightAt_some]
    unfold owedIn
    rw [terms.token, kept]
    exact change

theorem Books.expired (opened : market.status = .opened) :
    Books contract ({ state with
      markets := state.markets.set market.id { market with status := .cancelled } }, record) := by
  have unresolved : market.status ≠ .resolved := by
    rw [opened]
    nofun
  have free := (books.booked id market got).free unresolved
  have owed : state.owed id { market with status := .cancelled } = state.owed id market := by
    rw [owed_unresolved unresolved free]
    refine owed_unresolved ?_ ?_
    · nofun
    · exact free
  refine books.reviewed got ⟨rfl, rfl, rfl, rfl, rfl, rfl⟩ rfl
    ⟨rfl, rfl, rfl, rfl, rfl, rfl, rfl⟩ nofun (fun _ => free) nofun fun token => ?_
  rw [owed, sub_self, sub_self]

theorem Books.feeClaimed {recipient : Address} (settled : market.status = .resolved)
    (unclaimed : market.feeClaimed = false) (paid : 0 ≤ market.feeAmount →
      Moved [⟨market.token, contract, recipient, market.feeAmount⟩] state.ledger ledger) :
    Books contract ({ state with
      markets := state.markets.set market.id { market with feeClaimed := true }
      ledger }, record) := by
  obtain ⟨outcome, pool, winning⟩ := (books.booked id market got).resolved settled
  have owed : state.owed id { market with feeClaimed := true } =
      state.owed id market - market.feeAmount := by
    have payouts : payoutOf { market with feeClaimed := true } = payoutOf market := rfl
    unfold owed
    rw [payouts, unclaimed, if_pos rfl, if_neg Bool.false_ne_true]
    omega
  refine books.reviewed got ⟨rfl, rfl, rfl, rfl, rfl, rfl⟩ rfl
    ⟨rfl, rfl, rfl, rfl, rfl, rfl, rfl⟩ (fun opened => ?_) (absurd settled)
    (fun _ => ⟨outcome, pool, ?_⟩) fun token => ?_
  · rw [show market.status = .opened from opened] at settled
    cases settled
  · exact ⟨winning.winner, winning.chosen, winning.positive, winning.fee, winning.elected⟩
  · have left := (paid winning.fee.1).leaves winning.fee.1 token
    dsimp only
    split_ifs at left ⊢ <;> omega

end

/-- The product of the winner's payout fits into `i128`. -/
def PayoutFits (market : Market Address) (outcome : Nat) (stake : Int) : Prop :=
  market.status = .resolved → market.winningOutcome = some outcome →
    InI128 (stake * (market.totalPool - market.feeAmount))

variable {outcome : Nat}

theorem Booked.computePayout_eq_ok (booked : Booked state record id market)
    (settled : market.status ≠ .opened) {stake payout : Int} (nonneg : 0 ≤ stake) :
    computePayout market outcome stake = .ok payout ↔
      PayoutFits market outcome stake ∧ payoutOf market outcome stake = payout := by
  unfold computePayout PayoutFits payoutOf
  cases status : market.status with
  | opened => exact absurd status settled
  | cancelled =>
    rw [if_pos rfl, if_neg nofun, pure_eq_ok]
    exact ⟨fun same => ⟨nofun, same⟩, fun both => both.2⟩
  | resolved =>
    obtain ⟨winner, pool, winning⟩ := booked.resolved status
    rw [if_neg nofun, if_pos rfl]
    by_cases won : market.winningOutcome = some outcome
    · obtain rfl : winner = outcome := Option.mem_unique winning.winner won
      have rest : 0 ≤ market.totalPool - market.feeAmount := sub_nonneg.mpr winning.fee.2
      have range : InI128 (market.totalPool - market.feeAmount) := by
        have most := booked.total.2
        have least := winning.fee.1
        exact ⟨(by decide : i128Min ≤ 0).trans rest, by omega⟩
      rw [if_pos won, if_pos won, winning.chosen, Option.getD_some, ← Int.tdiv_eq_ediv_of_nonneg
        (mul_nonneg nonneg rest)]
      simp only [bind_eq_ok, arith_ok, orTrap_eq_ok]
      constructor
      · rintro ⟨-, _, ⟨⟩, eq⟩
        obtain ⟨fits, value⟩ := (checkedMulDiv_eq_ok winning.positive).mp eq
        exact ⟨fun _ _ => fits, value⟩
      · rintro ⟨fits, value⟩
        exact ⟨range, pool, rfl,
          (checkedMulDiv_eq_ok winning.positive).mpr ⟨fits trivial won, value⟩⟩
    · rw [if_neg won, if_neg won, pure_eq_ok]
      exact ⟨fun same => ⟨fun _ absurdity => absurd absurdity won, same⟩, fun both => both.2⟩

theorem Booked.payoutOf_nonneg (booked : Booked state record id market)
    {stake : Int} (nonneg : 0 ≤ stake) : 0 ≤ payoutOf market outcome stake := by
  unfold payoutOf
  split
  · next resolved =>
    obtain ⟨winner, _, winning⟩ := booked.resolved resolved
    split
    · next won =>
      obtain rfl : winner = outcome := Option.mem_unique winning.winner won
      rw [winning.chosen]
      exact Int.ediv_nonneg (mul_nonneg nonneg (sub_nonneg.mpr winning.fee.2)) winning.positive.le
    · exact le_rfl
  · exact nonneg

theorem Books.claimed (books : Books contract (state, record)) {bettor : Address}
    {payout : Int} (got : state.markets.get id = some market)
    (settled : market.status ≠ .opened) (staked : state.stakeOf (id, bettor, outcome) ≠ 0)
    (eq : computePayout market outcome (state.stakeOf (id, bettor, outcome)) = .ok payout)
    (paid : 0 ≤ payout → Moved [⟨market.token, contract, bettor, payout⟩] state.ledger ledger)
    (same : next = { state with
      bets := state.bets.set (id, bettor, outcome) 0
      ledger }) :
    Books contract (next, { record with
      claims := update record.claims (id, bettor, outcome)
        (record.claims (id, bettor, outcome) + 1) }) := by
  have booked := books.booked id market got
  have nonneg : 0 ≤ state.stakeOf (id, bettor, outcome) := books.nonneg _
  obtain ⟨-, rfl⟩ := (booked.computePayout_eq_ok settled nonneg).mp eq
  have bets : next.bets = state.bets.set (id, bettor, outcome) 0 := by rw [same]
  have markets : next.markets = state.markets.set id market := by
    rw [same]
    exact (set_of_get got).symm
  have others : Elsewhere id state next record { record with
      claims := update record.claims (id, bettor, outcome)
        (record.claims (id, bettor, outcome) + 1) } := by
    refine ⟨fun key ne => ?_, fun _ _ => by rw [same], fun _ _ => by rw [same],
      fun _ _ => rfl, fun key ne => ?_, fun _ _ => rfl⟩
    · rw [bets]
      exact get_set_of_ne _ _ fun other => ne (congrArg Prod.fst other)
    · exact update_of_ne (fun other => ne (congrArg Prod.fst other)) _ _
  have counts : next.countsOf id market = state.countsOf id market :=
    countsOf_congr (by rw [same]) rfl
  refine books.write others (books.set got) (by rw [same]) (by rw [same]) markets
    (by rw [same]) ?_ (fun other place => ?_) (fun other place => ?_)
    (fun voter gone => books.unvoted (id, voter) (by rwa [same] at gone)) fun read => ?_
  · refine ⟨⟨booked.named.1, by rw [same]; exact booked.named.2⟩, booked.threshold, booked.total,
      fun other place still => ?_, by rw [counts]; exact booked.counts, fun other votes held => ?_,
      fun opened => absurd opened settled, booked.free, fun resolved => ?_⟩
    · rw [stakeOf_set bets] at still
      split at still
      · exact absurd rfl still
      · exact booked.outcomes other place still
    · rw [counts] at held
      exact booked.tally other votes held
    · obtain ⟨winner, pool, winning⟩ := booked.resolved resolved
      exact ⟨winner, pool, winning.winner, winning.chosen, winning.positive, winning.fee,
        winning.elected⟩
  · rw [stakeOf_set bets]
    split
    · exact le_rfl
    · exact books.nonneg _
  · by_cases own : (id, other, place) = (id, bettor, outcome)
    · rw [own]
      refine .inr ⟨?_, ?_, market, ?_, settled⟩
      · rcases books.once (id, bettor, outcome) with ⟨unclaimed, -⟩ | ⟨-, nothing, -⟩
        · dsimp only at unclaimed ⊢
          rw [update_self, unclaimed]
        · exact absurd nothing staked
      · rw [stakeOf_set bets, if_pos rfl]
      · rw [markets]
        exact get_set_self _ _ _
    · refine (books.once (id, other, place)).keep ?_ rfl (update_of_ne own _ _)
        fun found held done => ⟨found, ?_, done⟩
      · rw [stakeOf_set bets, if_neg own]
      · rw [same]
        exact held
  · have ledgers : next.ledger = ledger := by rw [same]
    have worth : 0 ≤ payoutOf market outcome (state.stakeOf (id, bettor, outcome)) :=
      booked.payoutOf_nonneg nonneg
    have left := (paid worth).leaves worth read
    have owed : next.owed id market = state.owed id market -
        payoutOf market outcome (state.stakeOf (id, bettor, outcome)) := by
      unfold owed
      rw [sumBets_set bets (payoutOf_zero market outcome), payoutOf_zero]
      omega
    rw [got, weightAt_some, ledgers]
    unfold owedIn
    split_ifs at left ⊢ <;> omega

theorem Books.step (books : Books contract (state, record))
    {call : Env Address contract × Operation Address} (effect : Effect contract state call next) :
    Books contract (next, record.follow state call next) := by
  cases effect with
  | quiet _ next config fees oracles markets bets votes voteCounts gains _ unrecorded =>
    rw [unrecorded]
    have stake : ∀ key, next.stakeOf key = state.stakeOf key := by
      intro key
      unfold stakeOf
      rw [bets]
    have others : ∀ id, Elsewhere id state next record record := fun _ =>
      ⟨fun _ _ => by rw [bets], fun _ _ => by rw [voteCounts], fun _ _ => by rw [votes],
        fun _ _ => rfl, fun _ _ => rfl, fun _ _ => rfl⟩
    refine ⟨fun unset => ?_, fees books.fees, oracles books.oracles, fun id market got => ?_,
      fun id gone => ?_, fun key => ?_, fun key => ?_, fun key gone => ?_, fun token => ?_⟩
    · rw [markets]
      refine books.started ?_
      by_contra set
      rw [(config (Option.isSome_iff_ne_none.mpr set)).1] at unset
      exact set unset
    · rw [markets] at got
      have set := Option.isSome_iff_ne_none.mpr (books.set got)
      exact (others (id + 1)).booked (Nat.succ_ne_self id).symm (config set).2.ge
        (books.booked id market got)
    · rw [markets] at gone
      have before := books.unused id gone
      refine ⟨?_, fun bettor outcome => ?_⟩
      · rw [voteCounts]
        exact before.counts
      · rw [stake]
        exact before.stakes bettor outcome
    · exact (books.nonneg key).trans_eq (stake key).symm
    · refine (books.once key).keep (stake key) rfl rfl fun market got done => ?_
      exact ⟨market, by rw [markets]; exact got, done⟩
    · rw [votes] at gone
      exact books.unvoted key gone
    · have owed : ∀ id market, next.owedIn token id market = state.owedIn token id market :=
        fun id market => (others (id + 1)).owedIn (Nat.succ_ne_self id).symm token
      rw [markets, funext₂ owed]
      exact (books.covered token).trans (by exact_mod_cast gains token)
  | created _ _ _ _ _ _ _ _ config opened => exact books.created config opened
  | bet _ _ _ _ _ _ _ _ outside pos got opened found fits paid =>
      exact books.bet outside pos got opened found fits paid rfl
  | voted _ _ _ _ _ _ _ _ _ setUp eligible got opened closed timely fresh found verdict updated
      =>
    exact books.voted setUp eligible got opened closed timely fresh found verdict updated rfl
  | expired _ _ _ got opened => exact books.expired got opened
  | claimed _ _ _ _ _ _ _ got settled staked eq paid =>
    exact books.claimed got settled staked eq paid rfl
  | feeClaimed _ _ _ _ _ _ got settled unclaimed paid =>
    exact books.feeClaimed got settled unclaimed paid

end SorobanPlayground.SportsBetting
