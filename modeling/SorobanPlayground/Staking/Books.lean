import SorobanPlayground.Staking.Contract

/-! # Books of the staking pool

Every share stands for one staked unit: the first stake is made at that rate, and neither a stake
nor a request changes it. What a user staked is in the pool, in a request or paid back.
-/

namespace SorobanPlayground.Staking

open Function State

variable {Address : Type} [DecidableEq Address] {contract : Address}

/-- What a request is still to be paid. -/
def UnstakeRequest.unclaimed (request : UnstakeRequest) : Int :=
  if request.claimed = true then 0 else request.amount

/-- The requests that are not claimed. -/
def State.unclaimed (state : State Address) : Int :=
  state.requests.total fun _ request => request.unclaimed

/-- The requests of a user that are not claimed. -/
def State.unclaimedOf (state : State Address) (user : Address) : Int :=
  state.requests.total fun key request => if key.1 = user then request.unclaimed else 0

/-- What users have staked and received, and how often a request was claimed. -/
structure Record (Address : Type) where
  staked : Address → Int := fun _ => 0
  received : Address → Int := fun _ => 0
  claims : Address × Nat → Nat := fun _ => 0

def Record.follow (state : State Address) (call : Env Address contract × Operation Address)
    (_ : State Address) (record : Record Address) : Record Address :=
  match call.2 with
  | .stake user amount =>
      { record with staked := Function.update record.staked user (record.staked user + amount) }
  | .claimUnstake user requestIdx =>
      { record with
        received := Function.update record.received user (record.received user +
          (state.requests.get (user, requestIdx)).elim 0 UnstakeRequest.amount)
        claims := Function.update record.claims (user, requestIdx)
          (record.claims (user, requestIdx) + 1) }
  | _ => record

/-- The contract beside which stakes and claims are recorded. -/
def recording (tokens : TokenHost Address) (contract : Address) :
    CallMachine (State Address × Record Address) (Env Address contract × Operation Address)
      (Failure Error) :=
  (machine tokens contract).withGhost Record.follow

/-- What a call is to pay. -/
def payments (contract : Address) (state : State Address) : Operation Address → List (Leg Address)
  | .stake user amount =>
      state.config.elim [] fun config => [⟨config.token, user, contract, amount⟩]
  | .claimUnstake user requestIdx =>
      state.config.elim [] fun config =>
        (state.requests.get (user, requestIdx)).elim [] fun request =>
          [⟨config.token, contract, user, request.amount⟩]
  | .transferTokens token source destination amount => [⟨token, source, destination, amount⟩]
  | _ => []

/-- What holds of one request: it is claimed when it was paid. -/
structure Request (state : State Address) (record : Record Address) (key : Address × Nat)
    (request : UnstakeRequest) : Prop where
  positive : 0 < request.amount
  numbered : key.2 < state.unstakeCount key.1
  once : record.claims key = if request.claimed = true then 1 else 0

structure Books (contract : Address) (account : State Address × Record Address) : Prop where
  started : account.1.config = none → account.1.totalShares = 0 ∧ account.1.requests = ∅
  rate : account.1.totalStaked = account.1.totalShares
  shares : account.1.totalShares = account.1.stakes.total fun _ info => info.shares
  fits : account.1.totalShares ≤ i128Max
  even : ∀ user info, account.1.stakes.get user = some info →
    info.amount = info.shares ∧ 0 ≤ info.shares
  requests : ∀ key request, account.1.requests.get key = some request →
    Request account.1 account.2 key request
  unclaimed : ∀ key, account.1.requests.get key = none → account.2.claims key = 0
  returned : ∀ user, account.2.staked user = (account.1.stakeOf user).amount +
    account.1.unclaimedOf user + account.2.received user
  covered : ∀ config, account.1.config = some config →
    account.1.totalStaked + account.1.unclaimed ≤ account.1.ledger config.token contract

variable {state next : State Address} {record : Record Address} {user : Address}

section

variable (books : Books contract (state, record))
include books

theorem Books.stakeOf (user : Address) :
    (state.stakeOf user).amount = (state.stakeOf user).shares ∧
      0 ≤ (state.stakeOf user).shares := by
  unfold State.stakeOf
  cases got : state.stakes.get user with
  | none => exact ⟨rfl, le_rfl⟩
  | some info => exact books.even user info got

theorem Books.shares_le (user : Address) : (state.stakeOf user).shares ≤ state.totalShares := by
  have nonneg : ∀ other info, state.stakes.get other = some info → 0 ≤ info.shares :=
    fun other info got => (books.even other info got).2
  have shares := books.shares
  rw [shares]
  unfold State.stakeOf
  cases got : state.stakes.get user with
  | none => exact total_nonneg nonneg
  | some => exact weight_le_total nonneg got

theorem Books.total_nonneg : 0 ≤ state.totalShares := by
  have shares := books.shares
  rw [shares]
  exact FiniteMap.total_nonneg fun other info got => (books.even other info got).2

end

theorem quotient_eq_ok {total amount result : Int} (some : total ≠ 0) (fits : InI128 amount) :
    checkedDiv .trap (amount * total) total = (.ok result : Outcome Error Int) ↔
      result = amount := by
  have quotient : (amount * total).tdiv total = amount := Int.mul_tdiv_cancel _ some
  rw [checkedDiv_eq_ok, quotient]
  exact ⟨fun eq => eq.2.2.symm, fun same => ⟨some, fits, same.symm⟩⟩

theorem Books.sharesFor_eq_ok (books : Books contract (state, record)) {amount shares : Int}
    (representable : InI128 amount) :
    sharesFor amount state = .ok shares ↔
      shares = amount ∧ (state.totalShares = 0 ∨ InI128 (amount * state.totalShares)) := by
  have rate := books.rate
  have nonneg := books.total_nonneg
  dsimp only at rate
  unfold sharesFor
  by_cases none : state.totalShares = 0
  · rw [if_pos none, pure_eq_ok]
    exact ⟨fun same => ⟨same.symm, .inl none⟩, fun both => both.1.symm⟩
  · rw [if_neg none]
    simp only [call_ok, checkedMul_eq_ok, rate]
    constructor
    · rintro ⟨-, _, ⟨fits, rfl⟩, divided⟩
      exact ⟨(quotient_eq_ok none representable).mp divided, .inr fits⟩
    · rintro ⟨same, fits⟩
      exact ⟨by omega, _, ⟨fits.resolve_left none, rfl⟩,
        (quotient_eq_ok none representable).mpr same⟩

/-- What a call does to the pool. -/
inductive Effect (contract : Address) (state : State Address) :
    Env Address contract × Operation Address → State Address → Prop
  | quiet (call : Env Address contract × Operation Address) (next : State Address)
      (config : ∀ config, next.config = some config →
        state.config = some config ∨ state.config = none)
      (kept : next.config = none → state.config = none)
      (totals : next.totalStaked = state.totalStaked ∧ next.totalShares = state.totalShares)
      (stakes : next.stakes = state.stakes) (requests : next.requests = state.requests)
      (counts : next.unstakeCounts = state.unstakeCounts)
      (gains : ∀ token, state.ledger token contract ≤ next.ledger token contract)
      (paid : Moved (payments contract state call.2) state.ledger next.ledger)
      (unrecorded : ∀ record, Record.follow state call next record = record) :
      Effect contract state call next
  | staked (env : Env Address contract) (user : Address) (amount shares : Int)
      (config : Config Address) (ledger : TokenLedger Address) (outside : user ≠ contract)
      (positive : 0 < amount) (representable : InI128 amount)
      (configured : state.config = some config)
      (computed : sharesFor amount state = .ok shares)
      (fits : InI128 (state.totalShares + shares))
      (paid : Moved [⟨config.token, user, contract, amount⟩] state.ledger ledger) :
      Effect contract state (env, .stake user amount) { state with
        stakes := state.stakes.set user {
          amount := (state.stakeOf user).amount + amount
          shares := (state.stakeOf user).shares + shares }
        totalStaked := state.totalStaked + amount
        totalShares := state.totalShares + shares
        ledger }
  | requested (env : Env Address contract) (user : Address) (shares amount : Int)
      (unlockTimestamp : Nat) (info : StakeInfo) (configured : state.config ≠ none)
      (positive : 0 < shares) (representable : InI128 shares)
      (stored : state.stakes.get user = some info) (enough : shares ≤ info.shares)
      (computed : checkedDiv .trap (shares * state.totalStaked) state.totalShares =
        (.ok amount : Outcome Error Int)) :
      Effect contract state (env, .requestUnstake user shares) { state with
        stakes := state.stakes.set user {
          amount := saturateI128 (info.amount - amount)
          shares := info.shares - shares }
        totalStaked := saturateI128 (state.totalStaked - amount)
        totalShares := saturateI128 (state.totalShares - shares)
        requests := state.requests.set (user, state.unstakeCount user)
          { amount, unlockTimestamp, claimed := false }
        unstakeCounts := state.unstakeCounts.set user (state.unstakeCount user + 1) }
  | claimed (env : Env Address contract) (user : Address) (requestIdx : Nat)
      (config : Config Address) (request : UnstakeRequest) (ledger : TokenLedger Address)
      (configured : state.config = some config)
      (stored : state.requests.get (user, requestIdx) = some request)
      (unclaimed : request.claimed = false) (due : request.unlockTimestamp ≤ env.timestamp)
      (paid : Moved [⟨config.token, contract, user, request.amount⟩] state.ledger ledger) :
      Effect contract state (env, .claimUnstake user requestIdx) { state with
        requests := state.requests.set (user, requestIdx) { request with claimed := true }
        ledger }

variable {tokens : TokenHost Address} {env : Env Address contract}

theorem stake_effect {user : Address} {amount : Int} (representable : InI128 amount)
    (ran : (Prod.snd <$> stake tokens env user amount state) = .ok next) :
    Effect contract state (env, .stake user amount) next := by
  simp only [stake, ensureInitialized, map_eq_ok, call_ok, arith_ok, not_le] at ran
  obtain ⟨_, ⟨config, setUp, signed, pos, shares, eq, -, ledger, paid, -,
    -, -, fits, rfl⟩, rfl⟩ := ran
  exact Effect.staked env user amount shares config ledger (env.ne_contract signed) pos
    representable setUp eq fits (pay_moved paid)

theorem requestUnstake_effect {user : Address} {shares : Int} (representable : InI128 shares)
    (ran : (Prod.snd <$> requestUnstake env user shares state) = .ok next) :
    Effect contract state (env, .requestUnstake user shares) next := by
  simp only [requestUnstake, ensureInitialized, map_eq_ok, call_ok, checkedMul_eq_ok,
    checkedSub_eq_ok, inUnsigned_eq_ok, not_le, not_lt] at ran
  obtain ⟨_, ⟨_, setUp, -, pos, info, got, enough, -, _, ⟨-, rfl⟩, amount,
    eq, -, _, ⟨-, rfl⟩, _, ⟨-, rfl⟩, _, ⟨-, rfl⟩, rfl⟩, rfl⟩ := ran
  exact Effect.requested env user shares amount _ info (by rw [setUp]; simp) pos
    representable got enough eq

theorem claimUnstake_effect {user : Address} {requestIdx : Nat}
    (ran : (Prod.snd <$> claimUnstake tokens env user requestIdx state) = .ok next) :
    Effect contract state (env, .claimUnstake user requestIdx) next := by
  simp only [claimUnstake, ensureInitialized, map_eq_ok, call_ok, not_lt] at ran
  obtain ⟨_, ⟨config, setUp, -, request, got, unclaimed, due, ledger, paid, rfl⟩, rfl⟩ :=
    ran
  exact Effect.claimed env user requestIdx config request ledger setUp got
    (Bool.eq_false_iff.mpr unclaimed) due (pay_moved paid)

variable {call : Env Address contract × Operation Address}

theorem dispatch_effect
    (ran : dispatch tokens state call = .ok next) : Effect contract state call next := by
  obtain ⟨env, op⟩ := call
  cases op with
  | initializeStaking =>
    simp only [dispatch, initializeStaking, call_ok, Bool.not_eq_true, Option.isSome_eq_false_iff,
      Option.isNone_iff_eq_none] at ran
    obtain ⟨unset, -, -, rfl⟩ := ran
    exact Effect.quiet _ _ (fun _ _ => .inr unset) (by simp) ⟨rfl, rfl⟩ rfl rfl rfl
      (fun _ => le_rfl) (moved_nil _) fun _ => rfl
  | stake =>
    simp only [dispatch, bind_eq_ok, inI128_eq_ok] at ran
    obtain ⟨_, ⟨representable, rfl⟩, ran⟩ := ran
    exact stake_effect representable ran
  | requestUnstake =>
    simp only [dispatch, bind_eq_ok, inI128_eq_ok] at ran
    obtain ⟨_, ⟨representable, rfl⟩, ran⟩ := ran
    exact requestUnstake_effect representable ran
  | claimUnstake => exact claimUnstake_effect ran
  | transferTokens =>
    simp only [dispatch, payAs, call_ok] at ran
    obtain ⟨_, ⟨signed, paid⟩, rfl⟩ := ran
    refine Effect.quiet _ _ (fun _ => .inl) id ⟨rfl, rfl⟩ rfl rfl rfl (fun read => ?_)
      (pay_moved paid) fun _ => rfl
    exact_mod_cast tokens.pay_le paid (env.ne_contract signed).symm read

variable {info : StakeInfo}

theorem stakeOf_set {user : Address}
    (stakes : next.stakes = state.stakes.set user info) (other : Address) :
    next.stakeOf other = if other = user then info else state.stakeOf other := by
  unfold State.stakeOf
  rw [stakes, get_set]
  split <;> rfl

theorem Books.shares_set (books : Books contract (state, record)) {user : Address}
    (stakes : next.stakes = state.stakes.set user info) :
    (next.stakes.total fun _ info => info.shares) =
      state.totalShares - (state.stakeOf user).shares + info.shares := by
  have shares := books.shares
  rw [stakes, total_set_getD state.stakes (fun _ info => info.shares) user info {} rfl, ← shares]
  rfl

variable {request : UnstakeRequest}

theorem unclaimedOf_add {user : Address} {index : Nat}
    (requests : next.requests = state.requests.set (user, index) request)
    (fresh : state.requests.get (user, index) = none) (other : Address) :
    next.unclaimedOf other =
      state.unclaimedOf other + if user = other then request.unclaimed else 0 := by
  unfold unclaimedOf
  rw [requests, total_set_of_absent _ _ _ fresh]
  exact add_comm _ _

theorem unclaimed_add {key : Address × Nat}
    (requests : next.requests = state.requests.set key request)
    (fresh : state.requests.get key = none) :
    next.unclaimed = state.unclaimed + request.unclaimed := by
  unfold State.unclaimed
  rw [requests, total_set_of_absent _ _ _ fresh]
  exact add_comm _ _

variable (books : Books contract (state, record))
include books

theorem Books.unstake_fresh (user : Address) :
    state.requests.get (user, state.unstakeCount user) = none := by
  cases got : state.requests.get (user, state.unstakeCount user) with
  | none => rfl
  | some request => exact absurd (books.requests _ request got).numbered (Nat.lt_irrefl _)

variable {ledger : TokenLedger Address} {config : Config Address}

theorem Books.staked {user : Address} {amount : Int} (outside : user ≠ contract) (pos : 0 < amount)
    (setUp : state.config = some config) (fits : InI128 (state.totalShares + amount))
    (paid : Moved [⟨config.token, user, contract, amount⟩] state.ledger ledger)
    (same : next = { state with
      stakes := state.stakes.set user {
        amount := (state.stakeOf user).amount + amount
        shares := (state.stakeOf user).shares + amount }
      totalStaked := state.totalStaked + amount
      totalShares := state.totalShares + amount
      ledger }) :
    Books contract (next, { record with
      staked := update record.staked user (record.staked user + amount) }) := by
  obtain ⟨even, _⟩ := books.stakeOf user
  have stakes : next.stakes = state.stakes.set user {
      amount := (state.stakeOf user).amount + amount
      shares := (state.stakeOf user).shares + amount } := by rw [same]
  have requests : next.requests = state.requests := by rw [same]
  have rate := books.rate
  refine ⟨fun unset => ?_, ?_, ?_, ?_, fun other info got => ?_, fun key request got => ?_,
    fun key gone => ?_, fun other => ?_, fun held configured' => ?_⟩
  · rw [same] at unset
    cases setUp.symm.trans unset
  · rw [same]
    rw [rate]
  · rw [books.shares_set stakes, same]
    dsimp only
    omega
  · rw [same]
    exact fits.2
  · rw [stakes, get_set] at got
    split at got
    · cases got
      dsimp only
      omega
    · exact books.even other info got
  · rw [requests] at got
    obtain ⟨some, numbered, once⟩ := books.requests key request got
    refine ⟨some, ?_, once⟩
    rw [same]
    exact numbered
  · rw [requests] at gone
    exact books.unclaimed key gone
  · have before := books.returned other
    have unclaimed : next.unclaimedOf other = state.unclaimedOf other := by
      unfold unclaimedOf
      rw [requests]
    dsimp only at before ⊢
    rw [unclaimed, stakeOf_set stakes]
    by_cases own : other = user
    · subst own
      rw [update_self, if_pos rfl]
      dsimp only
      omega
    · rw [update_of_ne own, if_neg own]
      exact before
  · rw [same] at configured'
    obtain rfl := Option.mem_unique setUp configured'
    have before := books.covered config setUp
    have balance := paid config.token contract
    have unclaimed : next.unclaimed = state.unclaimed := by
      unfold State.unclaimed
      rw [requests]
    rw [movedBy_cons, movedBy_nil] at balance
    dsimp only at before balance ⊢
    rw [transferDelta_in outside, if_pos rfl] at balance
    rw [unclaimed, same]
    dsimp only
    omega

theorem Books.requested {user : Address} {shares : Int} {unlockTimestamp : Nat}
    (setUp : state.config ≠ none) (pos : 0 < shares) (got : state.stakes.get user = some info)
    (enough : shares ≤ info.shares) (same : next = { state with
      stakes := state.stakes.set user {
        amount := info.amount - shares
        shares := info.shares - shares }
      totalStaked := state.totalStaked - shares
      totalShares := state.totalShares - shares
      requests := state.requests.set (user, state.unstakeCount user)
        { amount := shares, unlockTimestamp, claimed := false }
      unstakeCounts := state.unstakeCounts.set user (state.unstakeCount user + 1) }) :
    Books contract (next, record) := by
  obtain ⟨even, -⟩ := books.even user info got
  have fresh := books.unstake_fresh user
  have own : state.stakeOf user = info := by
    unfold State.stakeOf
    rw [got]
    rfl
  have stakes : next.stakes = state.stakes.set user {
      amount := info.amount - shares
      shares := info.shares - shares } := by rw [same]
  have requests : next.requests = state.requests.set (user, state.unstakeCount user)
      { amount := shares, unlockTimestamp, claimed := false } := by rw [same]
  have rate := books.rate
  refine ⟨fun unset => ?_, ?_, ?_, ?_, fun other found held => ?_, fun key request held => ?_,
    fun key gone => ?_, fun other => ?_, fun config setUp => ?_⟩
  · rw [same] at unset
    exact absurd unset setUp
  · rw [same]
    rw [rate]
  · rw [books.shares_set stakes, same, own]
    dsimp only
    omega
  · have fits := books.fits
    rw [same]
    dsimp only at fits ⊢
    omega
  · rw [stakes, get_set] at held
    split at held
    · cases held
      dsimp only
      omega
    · exact books.even other found held
  · have counts : ∀ other, next.unstakeCount other =
        if other = user then state.unstakeCount user + 1 else state.unstakeCount other := by
      intro other
      rw [same]
      unfold unstakeCount
      rw [get_set]
      split <;> rfl
    rw [requests, get_set] at held
    split at held
    · next wrote =>
      subst wrote
      cases held
      refine ⟨pos, ?_, ?_⟩
      · rw [counts, if_pos rfl]
        exact Nat.lt_succ_self _
      · rw [books.unclaimed _ fresh]
        rfl
    · obtain ⟨some, numbered, once⟩ := books.requests key request held
      refine ⟨some, ?_, once⟩
      rw [counts]
      split
      · next owner =>
        rw [← owner]
        exact numbered.trans (Nat.lt_succ_self _)
      · exact numbered
  · rw [requests, get_set] at gone
    split at gone
    · cases gone
    · exact books.unclaimed key gone
  · have before := books.returned other
    dsimp only at before ⊢
    rw [unclaimedOf_add requests fresh, stakeOf_set stakes]
    by_cases mine : other = user
    · subst mine
      rw [own] at before
      rw [if_pos rfl, if_pos rfl]
      unfold UnstakeRequest.unclaimed
      rw [if_neg Bool.false_ne_true]
      dsimp only
      omega
    · rw [if_neg mine, if_neg (Ne.symm mine), add_zero]
      exact before
  · rw [same] at setUp
    have before := books.covered config setUp
    dsimp only at before ⊢
    rw [unclaimed_add requests fresh, same]
    unfold UnstakeRequest.unclaimed
    dsimp only
    omega

theorem Books.claimed {user : Address} {requestIdx : Nat} (setUp : state.config = some config)
    (got : state.requests.get (user, requestIdx) = some request)
    (unclaimed : request.claimed = false)
    (paid : Moved [⟨config.token, contract, user, request.amount⟩] state.ledger ledger)
    (same : next = { state with
      requests := state.requests.set (user, requestIdx) { request with claimed := true }
      ledger }) :
    Books contract (next, { record with
      received := update record.received user (record.received user + request.amount)
      claims := update record.claims (user, requestIdx)
        (record.claims (user, requestIdx) + 1) }) := by
  have requests : next.requests =
      state.requests.set (user, requestIdx) { request with claimed := true } := by rw [same]
  have paidOut : ∀ other, next.unclaimedOf other =
      state.unclaimedOf other - if user = other then request.amount else 0 := by
    intro other
    unfold unclaimedOf
    rw [requests, total_set_of_stored _ got]
    unfold UnstakeRequest.unclaimed
    rw [if_pos rfl, unclaimed, if_neg Bool.false_ne_true, ite_self, add_zero]
  have left : next.unclaimed = state.unclaimed - request.amount := by
    unfold State.unclaimed
    rw [requests, total_set_of_stored _ got]
    unfold UnstakeRequest.unclaimed
    rw [if_pos rfl, unclaimed, if_neg Bool.false_ne_true, add_zero]
  have before := books.requests _ request got
  refine ⟨fun unset => ?_, ?_, ?_, ?_, ?_, fun key found held => ?_, fun key gone => ?_,
    fun other => ?_, fun found configured' => ?_⟩
  · rw [same] at unset
    cases setUp.symm.trans unset
  · rw [same]
    exact books.rate
  · rw [same]
    exact books.shares
  · rw [same]
    exact books.fits
  · rw [same]
    exact books.even
  · rw [requests, get_set] at held
    split at held
    · next wrote =>
      subst wrote
      cases held
      refine ⟨before.positive, ?_, ?_⟩
      · rw [same]
        exact before.numbered
      · have once := before.once
        rw [unclaimed, if_neg Bool.false_ne_true] at once
        dsimp only at once ⊢
        rw [update_self, once, if_pos rfl]
    · next ne =>
      obtain ⟨some, numbered, once⟩ := books.requests key found held
      refine ⟨some, ?_, ?_⟩
      · rw [same]
        exact numbered
      · dsimp only
        rw [update_of_ne ne]
        exact once
  · dsimp only at gone ⊢
    rw [requests, get_set] at gone
    split at gone
    · cases gone
    · next ne =>
      rw [update_of_ne ne]
      exact books.unclaimed key gone
  · have balanced := books.returned other
    have stake : next.stakeOf other = state.stakeOf other := by rw [same]; rfl
    dsimp only at balanced ⊢
    rw [paidOut, stake]
    by_cases own : other = user
    · subst own
      rw [if_pos rfl, update_self]
      omega
    · rw [if_neg (Ne.symm own), update_of_ne own, sub_zero]
      exact balanced
  · rw [same] at configured'
    obtain rfl := Option.mem_unique setUp configured'
    have covered := books.covered config setUp
    have balance := paid.leaves before.positive.le config.token
    rw [if_pos rfl] at balance
    dsimp only at covered ⊢
    rw [left, same]
    dsimp only
    omega

theorem Books.step (effect : Effect contract state call next) :
    Books contract (next, record.follow state call next) := by
  cases effect with
  | quiet _ next config kept totals stakes requests counts gains _ unrecorded =>
    rw [unrecorded]
    obtain ⟨staked, shares⟩ := totals
    refine ⟨fun unset => ?_, ?_, ?_, ?_, ?_, fun key request got => ?_, ?_, fun user => ?_,
      fun found setUp => ?_⟩
    · rw [shares, requests]
      exact books.started (kept unset)
    · rw [staked, shares]
      exact books.rate
    · rw [shares, stakes]
      exact books.shares
    · rw [shares]
      exact books.fits
    · rw [stakes]
      exact books.even
    · rw [requests] at got
      obtain ⟨some, numbered, once⟩ := books.requests key request got
      refine ⟨some, ?_, once⟩
      unfold unstakeCount
      rw [counts]
      exact numbered
    · rw [requests]
      exact books.unclaimed
    · unfold State.stakeOf unclaimedOf
      rw [stakes, requests]
      exact books.returned user
    · have unclaimed : next.unclaimed = state.unclaimed := by
        unfold State.unclaimed
        rw [requests]
      have gained :
          (state.ledger found.token contract : Int) ≤ next.ledger found.token contract := by
        exact_mod_cast gains found.token
      rw [staked, unclaimed]
      rcases config found setUp with before | unset
      · exact (books.covered found before).trans gained
      · obtain ⟨empty, none⟩ := books.started unset
        have rate := books.rate
        have nothing : state.unclaimed = 0 := by
          unfold State.unclaimed
          rw [show state.requests = ∅ from none]
          rfl
        rw [nothing, rate, empty, add_zero]
        exact Int.natCast_nonneg _
  | staked _ _ _ _ _ _ outside pos representable setUp eq fits paid =>
    obtain ⟨rfl, -⟩ := (books.sharesFor_eq_ok representable).mp eq
    exact books.staked outside pos setUp fits paid rfl
  | requested _ user _ amount _ info setUp pos representable got enough eq =>
    have rate := books.rate
    obtain ⟨even, -⟩ := books.even user info got
    have bound := books.shares_le user
    have fits := books.fits
    have own : state.stakeOf user = info := by
      unfold State.stakeOf
      rw [got]
      rfl
    dsimp only at rate even fits
    rw [own] at bound
    rw [rate] at eq
    obtain rfl := (quotient_eq_ok (by omega) representable).mp eq
    have range : ∀ value, 0 ≤ value → value ≤ state.totalShares → saturateI128 value = value :=
      fun value nonneg most => saturateI128_of_mem (inI128_of_le nonneg most ⟨(by decide :
        i128Min ≤ 0).trans books.total_nonneg, fits⟩)
    rw [range (info.amount - amount) (by omega) (by omega), range (state.totalStaked - amount) (by
      omega) (by omega), range (state.totalShares - amount) (by omega) (by omega)]
    exact books.requested setUp pos got enough rfl
  | claimed _ user requestIdx _ request _ setUp got unclaimed _ paid =>
    have noted : (state.requests.get (user, requestIdx)).elim 0 UnstakeRequest.amount =
        request.amount := by
      rw [got]
      rfl
    unfold Record.follow
    dsimp only
    rw [noted]
    exact books.claimed setUp got unclaimed paid rfl

end SorobanPlayground.Staking
