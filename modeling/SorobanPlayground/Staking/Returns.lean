import SorobanPlayground.Staking.Books

/-! # Returns of stakes

In every run a user has got back what was staked, except for what is still staked or requested; and
what is due can be claimed.
-/

namespace SorobanPlayground.Staking

variable {Address : Type} [DecidableEq Address] {contract : Address}

/-- The pool is in order. -/
structure Lawful (contract : Address) (account : State Address × Record Address) : Prop where
  rate : account.1.totalStaked = account.1.totalShares
  shares : account.1.totalShares = account.1.stakes.total fun _ info => info.shares
  amounts : account.1.totalStaked = account.1.stakes.total fun _ info => info.amount
  filled : account.1.totalShares ≠ 0 → 0 < account.1.totalStaked
  covered : ∀ config, account.1.config = some config →
    account.1.totalStaked + account.1.unclaimed ≤ account.1.ledger config.token contract
  once : ∀ key request, account.1.requests.get key = some request →
    account.2.claims key = if request.claimed = true then 1 else 0
  returned : ∀ user, account.2.staked user = (account.1.stakeOf user).amount +
    account.1.unclaimedOf user + account.2.received user

/-- A call makes its payments and no others, and changes of a request nothing but that its user
claims it, not before its unlock time. -/
structure Rightly (tokens : TokenHost Address) (account : State Address × Record Address)
    (call : Env Address contract × Operation Address) : Prop where
  paid : Moved (payments contract account.1 call.2) account.1.ledger
    ((recording tokens contract).apply account call).1.ledger
  kept : ∀ key request, account.1.requests.get key = some request →
    ((recording tokens contract).apply account call).1.requests.get key = some request ∨
      (((recording tokens contract).apply account call).1.requests.get key =
          some { request with claimed := true } ∧
        request.claimed = false ∧ call.2 = .claimUnstake key.1 key.2 ∧
        request.unlockTimestamp ≤ call.1.timestamp)

variable (contract) in
/-- Requests and claims that are due succeed, and no call fails for an empty pool. -/
structure Live (tokens : TokenHost Address) (state : State Address) : Prop where
  claims : ∀ (env : Env Address contract) (user : Address) (requestIdx : Nat)
    (request : UnstakeRequest), user ∈ env.auths →
    state.requests.get (user, requestIdx) = some request → request.claimed = false →
    request.unlockTimestamp ≤ env.timestamp →
    ∃ next, claimUnstake tokens env user requestIdx state = .ok (request.amount, next)
  requests : ∀ (env : Env Address contract) (user : Address) (shares : Int)
    (config : Config Address), state.config = some config → user ∈ env.auths → 0 < shares →
    shares ≤ (state.stakeOf user).shares → InI128 (shares * state.totalStaked) →
    env.timestamp + config.unstakePeriod ≤ u64Max → state.unstakeCount user < u32Max →
    ∃ next, requestUnstake env user shares state = .ok (state.unstakeCount user, next) ∧
      next.requests.get (user, state.unstakeCount user) = some {
        amount := shares
        unlockTimestamp := env.timestamp + config.unstakePeriod
        claimed := false }
  empty : ∀ call : Env Address contract × Operation Address,
    state.totalStaked = 0 ∨ state.totalShares = 0 →
      dispatch tokens state call ≠ .error (.error .mathOverflow)

variable {tokens : TokenHost Address} {state next : State Address} {record : Record Address}

theorem Books.lawful {account : State Address × Record Address} (books : Books contract account) :
    Lawful contract account where
  rate := books.rate
  shares := books.shares
  amounts := by
    rw [books.rate, books.shares]
    exact total_congr _ fun user info got => (books.even user info got).1.symm
  filled some := by
    rw [books.rate]
    exact lt_of_le_of_ne books.total_nonneg some.symm
  covered := books.covered
  once key request got := (books.requests key request got).once
  returned := books.returned

variable {call : Env Address contract × Operation Address}

theorem Effect.paid (effect : Effect contract state call next) :
    Moved (payments contract state call.2) state.ledger next.ledger := by
  cases effect with
  | quiet _ _ _ _ _ _ _ _ _ paid => exact paid
  | staked _ _ _ _ _ _ _ _ _ setUp _ _ paid =>
    dsimp only [payments]
    rw [setUp]
    exact paid
  | requested => exact moved_nil _
  | claimed _ _ _ _ _ _ setUp got _ _ paid =>
    dsimp only [payments]
    rw [setUp, got]
    exact paid

section

variable (books : Books contract (state, record))
include books

variable {request : UnstakeRequest}

theorem Books.kept (effect : Effect contract state call next)
    {key : Address × Nat} (held : state.requests.get key = some request) :
    next.requests.get key = some request ∨
      (next.requests.get key = some { request with claimed := true } ∧
        request.claimed = false ∧ call.2 = .claimUnstake key.1 key.2 ∧
        request.unlockTimestamp ≤ call.1.timestamp) := by
  cases effect with
  | quiet _ _ _ _ _ _ requests =>
    rw [requests]
    exact .inl held
  | staked => exact .inl held
  | requested _ user =>
    have ne : key ≠ (user, state.unstakeCount user) := by
      rintro rfl
      rw [books.unstake_fresh] at held
      cases held
    exact .inl ((get_set_of_ne _ _ ne).trans held)
  | claimed _ user requestIdx _ _ _ _ got unclaimed due =>
    by_cases same : key = (user, requestIdx)
    · subst same
      cases got.symm.trans held
      exact .inr ⟨get_set_self _ _ _, unclaimed, rfl, due⟩
    · exact .inl ((get_set_of_ne _ _ same).trans held)

theorem Books.unclaimed_nonneg :
    ∀ key request, state.requests.get key = some request → 0 ≤ request.unclaimed := by
  intro key request got
  unfold UnstakeRequest.unclaimed
  split
  · exact le_rfl
  · exact (books.requests key request got).positive.le

variable {env : Env Address contract}

theorem Books.claim_succeeds (pays : tokens.PaysCovered) {user : Address} {requestIdx : Nat}
    (signed : user ∈ env.auths) (got : state.requests.get (user, requestIdx) = some request)
    (unclaimed : request.claimed = false) (due : request.unlockTimestamp ≤ env.timestamp) :
    ∃ next, claimUnstake tokens env user requestIdx state = .ok (request.amount, next) := by
  obtain ⟨config, setUp⟩ : ∃ config, state.config = some config := by
    cases unset : state.config with
    | some config => exact ⟨config, rfl⟩
    | none =>
      have nothing := (books.started unset).2
      rw [nothing] at got
      cases got
  have own : request.unclaimed = request.amount := by
    unfold UnstakeRequest.unclaimed
    rw [unclaimed, if_neg Bool.false_ne_true]
  have part : request.amount ≤ state.unclaimed := by
    rw [← own]
    exact weight_le_total books.unclaimed_nonneg got
  have covered := books.covered config setUp
  have rate := books.rate
  have nonneg := books.total_nonneg
  dsimp only at covered rate
  obtain ⟨ledger, paid⟩ : ∃ ledger,
      (tokens.pay state.ledger config.token contract user request.amount : Outcome Error _) =
        .ok ledger := pays.pay user (books.requests _ request got).positive.le (by omega)
  simp only [claimUnstake, ensureInitialized, call_ok]
  exact ⟨_, config, setUp, signed, request, got, Bool.eq_false_iff.mp unclaimed,
    not_lt.mpr due, ledger, paid, rfl, rfl⟩

theorem Books.request_succeeds {user : Address} {shares : Int} {config : Config Address}
    (setUp : state.config = some config) (signed : user ∈ env.auths) (pos : 0 < shares)
    (enough : shares ≤ (state.stakeOf user).shares) (fits : InI128 (shares * state.totalStaked))
    (timely : env.timestamp + config.unstakePeriod ≤ u64Max)
    (few : state.unstakeCount user < u32Max) :
    ∃ next, requestUnstake env user shares state = .ok (state.unstakeCount user, next) ∧
      next.requests.get (user, state.unstakeCount user) = some {
        amount := shares
        unlockTimestamp := env.timestamp + config.unstakePeriod
        claimed := false } := by
  have bound := books.shares_le user
  have rate := books.rate
  have limit := books.fits
  dsimp only at rate limit
  obtain ⟨info, got⟩ : ∃ info, state.stakes.get user = some info := by
    unfold State.stakeOf at enough
    cases got : state.stakes.get user with
    | some info => exact ⟨info, rfl⟩
    | none =>
      rw [got] at enough
      exact absurd enough (not_le.mpr pos)
  have own : state.stakeOf user = info := by
    unfold State.stakeOf
    rw [got]
    rfl
  rw [own] at enough bound
  have representable : ∀ value, 0 ≤ value → value ≤ state.totalShares → InI128 value :=
    fun value nonneg most => inI128_of_le nonneg most
      ⟨(by decide : i128Min ≤ 0).trans books.total_nonneg, limit⟩
  have divided : checkedDiv .trap (shares * state.totalStaked) state.totalShares =
      (.ok shares : Outcome Error Int) := by
    rw [rate]
    exact (quotient_eq_ok (by omega) (representable shares pos.le (by omega))).mpr rfl
  have ran : ∃ next, requestUnstake env user shares state =
      .ok (state.unstakeCount user, next) ∧
        next.requests = state.requests.set (user, state.unstakeCount user) {
          amount := shares
          unlockTimestamp := env.timestamp + config.unstakePeriod
          claimed := false } := by
    simp only [requestUnstake, ensureInitialized, call_ok, checkedMul_eq_ok, checkedSub_eq_ok,
      inUnsigned_eq_ok, not_le, not_lt]
    exact ⟨_, ⟨config, setUp, signed, pos, info, got, enough, by omega, _,
      ⟨fits, rfl⟩, shares, divided, pos, _,
      ⟨representable _ (by omega) (by omega), rfl⟩, _, ⟨timely, rfl⟩, _, ⟨few, rfl⟩, trivial, rfl⟩,
        rfl⟩
  obtain ⟨next, succeeds, requests⟩ := ran
  refine ⟨next, succeeds, ?_⟩
  rw [requests]
  exact get_set_self _ _ _

theorem Books.empty_ne_overflow (call : Env Address contract × Operation Address)
    (empty : state.totalStaked = 0 ∨ state.totalShares = 0) :
    dispatch tokens state call ≠ .error (.error .mathOverflow) := by
  obtain ⟨_, op⟩ := call
  have rate := books.rate
  have none : state.totalShares = 0 := empty.elim rate.symm.trans id
  have nothing : state.totalStaked = 0 := rate.trans none
  have unstaked : ∀ user, (state.stakeOf user).amount = 0 ∧ (state.stakeOf user).shares = 0 := by
    intro user
    obtain ⟨_, _⟩ := books.stakeOf user
    have bound := books.shares_le user
    omega
  intro failed
  cases op with
  | initializeStaking =>
    simp [dispatch, initializeStaking, bind_eq_error,
      map_eq_error, ensure_eq_error, requireAuth_eq_error] at failed
  | stake =>
    simp [dispatch, stake, ensureInitialized, sharesFor, none, nothing, unstaked,
      bind_eq_error, map_eq_error, orError_eq_error, ensure_eq_error,
      requireAuth_eq_error, inI128_eq_error, checkedAdd_eq_error,
      pay_ne_error] at failed
    obtain ⟨representable, _, -, -, -, -, overflow⟩ := failed
    exact overflow representable
  | requestUnstake =>
    simp [dispatch, requestUnstake, ensureInitialized, none, nothing,
      bind_eq_error, map_eq_error, orError_eq_error, ensure_eq_error,
      requireAuth_eq_error, inI128_eq_error, checkedMul_eq_error] at failed
  | claimUnstake =>
    simp [dispatch, claimUnstake, ensureInitialized, bind_eq_error, map_eq_error,
      orError_eq_error, ensure_eq_error, requireAuth_eq_error, pay_ne_error] at failed
  | transferTokens =>
    simp [dispatch, payAs, bind_eq_error, map_eq_error,
      requireAuth_eq_error, pay_ne_error] at failed

end

theorem books_empty (ledger : TokenLedger Address) : Books contract ({ ledger }, {}) where
  started := fun _ => ⟨rfl, rfl⟩
  rate := rfl
  shares := rfl
  fits := i128Max_nonneg
  even := nofun
  requests := nofun
  unclaimed := fun _ _ => rfl
  returned := fun _ => rfl
  covered := nofun

theorem books_step (account : State Address × Record Address)
    (call : Env Address contract × Operation Address) (next : State Address × Record Address)
    (books : Books contract account)
    (ran : (recording tokens contract).exec account call = .ok next) : Books contract next :=
  withGhost_step ran fun _ done => books.step (dispatch_effect done)

theorem rightly_step (account : State Address × Record Address)
    (call : Env Address contract × Operation Address) (next : State Address × Record Address)
    (books : Books contract account)
    (ran : (recording tokens contract).exec account call = .ok next) :
    Rightly tokens account call := by
  have effect := dispatch_effect (withGhost_exec_eq_ok.mp ran).1
  have applied := apply_of_ok _ ran
  refine ⟨?_, fun key request got => ?_⟩
  · rw [applied]
    exact effect.paid
  · rw [applied]
    exact books.kept effect got

/-- In every run the totals are the sums of shares and of amounts, requests are covered and claimed
once, and everybody has back what is no longer staked or requested. -/
theorem stakes_are_returned (pays : tokens.PaysCovered) (ledger : TokenLedger Address)
    (calls : List (Env Address contract × Operation Address)) :
    (recording tokens contract).Always (Lawful contract) ({ ledger }, {}) calls ∧
    (recording tokens contract).Meets (Rightly tokens) ({ ledger }, {}) calls ∧
    (recording tokens contract).Always (fun account => Live contract tokens account.1)
      ({ ledger }, {}) calls := by
  have initial : Books contract (({ ledger }, {}) : State Address × Record Address) :=
    books_empty ledger
  have always : (recording tokens contract).Always (Books contract) ({ ledger }, {}) calls :=
    always_invariant books_step initial calls
  refine ⟨always.mono fun _ books => books.lawful,
    meets_of_step books_step rightly_step initial calls,
    always.mono fun _ books => ⟨?_, ?_, ?_⟩⟩
  · exact fun _ _ _ _ signed got unclaimed due => books.claim_succeeds pays signed got
      unclaimed due
  · exact fun _ _ _ _ configured signed pos enough fits timely few =>
      books.request_succeeds configured signed pos enough fits timely few
  · exact books.empty_ne_overflow

/-! Two users stake 5 and 4 units; one of them requests 3 and claims them. -/

/-- A call that the addresses 1 and 2 authorize. -/
def signedAt (timestamp : Nat) : Env Nat 0 :=
  { timestamp, auths := [1, 2], contract_silent := zero_notMem_two_signers }

/-- The users 1 and 2 hold 10 units of the token 9 each. -/
def funded : TokenLedger Nat := fun token holder =>
  if token = 9 ∧ (holder = 1 ∨ holder = 2) then 10 else 0

def partialReturn : List (Env Nat 0 × Operation Nat) :=
  [(signedAt 0, .initializeStaking 1 9 100), (signedAt 1, .stake 1 5), (signedAt 2, .stake 2 4),
    (signedAt 3, .requestUnstake 1 3), (signedAt 103, .claimUnstake 1 0)]

theorem stakes_are_returned_partially :
    (recording standardHost 0).Always (Lawful 0) ({ ledger := funded }, {}) partialReturn ∧
    (recording standardHost 0).Meets (Rightly standardHost) ({ ledger := funded }, {})
      partialReturn ∧
    (recording standardHost 0).Always (fun account => Live 0 standardHost account.1)
      ({ ledger := funded }, {}) partialReturn :=
  stakes_are_returned standardHost_paysCovered funded partialReturn

end SorobanPlayground.Staking
