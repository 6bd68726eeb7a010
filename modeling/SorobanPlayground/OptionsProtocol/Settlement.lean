import SorobanPlayground.OptionsProtocol.Margin

/-! # Settlement after a rebalance

A settlement pays from the margin that the last rebalance locked. When that was
at the price of the settlement, the margin covers the payout. When it was at
another price the settlement may be refused, whatever else the writer's account
holds.
-/

namespace SorobanPlayground.OptionsProtocol

open State

variable {Address : Type} [DecidableEq Address] {contract : Address} {tokens : TokenHost Address}

/-- Every margin balance is an `i128`. -/
def BalancesFit (state : State Address) : Prop :=
  ∀ writer, (state.getMarginAccount writer).balance ≤ i128Max

theorem BalancesFit.set {state next : State Address} (fit : BalancesFit state) {writer : Address}
    {account : MarginAccount}
    (accounts : next.marginAccounts = state.marginAccounts.set writer account)
    (fits : account.balance ≤ i128Max) : BalancesFit next := by
  intro other
  rw [(rebooked_set accounts).read]
  split
  · exact fits
  · exact fit other

theorem checkMargin_fits {state next : State Address} {env : Env Address contract} {optionId : Nat}
    {restored : Bool} (fit : BalancesFit state)
    (ran : checkMargin env optionId state = .ok (restored, next)) :
    BalancesFit next ∧ next.marginConfig = state.marginConfig := by
  simp only [checkMargin, getOption, getMarginConfig, getMarginPosition,
    assertNotPaused, call_ok, arith_ok] at ran
  obtain ⟨-, option, -, -, _, -, _, -, _, -, _, -, -, -, ran⟩ := ran
  split at ran
  · simp only [call_ok, arith_ok] at ran
    obtain ⟨-, -, rfl⟩ := ran
    exact ⟨fit, rfl⟩
  · simp only [call_ok, arith_ok] at ran
    obtain ⟨-, -, rfl⟩ := ran
    exact ⟨fit.set rfl (fit option.writer), rfl⟩

variable {call : Env Address contract × Operation Address}

theorem dispatch_fits {state next : State Address}
    (fit : BalancesFit state) (ran : dispatch tokens state call = .ok next) :
    BalancesFit next ∧
      ∀ config, state.marginConfig = some config → next.marginConfig = some config := by
  obtain ⟨_, op⟩ := call
  cases op with
  | initializeProtocol =>
    simp only [dispatch, initializeProtocol, call_ok] at ran
    obtain ⟨-, -, rfl⟩ := ran
    exact ⟨fit, fun _ => id⟩
  | setPaused =>
    simp only [dispatch, setPaused, call_ok] at ran
    obtain ⟨-, -, rfl⟩ := ran
    exact ⟨fit, fun _ => id⟩
  | configureMarginPool =>
    simp only [dispatch, configureMarginPool, call_ok, exists_and_left] at ran
    obtain ⟨-, -, unconfigured, -, rfl⟩ := ran
    refine ⟨fit, fun config got => ?_⟩
    rw [got] at unconfigured
    cases unconfigured
  | updatePrice =>
    simp only [dispatch, updatePrice, assertNotPaused, call_ok] at ran
    obtain ⟨-, _, -, -, -, -, rfl⟩ := ran
    exact ⟨fit, fun _ => id⟩
  | depositMargin =>
    simp only [dispatch, depositMargin, getMarginConfig, assertNotPaused,
      assertInitializedGuard, call_ok, arith_ok] at ran
    obtain ⟨-, -, -, -, _, -, fits, _, -, rfl⟩ := ran
    exact ⟨fit.set rfl fits.2, fun _ => id⟩
  | withdrawMargin =>
    simp only [dispatch, withdrawMargin, getMarginConfig, assertNotPaused, call_ok,
      arith_ok] at ran
    obtain ⟨-, -, -, _, -, -, -, fits, _, -, rfl⟩ := ran
    exact ⟨fit.set rfl fits.2, fun _ => id⟩
  | writeOption =>
    obtain ⟨⟨id', after⟩, wrote, rfl⟩ := map_eq_ok.mp ran
    simp only [writeOption, validateOption, assertNotPaused, assertInitializedGuard, call_ok,
      arith_ok] at wrote
    obtain ⟨-, -, -, -, _, -, -, rfl⟩ := wrote
    exact ⟨fit, fun _ => id⟩
  | writeCollateralizedOption writer =>
    obtain ⟨⟨_, after⟩, wrote, rfl⟩ := map_eq_ok.mp ran
    simp only [writeCollateralizedOption, validateOption, getMarginConfig, assertNotPaused,
      assertInitializedGuard, call_ok, arith_ok] at wrote
    obtain ⟨-, -, -, -, -, -, _, -, _, -, _, -, _, -, -, _, -, _, -, _, -, -, rfl⟩ := wrote
    exact ⟨fit.set rfl (fit writer), fun _ => id⟩
  | cancelOption =>
    simp only [dispatch, cancelOption, getOption, assertInitializedGuard, call_ok] at ran
    obtain ⟨-, -, _, -, -, -, -, rfl⟩ := ran
    exact ⟨fit, fun _ => id⟩
  | cancelCollateralizedOption =>
    simp only [dispatch, cancelCollateralizedOption, getOption, getMarginPosition,
      assertNotPaused, releasePosition, call_ok] at ran
    obtain ⟨-, -, -, option, -, -, -, -, _, -, _, release, rfl⟩ := ran
    split at release
    · cases release
      exact ⟨fit, fun _ => id⟩
    · simp only [call_ok, arith_ok] at release
      obtain ⟨_, -, _, -, rfl⟩ := release
      exact ⟨fit.set rfl (fit option.writer), fun _ => id⟩
  | exercise =>
    obtain ⟨⟨_, after⟩, exercised, rfl⟩ := map_eq_ok.mp ran
    simp only [exercise, getOption, assertInitializedGuard, assertNotPaused,
      call_ok] at exercised
    obtain ⟨-, -, -, _, -, -, -, -, -, -, rfl⟩ := exercised
    exact ⟨fit, fun _ => id⟩
  | expireOption =>
    simp only [dispatch, expireOption, getOption, assertInitializedGuard, call_ok] at ran
    obtain ⟨-, _, -, -, -, -, rfl⟩ := ran
    exact ⟨fit, fun _ => id⟩
  | checkMargin =>
    obtain ⟨⟨restored, after⟩, checked, rfl⟩ := map_eq_ok.mp ran
    obtain ⟨kept, same⟩ := checkMargin_fits fit checked
    exact ⟨kept, fun _ got => same.trans got⟩
  | cureMarginCall =>
    simp only [dispatch, cureMarginCall, call_ok] at ran
    obtain ⟨-, option, -, -, -, ⟨_, after⟩, checked, -, rfl⟩ := ran
    obtain ⟨kept, same⟩ := checkMargin_fits fit checked
    exact ⟨kept, fun _ got => same.trans got⟩
  | settleOption =>
    obtain ⟨⟨_, _⟩, settled, rfl⟩ := map_eq_ok.mp ran
    simp only [settleOption, getOption, getMarginConfig, getMarginPosition,
      assertNotPaused, call_ok, arith_ok] at settled
    obtain ⟨-, _, -, -, -, _, -, _, -, _, -, _, -, -, -, fits, _, -, -,
      rfl⟩ := settled
    exact ⟨fit.set rfl fits.2, fun _ => id⟩
  | transfer =>
    simp only [dispatch, payAs, call_ok] at ran
    obtain ⟨_, -, rfl⟩ := ran
    exact ⟨fit, fun _ => id⟩

/-- A collateralized option with its position and the configuration of the pool. -/
structure Margined (contract : Address) (optionId : Nat) (option : OptionContract Address)
    (position : MarginPosition) (config : MarginConfig Address) (state : State Address) : Prop where
  books : Books contract state
  fit : BalancesFit state
  stored : state.options.get optionId = some option
  held : state.marginPositions.get optionId = some position
  configured : state.marginConfig = some config

variable {optionId : Nat} {option : OptionContract Address} {position : MarginPosition}
  {config : MarginConfig Address} {state next : State Address} {env : Env Address contract}

theorem Margined.step (margined : Margined contract optionId option position config state)
    (unconcerned : call.2.optionId ≠ some optionId) (ran : dispatch tokens state call = .ok next) :
    Margined contract optionId option position config next := by
  obtain ⟨books, fit, got, held, setUp⟩ := margined
  have effect := dispatch_effect books ran
  obtain ⟨fits, kept⟩ := dispatch_fits fit ran
  have below := (books.numbered optionId option got).2
  refine ⟨books_effect books effect, fits, ?_, ?_, kept config setUp⟩
  · cases effect with
    | quiet _ _ options | funded _ _ _ _ _ _ options => rwa [options]
    | plain _ uncollateralized _ options =>
      rw [options, get_set_of_ne, got]
      rintro rfl
      cases uncollateralized.symm.trans held
    | posted _ _ _ _ concerns _ options =>
      rw [options, get_set_of_ne, got]
      rintro rfl
      exact concerns.elim unconcerned fun beyond => absurd below (not_le.mpr beyond)
  · rw [(separate_effect effect).positions optionId below unconcerned, held]

theorem Margined.run (margined : Margined contract optionId option position config state)
    {later : List (Env Address contract × Operation Address)}
    (unconcerned : ∀ call ∈ later, call.2.optionId ≠ some optionId) :
    Margined contract optionId option position config ((machine tokens contract).run state later) :=
  (always_of_meets (fun _ _ _ held apart ran => held.step apart ran) margined
    (meets_of_mem (fun call mem _ => unconcerned call mem) state)).final

/-- A settlement pays the holder the capped intrinsic value and releases the locked margin. -/
def Settles (tokens : TokenHost Address) (env : Env Address contract) (optionId : Nat)
    (option : OptionContract Address) (position : MarginPosition) (config : MarginConfig Address)
    (spot : Int) (state : State Address) : Prop :=
  ∃ intrinsic next,
    intrinsicValue spot option.strikePrice option.amount option.kind = .ok intrinsic ∧
    settleOption tokens env optionId state = .ok (min intrinsic position.maxPayout, next) ∧
    payPositive tokens state.ledger config.settlementToken contract option.holder
      (min intrinsic position.maxPayout) = .ok next.ledger ∧
    (next.getMarginAccount option.writer).locked =
      (state.getMarginAccount option.writer).locked - position.locked ∧
    next.marginPositions.get optionId = none

theorem Books.balance_le_held (books : Books contract state)
    (setUp : state.marginConfig = some config) (writer : Address) :
    (state.getMarginAccount writer).balance ≤ state.ledger config.settlementToken contract := by
  have held : state.heldBalance contract = state.ledger config.settlementToken contract := by
    unfold heldBalance
    rw [setUp, Option.elim_some]
  refine le_trans ?_ (books.backed.trans_eq held)
  have nonneg : ∀ other account, state.marginAccounts.get other = some account →
      0 ≤ account.balance := by
    intro other account got
    have read : state.getMarginAccount other = account := congrArg (·.getD {}) got
    have within := books.margins.account other
    rw [read] at within
    exact within.1.trans within.2
  unfold getMarginAccount
  cases got : state.marginAccounts.get writer with
  | none => exact FiniteMap.total_nonneg nonneg
  | some => exact FiniteMap.weight_le_total nonneg got

theorem Margined.settles (margined : Margined contract optionId option position config state)
    (pays : tokens.PaysCovered) {spot intrinsic : Int} (running : state.paused = false)
    (due : option.expiry ≤ env.timestamp)
    (fresh : freshPrice state env option.underlying config = .ok spot)
    (valued : intrinsicValue spot option.strikePrice option.amount option.kind = .ok intrinsic)
    (covered : min intrinsic position.maxPayout ≤ position.locked) :
    Settles tokens env optionId option position config spot state := by
  obtain ⟨books, fit, got, held, setUp⟩ := margined
  obtain ⟨lockNonneg, lockMax, _, found, isOpen, -, pos⟩ :=
    books.secured optionId position held
  cases got.symm.trans found
  have nonneg : 0 ≤ min intrinsic position.maxPayout :=
    le_min (intrinsicValue_nonneg valued pos) (lockNonneg.trans lockMax)
  have within := books.covered option.writer
  have most := fit option.writer
  have own : position.locked ≤ (state.getMarginAccount option.writer).locked := by
    have weight : lockFor option.writer state.marginPositions optionId option =
      position.locked := by
      unfold lockFor lockOf
      rw [if_pos rfl, if_pos isOpen, held, Option.elim_some]
    rw [books.locked, ← weight]
    exact FiniteMap.weight_le_total
      (fun id other _ => books.lockFor_nonneg option.writer id other) got
  have lowest : i128Min ≤ 0 := by decide
  obtain ⟨ledger, paid⟩ : ∃ ledger, payPositive tokens state.ledger config.settlementToken contract
      option.holder (min intrinsic position.maxPayout) =
        (.ok ledger : Outcome Error (TokenLedger Address)) := by
    have enough := books.balance_le_held setUp option.writer
    unfold payPositive
    split
    · exact pays.pay _ nonneg (by omega)
    · exact ⟨_, rfl⟩
  have settled : ∃ next, settleOption tokens env optionId state =
        .ok (min intrinsic position.maxPayout, next) ∧ next.ledger = ledger ∧
      (next.getMarginAccount option.writer).locked =
        (state.getMarginAccount option.writer).locked - position.locked ∧
      next.marginPositions.get optionId = none := by
    simp only [settleOption, getOption, getMarginConfig, getMarginPosition,
      assertNotPaused, call_ok, arith_ok]
    refine ⟨_, ⟨running, option, got, isOpen, not_lt.mpr due, config, setUp, spot, fresh,
      position, held, intrinsic, valued, not_lt.mpr covered, ⟨by omega, by omega⟩,
      ⟨by omega, by omega⟩, ledger, paid, rfl, rfl⟩, rfl, ?_, get_remove_self _ _⟩
    change (((state.marginAccounts.set option.writer _).get option.writer).getD {}).locked = _
    rw [get_set_self]
    rfl
  obtain ⟨next, ran, rfl, released, removed⟩ := settled
  exact ⟨intrinsic, next, valued, ran, paid, released, removed⟩

theorem payout_le_requiredMargin {spot strike amount maxPayout required : Int} {kind : OptionKind}
    {bps : Nat} (eq : requiredMargin spot strike amount kind maxPayout bps = .ok required)
    (positivePrice : 0 < spot) (pos : 0 < amount) :
    ∃ intrinsic, intrinsicValue spot strike amount kind = .ok intrinsic ∧
      min intrinsic maxPayout ≤ required := by
  simp only [requiredMargin, call_ok, arith_ok] at eq
  obtain ⟨intrinsic, valued, notional, priced, -, -, -, -, rfl⟩ :=
    eq
  have notionalNonneg := mul_nonneg_of_ok priced positivePrice.le pos.le
  have maintenance : 0 ≤ (notional * (bps : Int)).tdiv 10000 :=
    Int.tdiv_nonneg (mul_nonneg notionalNonneg (Int.natCast_nonneg bps)) (by decide)
  exact ⟨intrinsic, valued, min_le_min_right _ (le_add_of_nonneg_right maintenance)⟩

theorem checkMargin_margined (books : Books contract state) (fit : BalancesFit state)
    (ran : checkMargin env optionId state = .ok (true, next)) :
    ∃ option position config spot intrinsic,
      Margined contract optionId option position config next ∧
      freshPrice state env option.underlying config = .ok spot ∧
      intrinsicValue spot option.strikePrice option.amount option.kind = .ok intrinsic ∧
      min intrinsic position.maxPayout ≤ position.locked ∧
      next.paused = state.paused ∧ next.prices = state.prices ∧
      ∃ before, state.options.get optionId = some before ∧ before.expiry = option.expiry := by
  have effect : Effect contract state (.checkMargin optionId) next :=
    checkMargin_effect books rfl ran
  have fits := (checkMargin_fits fit ran).1
  simp only [checkMargin, getOption, getMarginConfig, getMarginPosition,
    assertNotPaused, call_ok, arith_ok] at ran
  obtain ⟨-, option, got, -, config, setUp, spot, fresh, position, held, required, eq,
    -, -, ran⟩ := ran
  split at ran
  · simp only [call_ok, arith_ok] at ran
    obtain ⟨-, never, -⟩ := ran
    cases never
  · simp only [call_ok, arith_ok] at ran
    obtain ⟨-, -, rfl⟩ := ran
    obtain ⟨-, -, _, found, -, -, pos⟩ := books.secured optionId position held
    cases got.symm.trans found
    obtain ⟨intrinsic, valued, covered⟩ :=
      payout_le_requiredMargin eq (freshPrice_pos books.priced fresh) pos
    obtain ⟨rfl, -⟩ := books.numbered optionId option got
    exact ⟨{ option with status := .active }, { position with locked := required }, config, spot,
      intrinsic, ⟨books_effect books effect, fits, get_set_self _ _ _, get_set_self _ _ _,
        setUp⟩, fresh, valued, covered, rfl, rfl, option, got, rfl⟩

theorem settleOption_refused
    (refused : settleOption tokens env optionId state = .error (.error .insufficientMargin)) :
    state.paused = false ∧ ∃ option position config spot intrinsic,
      state.options.get optionId = some option ∧ option.expiry ≤ env.timestamp ∧
      state.marginConfig = some config ∧ state.marginPositions.get optionId = some position ∧
      freshPrice state env option.underlying config = .ok spot ∧
      intrinsicValue spot option.strikePrice option.amount option.kind = .ok intrinsic ∧
      position.locked < min intrinsic position.maxPayout := by
  have priced : ∀ underlying config, freshPrice state env underlying config ≠
      .error (.error .insufficientMargin) := by
    simp [freshPrice, bind_eq_error, map_eq_error, orError_eq_error,
      checkedSubUnsigned_eq_error, ensure_eq_error]
  have valued : ∀ spot strike amount kind, intrinsicValue spot strike amount kind ≠
      .error (.error .insufficientMargin) := by
    simp [intrinsicValue, mul, bind_eq_error, checkedMul_eq_error, checkedDiv_eq_error]
  have paid : ∀ token holder amount, payPositive tokens state.ledger token contract holder amount ≠
      .error (.error Error.insufficientMargin) := by
    intro token holder amount
    unfold payPositive
    split
    · exact tokens.pay_ne_error
    · simp
  simp only [settleOption, getOption, getMarginConfig, getMarginPosition,
    assertNotPaused, bind_eq_error, ensure_eq_error, orError_eq_error, checkedSub_eq_error,
    call_ok, arith_ok, Failure.error.injEq, reduceCtorEq, and_false, and_true, false_or,
    exists_false, or_false, not_lt, priced, valued, paid, pure_ne_error] at refused
  obtain ⟨running, option, got, -, due, config, setUp, spot, fresh, position, held,
    intrinsic, value, short⟩ := refused
  exact ⟨running, option, position, config, spot, intrinsic, got, due, setUp, held, fresh,
    value, not_le.mp short⟩

/-- A call at a time, authorized by the admin 1, the writer 2, the holder 3 and the oracle 4. -/
def signedAt (timestamp : Nat) : Env Nat 0 :=
  { timestamp, auths := [1, 2, 3, 4], contract_silent := zero_notMem_four_signers }

/-- The writer deposits 100 units and writes a call of strike 100 at the price 100, which locks the
maintenance margin of 10. -/
def writtenCall : List (Env Nat 0 × Operation Nat) :=
  [(signedAt 0, .initializeProtocol 1), (signedAt 0, .configureMarginPool 1 9 4 1000 1000),
    (signedAt 0, .updatePrice 4 "BTC" 1000000000), (signedAt 0, .depositMargin 2 1000000000),
    (signedAt 0, .writeCollateralizedOption 2 3 "BTC" 1000000000 0 10000000 100 .call 800000000)]

/-- At expiry the price is 150. -/
def riskedCall : List (Env Nat 0 × Operation Nat) :=
  writtenCall ++ [(signedAt 100, .updatePrice 4 "BTC" 1500000000)]

def funded : TokenLedger Nat := fun token holder => if token = 9 ∧ holder = 2 then 1000000000 else 0

end SorobanPlayground.OptionsProtocol
