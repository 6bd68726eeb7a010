import Mathlib.Tactic.Ring
import SorobanPlayground.OptionsProtocol.Contract

/-! # The margin accounts

A writer's account is the writer's share of the tokens that the contract holds,
and its locked part is what the writer's open collateralized options reserve. A
call books on one account and one option at a time, so that every account covers
its own locks and the contract covers all accounts, in every run.
-/

namespace SorobanPlayground.OptionsProtocol

open Option State

variable {Address : Type} [DecidableEq Address] {contract : Address}

/-- What an option reserves of its writer's margin: the lock of its position while it is neither
settled nor cancelled. -/
def lockOf (position : Option MarginPosition) (option : OptionContract Address) : Int :=
  if option.status.isOpen then position.elim 0 MarginPosition.locked else 0

/-- The part of an option's lock in a writer's margin. -/
def lockFor (writer : Address) (positions : FiniteMap Nat MarginPosition) (id : Nat)
    (option : OptionContract Address) : Int :=
  if option.writer = writer then lockOf (positions.get id) option else 0

/-- The locks of a writer's open options, added up. -/
def State.lockedFor (state : State Address) (writer : Address) : Int :=
  state.options.total (lockFor writer state.marginPositions)

def State.totalBalance (state : State Address) : Int :=
  state.marginAccounts.total fun _ account => account.balance

/-- The contract's balance of the settlement token. -/
def State.heldBalance (state : State Address) (contract : Address) : Int :=
  state.marginConfig.elim 0 fun config => state.ledger config.settlementToken contract

/-- Every account covers the locks of its writer's options, and the contract all accounts. -/
structure MarginsHold (contract : Address) (state : State Address) : Prop where
  account : ∀ writer, 0 ≤ (state.getMarginAccount writer).locked ∧
    (state.getMarginAccount writer).locked ≤ (state.getMarginAccount writer).balance
  locked : ∀ writer, (state.getMarginAccount writer).locked = state.lockedFor writer
  position : ∀ id position, state.marginPositions.get id = some position →
    0 ≤ position.locked ∧ position.locked ≤ position.maxPayout
  backed : state.totalBalance ≤ state.heldBalance contract

/-- The option whose position a call may change. -/
def Operation.optionId : Operation Address → Option Nat
  | .cancelCollateralizedOption _ _ optionId | .checkMargin optionId | .cureMarginCall _ optionId
  | .settleOption optionId => some optionId
  | _ => none

/-- The writer whose margin a call may change. -/
def Operation.writer (state : State Address) : Operation Address → Option Address
  | .depositMargin writer _ | .withdrawMargin writer _
  | .writeCollateralizedOption writer .. => some writer
  | operation =>
      operation.optionId.bind fun id => (state.options.get id).map OptionContract.writer

/-- A call leaves the margin of all writers but one, and all positions but one. -/
structure Separate (state : State Address) (operation : Operation Address)
    (next : State Address) : Prop where
  accounts : ∀ writer, operation.writer state ≠ some writer →
    next.getMarginAccount writer = state.getMarginAccount writer
  positions : ∀ id, id ≤ state.optionCount → operation.optionId ≠ some id →
    next.marginPositions.get id = state.marginPositions.get id

/-- One writer's account is replaced. -/
structure Rebooked (state : State Address) (writer : Address) (account : MarginAccount)
    (next : State Address) : Prop where
  read : ∀ other, next.getMarginAccount other =
    if other = writer then account else state.getMarginAccount other
  total : next.totalBalance =
    state.totalBalance + (account.balance - (state.getMarginAccount writer).balance)

structure Books (contract : Address) (state : State Address) : Prop where
  numbered : ∀ id option, state.options.get id = some option →
    option.id = id ∧ id ≤ state.optionCount
  unopened : state.admin = none → state.optionCount = 0
  priced : ∀ underlying observation, state.prices.get underlying = some observation →
    0 < observation.price
  secured : ∀ id position, state.marginPositions.get id = some position →
    0 ≤ position.locked ∧ position.locked ≤ position.maxPayout ∧
      ∃ option, state.options.get id = some option ∧ option.status.isOpen ∧
        option.holder ≠ contract ∧ 0 < option.amount
  locked : ∀ writer, (state.getMarginAccount writer).locked = state.lockedFor writer
  covered : ∀ writer,
    (state.getMarginAccount writer).locked ≤ (state.getMarginAccount writer).balance
  backed : state.totalBalance ≤ state.heldBalance contract

theorem rebooked_set {state next : State Address} {writer : Address} {account : MarginAccount}
    (accounts : next.marginAccounts = state.marginAccounts.set writer account) :
    Rebooked state writer account next := by
  constructor
  · intro other
    unfold getMarginAccount
    rw [accounts, get_set]
    split
    · rfl
    · rfl
  · unfold totalBalance
    rw [accounts, total_set_getD _ (fun _ account => account.balance) writer account {} rfl]
    unfold getMarginAccount
    ring

theorem rebooked_same {state next : State Address} (writer : Address)
    (accounts : next.marginAccounts = state.marginAccounts) :
    Rebooked state writer (state.getMarginAccount writer) next := by
  constructor
  · intro other
    unfold getMarginAccount
    rw [accounts]
    split
    · next same => rw [same]
    · rfl
  · unfold totalBalance
    rw [accounts, sub_self, add_zero]

/-- What a successful call leaves. -/
inductive Effect (contract : Address) (state : State Address) (operation : Operation Address)
    (next : State Address) : Prop
  | quiet (accounts : next.marginAccounts = state.marginAccounts)
      (positions : next.marginPositions = state.marginPositions)
      (options : next.options = state.options)
      (count : next.optionCount = state.optionCount)
      (opened : next.admin = none → state.admin = none)
      (priced : ∀ underlying observation, next.prices.get underlying = some observation →
        state.prices.get underlying = some observation ∨ 0 < observation.price)
      (held : state.heldBalance contract ≤ next.heldBalance contract)
  | plain (option : OptionContract Address)
      (uncollateralized : state.marginPositions.get option.id = none)
      (sameWriter : ∀ before, state.options.get option.id = some before →
        before.writer = option.writer)
      (options : next.options = state.options.set option.id option)
      (accounts : next.marginAccounts = state.marginAccounts)
      (positions : next.marginPositions = state.marginPositions)
      (below : option.id ≤ next.optionCount) (count : state.optionCount ≤ next.optionCount)
      (opened : next.admin ≠ none) (prices : next.prices = state.prices)
      (held : next.heldBalance contract = state.heldBalance contract)
  | funded (writer : Address) (balance : Int)
      (concerns : operation.writer state = some writer)
      (accounts : Rebooked state writer
        { balance, locked := (state.getMarginAccount writer).locked } next)
      (covered : (state.getMarginAccount writer).locked ≤ balance)
      (positions : next.marginPositions = state.marginPositions)
      (options : next.options = state.options) (count : next.optionCount = state.optionCount)
      (opened : next.admin = none → state.admin = none) (prices : next.prices = state.prices)
      (held : next.heldBalance contract =
        state.heldBalance contract + (balance - (state.getMarginAccount writer).balance))
  | posted (option : OptionContract Address) (position : Option MarginPosition)
      (account : MarginAccount)
      (writes : operation.writer state = some option.writer)
      (concerns : operation.optionId = some option.id ∨ state.optionCount < option.id)
      (sameWriter : ∀ before, state.options.get option.id = some before →
        before.writer = option.writer)
      (options : next.options = state.options.set option.id option)
      (positions : ∀ other, next.marginPositions.get other =
        if other = option.id then position else state.marginPositions.get other)
      (accounts : Rebooked state option.writer account next)
      (locked : account.locked = (state.getMarginAccount option.writer).locked -
        (state.marginPositions.get option.id).elim 0 MarginPosition.locked +
          position.elim 0 MarginPosition.locked)
      (covered : account.locked ≤ account.balance)
      (secured : ∀ kept, position = some kept → 0 ≤ kept.locked ∧ kept.locked ≤ kept.maxPayout ∧
        option.status.isOpen ∧ option.holder ≠ contract ∧ 0 < option.amount)
      (below : option.id ≤ next.optionCount) (count : state.optionCount ≤ next.optionCount)
      (opened : next.admin = none → state.admin = none ∧ next.optionCount = state.optionCount)
      (prices : next.prices = state.prices)
      (held : state.heldBalance contract + (account.balance -
        (state.getMarginAccount option.writer).balance) ≤ next.heldBalance contract)

variable {spot strike amount maxPayout result : Int} {kind : OptionKind} {bps : Nat}

theorem mul_nonneg_of_ok {a b : Int} (eq : mul a b = .ok result) (left : 0 ≤ a)
    (right : 0 ≤ b) : 0 ≤ result := by
  simp only [mul, bind_eq_ok, arith_ok] at eq
  obtain ⟨-, -, -, rfl⟩ := eq
  exact Int.tdiv_nonneg (mul_nonneg left right) (by decide)

theorem intrinsicValue_nonneg (eq : intrinsicValue spot strike amount kind = .ok result)
    (pos : 0 < amount) : 0 ≤ result :=
  mul_nonneg_of_ok eq (le_max_right _ _) pos.le

theorem requiredMargin_mem (eq : requiredMargin spot strike amount kind maxPayout bps = .ok result)
    (positivePrice : 0 < spot) (pos : 0 < amount) (payoutNonneg : 0 ≤ maxPayout) :
    0 ≤ result ∧ result ≤ maxPayout := by
  simp only [requiredMargin, call_ok, arith_ok] at eq
  obtain ⟨_, valued, notional, priced, -, -, -, -, rfl⟩ :=
    eq
  have intrinsicNonneg := intrinsicValue_nonneg valued pos
  have notionalNonneg := mul_nonneg_of_ok priced positivePrice.le pos.le
  have maintenance : 0 ≤ (notional * (bps : Int)).tdiv 10000 :=
    Int.tdiv_nonneg (mul_nonneg notionalNonneg (Int.natCast_nonneg bps)) (by decide)
  exact ⟨le_min (add_nonneg intrinsicNonneg maintenance) payoutNonneg, min_le_right _ _⟩

variable {state next : State Address} {operation : Operation Address}
  {option : OptionContract Address}

section

omit [DecidableEq Address]

theorem freshPrice_pos {env : Env Address contract} {underlying : String}
    {config : MarginConfig Address} {price : Int}
    (priced : ∀ underlying observation, state.prices.get underlying = some observation →
      0 < observation.price)
    (found : freshPrice state env underlying config = .ok price) : 0 < price := by
  simp only [freshPrice, call_ok, checkedSubUnsigned_eq_ok] at found
  obtain ⟨observation, got, _, -, -, rfl⟩ := found
  exact priced underlying observation got

theorem Operation.writer_of_option {id : Nat} (concerns : operation.optionId = some id)
    (got : state.options.get id = some option) : operation.writer state = some option.writer := by
  cases operation with
  | cancelCollateralizedOption _ _ _ | checkMargin _ | cureMarginCall _ _ | settleOption _ =>
    cases concerns
    exact congrArg (Option.map OptionContract.writer) got
  | _ => cases concerns

end

theorem Books.fresh (books : Books contract state) {id : Nat} (beyond : state.optionCount < id) :
    state.options.get id = none ∧ state.marginPositions.get id = none := by
  have noOption : state.options.get id = none := by
    cases got : state.options.get id with
    | none => rfl
    | some option => exact absurd (books.numbered id option got).2 (not_le.mpr beyond)
  refine ⟨noOption, ?_⟩
  cases got : state.marginPositions.get id with
  | none => rfl
  | some position =>
    obtain ⟨-, -, _, found, -⟩ := books.secured id position got
    cases noOption.symm.trans found

variable {tokens : TokenHost Address} {env : Env Address contract}

theorem heldBalance_le {ledger : TokenLedger Address} {token source destination : Address}
    {amount : Int}
    (paid : (tokens.pay state.ledger token source destination amount : Outcome Error _) =
      .ok ledger) (ne : contract ≠ source) :
    state.heldBalance contract ≤ (state.withLedger ledger).heldBalance contract := by
  unfold heldBalance
  change _ ≤ state.marginConfig.elim 0 _
  cases state.marginConfig with
  | none => exact le_rfl
  | some config => exact tokens.pay_le paid ne config.settlementToken

variable {optionId : Nat}

section

variable (books : Books contract state)

include books

theorem checkMargin_effect {restored : Bool} (concerns : operation.optionId = some optionId)
    (ran : checkMargin env optionId state = .ok (restored, next)) :
    Effect contract state operation next := by
  simp only [checkMargin, getOption, getMarginConfig, getMarginPosition,
    assertNotPaused, call_ok, arith_ok] at ran
  obtain ⟨-, option, got, _, _, -, _, fresh, position, held, required, eq, -, -, ran⟩ := ran
  obtain ⟨rfl, below⟩ := books.numbered optionId option got
  obtain ⟨lockNonneg, lockMax, _, found, -, holder, pos⟩ :=
    books.secured option.id position held
  cases got.symm.trans found
  have writes := Operation.writer_of_option concerns got
  have covered := books.covered option.writer
  split at ran
  · simp only [call_ok, arith_ok] at ran
    obtain ⟨_, -, rfl, rfl⟩ := ran
    refine .posted { option with status := .marginCalled } (some position) _ writes
      (.inl concerns) ?_ rfl ?_ (rebooked_same _ rfl) ?_ covered ?_ below le_rfl ?_ rfl ?_
    · rintro before found
      cases got.symm.trans found
      rfl
    · intro other
      split
      · next same => exact same ▸ held
      · rfl
    · rw [held]
      exact (sub_add_cancel _ _).symm
    · rintro kept ⟨⟩
      exact ⟨lockNonneg, lockMax, .inr rfl, holder, pos⟩
    · exact fun closed => ⟨closed, rfl⟩
    · rw [sub_self, add_zero]
      exact le_rfl
  · simp only [call_ok, arith_ok] at ran
    obtain ⟨-, rfl, rfl⟩ := ran
    have bounds := requiredMargin_mem eq (freshPrice_pos books.priced fresh) pos
      (lockNonneg.trans lockMax)
    refine .posted { option with status := .active } (some { position with locked := required })
      _ writes (.inl concerns) ?_ rfl ?_ (rebooked_set rfl) ?_ ?_ ?_ below le_rfl ?_ rfl ?_
    · rintro _ found
      cases got.symm.trans found
      rfl
    · intro other
      exact get_set _ _ _ _
    · rw [held]
      change _ + (required - position.locked) = _ - position.locked + required
      ring
    · change _ + (required - position.locked) ≤ (state.getMarginAccount option.writer).balance
      omega
    · rintro _ ⟨⟩
      exact ⟨bounds.1, bounds.2, .inl rfl, holder, pos⟩
    · exact fun closed => ⟨closed, rfl⟩
    · rw [sub_self, add_zero]
      exact le_rfl

theorem settleOption_effect {payout : Int} (concerns : operation.optionId = some optionId)
    (ran : settleOption tokens env optionId state = .ok (payout, next)) :
    Effect contract state operation next := by
  simp only [settleOption, getOption, getMarginConfig, getMarginPosition,
    assertNotPaused, call_ok, arith_ok] at ran
  obtain ⟨-, option, got, _, -, config, setUp, _, _, position, held, intrinsic,
    valued, _, -, -, ledger, paid, -, rfl⟩ := ran
  obtain ⟨rfl, below⟩ := books.numbered optionId option got
  obtain ⟨lockNonneg, lockMax, _, found, -, holder, pos⟩ :=
    books.secured option.id position held
  cases got.symm.trans found
  have covered := books.covered option.writer
  have writes := Operation.writer_of_option concerns got
  set payout := min intrinsic position.maxPayout
  refine .posted { option with status := if 0 < payout then .exercised else .expired } none _ writes
    (.inl concerns) ?_ rfl ?_ (rebooked_set rfl) ?_ ?_
    (by simp) below le_rfl (fun closed => ⟨closed, rfl⟩) rfl ?_
  · rintro _ found
    cases got.symm.trans found
    rfl
  · intro other
    exact get_remove _ _ _
  · rw [held]
    exact (add_zero _).symm
  · change _ - position.locked ≤ (state.getMarginAccount option.writer).balance - payout
    omega
  · change state.heldBalance contract +
      ((state.getMarginAccount option.writer).balance - payout -
        (state.getMarginAccount option.writer).balance) ≤
      state.marginConfig.elim 0 fun config => (ledger config.settlementToken contract : Int)
    unfold heldBalance
    rw [setUp, elim_some, elim_some]
    unfold payPositive at paid
    split at paid
    · have spent := tokens.pay_spent paid holder
      omega
    · cases paid
      have nonneg : 0 ≤ payout :=
        le_min (intrinsicValue_nonneg valued pos) (lockNonneg.trans lockMax)
      omega

variable {writer holder : Address}

theorem writeCollateralizedOption_effect {underlying : String}
    {strikePrice premium amount maxPayout : Int} {expiry id : Nat} {kind : OptionKind}
    (concerns : operation.writer state = some writer)
    (ran : writeCollateralizedOption tokens env writer holder underlying strikePrice premium
      amount expiry kind maxPayout state = .ok (id, next)) :
    Effect contract state operation next := by
  simp only [writeCollateralizedOption, validateOption, getMarginConfig, assertNotPaused,
    assertInitializedGuard, call_ok, arith_ok] at ran
  obtain ⟨-, opened, -, holderSigns, ⟨-, -, -, pos, -⟩, payout, _, _, _,
    fresh, required, eq, -, _, _, paid, -, -, -,
    rfl⟩ := ran
  obtain ⟨noOption, noPosition⟩ := books.fresh (Nat.lt_succ_self state.optionCount)
  have bounds := requiredMargin_mem eq (freshPrice_pos books.priced fresh)
    (not_le.mp pos) (not_le.mp payout).le
  have holderApart : holder ≠ contract := by
    rintro rfl
    exact env.contract_silent holderSigns
  refine .posted _ (some { locked := required, maxPayout }) _ concerns
    (.inr (Nat.lt_succ_self _)) ?_ rfl ?_ (rebooked_set rfl) ?_ ?_ ?_ le_rfl (Nat.le_succ _) ?_ rfl
    ?_
  · rintro _ found
    cases noOption.symm.trans found
  · intro other
    exact get_set _ _ _ _
  · rw [noPosition]
    change _ + required = _ - 0 + required
    rw [sub_zero]
  · change _ + required ≤ (state.getMarginAccount writer).balance
    omega
  · rintro _ ⟨⟩
    exact ⟨bounds.1, bounds.2, .inl rfl, holderApart, not_le.mp pos⟩
  · intro closed
    exact absurd closed (isSome_iff_ne_none.mp opened)
  · rw [sub_self, add_zero]
    unfold payPositive at paid
    split at paid
    · exact heldBalance_le paid holderApart.symm
    · cases paid
      exact le_rfl

theorem cancelCollateralizedOption_effect (concerns : operation.optionId = some optionId)
    (ran : cancelCollateralizedOption env writer holder optionId state = .ok next) :
    Effect contract state operation next := by
  simp only [cancelCollateralizedOption, getOption, getMarginPosition, assertNotPaused,
    call_ok] at ran
  obtain ⟨-, -, -, option, got, -, _, -, position, held, _, release, rfl⟩ :=
    ran
  obtain ⟨rfl, below⟩ := books.numbered optionId option got
  obtain ⟨_, -⟩ := books.secured option.id position held
  have covered := books.covered option.writer
  have writes := Operation.writer_of_option concerns got
  have here : ¬ state.hasMarginPosition option.id = false := by
    unfold hasMarginPosition
    rw [has_eq_false, held]
    simp
  simp only [releasePosition, if_neg here, getMarginPosition, call_ok, arith_ok] at release
  obtain ⟨_, heldAgain, -, rfl⟩ := release
  cases held.symm.trans heldAgain
  refine .posted { option with status := .cancelled } none _ writes
    (.inl concerns) ?_ rfl ?_ (rebooked_set rfl) ?_ ?_
    (by simp) below le_rfl (fun closed => ⟨closed, rfl⟩) rfl ?_
  · rintro _ found
    cases got.symm.trans found
    rfl
  · intro other
    exact get_remove _ _ _
  · rw [held]
    exact (add_zero _).symm
  · change _ - position.locked ≤ (state.getMarginAccount option.writer).balance
    omega
  · rw [sub_self, add_zero]
    exact le_rfl

theorem setOption_effect {status : OptionStatus} (got : state.options.get optionId = some option)
    (uncollateralized : state.hasMarginPosition optionId = false)
    (opened : state.admin.isSome = true) :
    Effect contract state operation (state.setOption { option with status }) := by
  obtain ⟨rfl, below⟩ := books.numbered optionId option got
  refine .plain { option with status } (has_eq_false.mp uncollateralized) ?_ rfl rfl rfl
    below le_rfl (isSome_iff_ne_none.mp opened) rfl rfl
  intro before found
  cases got.symm.trans found
  rfl

theorem dispatch_effect {call : Env Address contract × Operation Address}
    (ran : dispatch tokens state call = .ok next) : Effect contract state call.2 next := by
  obtain ⟨env, operation⟩ := call
  cases operation with
  | initializeProtocol =>
    simp only [dispatch, initializeProtocol, call_ok] at ran
    obtain ⟨fresh, -, rfl⟩ := ran
    have none := isNone_iff_eq_none.mp (isSome_eq_false_iff.mp fresh)
    exact .quiet rfl rfl rfl (books.unopened none).symm (by simp) (fun _ _ => .inl) le_rfl
  | setPaused =>
    simp only [dispatch, setPaused, call_ok] at ran
    obtain ⟨-, -, rfl⟩ := ran
    exact .quiet rfl rfl rfl rfl id (fun _ _ => .inl) le_rfl
  | configureMarginPool =>
    simp only [dispatch, configureMarginPool, call_ok, exists_and_left] at ran
    obtain ⟨-, -, unconfigured, -, rfl⟩ := ran
    have none := isNone_iff_eq_none.mp (isSome_eq_false_iff.mp unconfigured)
    refine .quiet rfl rfl rfl rfl id (fun _ _ => .inl) ?_
    unfold heldBalance
    rw [none]
    exact Int.natCast_nonneg _
  | updatePrice =>
    simp only [dispatch, updatePrice, assertNotPaused, call_ok] at ran
    obtain ⟨-, _, -, -, -, pos, rfl⟩ := ran
    refine .quiet rfl rfl rfl rfl id (fun other observation found => ?_) le_rfl
    rw [get_set] at found
    split at found
    · cases found
      exact .inr (not_le.mp pos)
    · exact .inl found
  | depositMargin writer =>
    simp only [dispatch, depositMargin, getMarginConfig, assertNotPaused,
      assertInitializedGuard, call_ok, arith_ok] at ran
    obtain ⟨-, -, pos, signed, config, setUp, -, ledger, paid, rfl⟩ :=
      ran
    have apart : contract ≠ writer := by
      rintro rfl
      exact env.contract_silent signed
    have covered := books.covered writer
    refine .funded writer _ rfl (rebooked_set rfl) (by omega) rfl rfl rfl id rfl ?_
    change state.marginConfig.elim 0
      (fun config => (ledger config.settlementToken contract : Int)) = _
    unfold heldBalance
    rw [setUp, elim_some, elim_some, tokens.pay_received paid apart]
    ring
  | withdrawMargin writer =>
    simp only [dispatch, withdrawMargin, getMarginConfig, assertNotPaused, call_ok,
      arith_ok] at ran
    obtain ⟨-, _, signed, config, setUp, -, _, -, ledger,
      paid, rfl⟩ := ran
    have apart : writer ≠ contract := by
      rintro rfl
      exact env.contract_silent signed
    refine .funded writer _ rfl (rebooked_set rfl) (by omega) rfl rfl rfl id rfl ?_
    change state.marginConfig.elim 0
      (fun config => (ledger config.settlementToken contract : Int)) = _
    unfold heldBalance
    rw [setUp, elim_some, elim_some, tokens.pay_spent paid apart]
    ring
  | writeOption =>
    obtain ⟨⟨id, after⟩, wrote, rfl⟩ := map_eq_ok.mp ran
    simp only [writeOption, validateOption, assertNotPaused, assertInitializedGuard, call_ok,
      arith_ok] at wrote
    obtain ⟨-, opened, -, -, -, -, rfl⟩ := wrote
    obtain ⟨noOption, noPosition⟩ := books.fresh (Nat.lt_succ_self state.optionCount)
    refine .plain _ noPosition ?_ rfl rfl rfl le_rfl (Nat.le_succ _)
      (isSome_iff_ne_none.mp opened) rfl rfl
    intro before found
    cases noOption.symm.trans found
  | writeCollateralizedOption =>
    obtain ⟨⟨id, after⟩, wrote, rfl⟩ := map_eq_ok.mp ran
    exact writeCollateralizedOption_effect books rfl wrote
  | cancelOption =>
    simp only [dispatch, cancelOption, getOption, assertInitializedGuard, call_ok] at ran
    obtain ⟨opened, -, option, got, -, uncollateralized, -, rfl⟩ := ran
    exact setOption_effect books got uncollateralized opened
  | cancelCollateralizedOption =>
    exact cancelCollateralizedOption_effect books rfl ran
  | exercise =>
    obtain ⟨⟨_, after⟩, exercised, rfl⟩ := map_eq_ok.mp ran
    simp only [exercise, getOption, assertInitializedGuard, assertNotPaused,
      call_ok] at exercised
    obtain ⟨-, opened, -, option, got, -, -, uncollateralized, -, -, rfl⟩ := exercised
    exact setOption_effect books got uncollateralized opened
  | expireOption =>
    simp only [dispatch, expireOption, getOption, assertInitializedGuard, call_ok] at ran
    obtain ⟨opened, option, got, -, uncollateralized, -, rfl⟩ := ran
    exact setOption_effect books got uncollateralized opened
  | checkMargin =>
    obtain ⟨⟨restored, after⟩, checked, rfl⟩ := map_eq_ok.mp ran
    exact checkMargin_effect books rfl checked
  | cureMarginCall =>
    simp only [dispatch, cureMarginCall, call_ok] at ran
    obtain ⟨-, _, -, -, -, ⟨_, after⟩, checked, -, rfl⟩ := ran
    exact checkMargin_effect books rfl checked
  | settleOption =>
    obtain ⟨⟨_, _⟩, settled, rfl⟩ := map_eq_ok.mp ran
    exact settleOption_effect books rfl settled
  | transfer _ source =>
    simp only [dispatch, payAs, call_ok] at ran
    obtain ⟨_, ⟨signed, paid⟩, rfl⟩ := ran
    have apart : contract ≠ source := by
      rintro rfl
      exact env.contract_silent signed
    exact .quiet rfl rfl rfl rfl id (fun _ _ => .inl) (heldBalance_le paid apart)

end

theorem lockFor_eq {writer : Address} {positions : FiniteMap Nat MarginPosition} {id : Nat}
    (isOpen : ∀ position, positions.get id = some position → option.status.isOpen) :
    lockFor writer positions id option =
      if option.writer = writer then (positions.get id).elim 0 MarginPosition.locked else 0 := by
  refine if_congr Iff.rfl ?_ rfl
  cases held : positions.get id with
  | none => exact ite_self _
  | some position => exact if_pos (isOpen position held)

theorem lockedFor_change (books : Books contract state)
    (sameWriter : ∀ before, state.options.get option.id = some before →
      before.writer = option.writer) (options : next.options = state.options.set option.id option)
    (others : ∀ other, other ≠ option.id →
      next.marginPositions.get other = state.marginPositions.get other)
    (isOpen : ∀ kept, next.marginPositions.get option.id = some kept → option.status.isOpen)
    (writer : Address) :
    next.lockedFor writer = state.lockedFor writer +
      if option.writer = writer then
        (next.marginPositions.get option.id).elim 0 MarginPosition.locked -
          (state.marginPositions.get option.id).elim 0 MarginPosition.locked
      else 0 := by
  have same : ∀ id, id ≠ option.id →
      FiniteMap.weightAt (lockFor writer next.marginPositions) id (next.options.get id) =
        FiniteMap.weightAt (lockFor writer state.marginPositions) id (state.options.get id) := by
    intro id ne
    rw [options, get_set_of_ne _ _ ne]
    unfold FiniteMap.weightAt lockFor
    rw [others id ne]
  have before : FiniteMap.weightAt (lockFor writer state.marginPositions) option.id
      (state.options.get option.id) = if option.writer = writer then
        (state.marginPositions.get option.id).elim 0 MarginPosition.locked else 0 := by
    cases got : state.options.get option.id with
    | none =>
      cases held : state.marginPositions.get option.id with
      | none => exact (ite_self _).symm
      | some position =>
        obtain ⟨-, -, known, found, -⟩ := books.secured option.id position held
        cases got.symm.trans found
    | some earlier =>
      rw [weightAt_some, lockFor_eq, sameWriter earlier got]
      intro position held
      obtain ⟨-, -, _, found, open', -⟩ := books.secured option.id position held
      cases got.symm.trans found
      exact open'
  have totals := FiniteMap.total_of_same_off same
  rw [before, options, get_set_self, weightAt_some, lockFor_eq isOpen, ←
    options] at totals
  change next.lockedFor writer = state.lockedFor writer - _ + _ at totals
  rw [totals]
  split
  · ring
  · ring

theorem numbered_set (books : Books contract state)
    (options : next.options = state.options.set option.id option)
    (below : option.id ≤ next.optionCount) (count : state.optionCount ≤ next.optionCount)
    (id : Nat) (got : OptionContract Address) (found : next.options.get id = some got) :
    got.id = id ∧ id ≤ next.optionCount := by
  rw [options, get_set] at found
  split at found
  · next same =>
    cases found
    exact ⟨same.symm, same ▸ below⟩
  · obtain ⟨same, bound⟩ := books.numbered id got found
    exact ⟨same, bound.trans count⟩

theorem books_effect (books : Books contract state)
    (effect : Effect contract state operation next) : Books contract next := by
  cases effect with
  | quiet accounts positions options count opened priced held =>
    have account : ∀ writer, next.getMarginAccount writer = state.getMarginAccount writer := by
      intro writer
      unfold getMarginAccount
      rw [accounts]
    refine ⟨?_, fun closed => ?_, fun underlying observation found => ?_, ?_, fun writer => ?_,
      fun writer => ?_, ?_⟩
    · rw [options, count]
      exact books.numbered
    · rw [count]
      exact books.unopened (opened closed)
    · rcases priced underlying observation found with before | pos
      · exact books.priced underlying observation before
      · exact pos
    · rw [options, positions]
      exact books.secured
    · unfold lockedFor
      rw [account, options, positions]
      exact books.locked writer
    · rw [account]
      exact books.covered writer
    · unfold totalBalance
      rw [accounts]
      exact books.backed.trans held
  | plain option uncollateralized sameWriter options accounts positions below count opened prices
      held =>
    have account : ∀ writer, next.getMarginAccount writer = state.getMarginAccount writer := by
      intro writer
      unfold getMarginAccount
      rw [accounts]
    have noPosition : next.marginPositions.get option.id = none := by
      rw [positions, uncollateralized]
    refine ⟨numbered_set books options below count, fun closed => absurd closed opened, ?_,
      fun id position found => ?_, fun writer => ?_, fun writer => ?_, ?_⟩
    · rw [prices]
      exact books.priced
    · rw [positions] at found
      have ne : id ≠ option.id := by
        rintro rfl
        cases uncollateralized.symm.trans found
      rw [options, get_set_of_ne _ _ ne]
      exact books.secured id position found
    · rw [account, lockedFor_change books sameWriter options (fun other _ => by rw [positions])
        (by rw [noPosition]; nofun), noPosition, uncollateralized, sub_self, ite_self, add_zero]
      exact books.locked writer
    · rw [account]
      exact books.covered writer
    · unfold totalBalance
      rw [accounts, held]
      exact books.backed
  | funded _ _ _ accounts covered positions options count opened prices held =>
    refine ⟨?_, fun closed => ?_, ?_, ?_, fun other => ?_, fun other => ?_, ?_⟩
    · rw [options, count]
      exact books.numbered
    · rw [count]
      exact books.unopened (opened closed)
    · rw [prices]
      exact books.priced
    · rw [options, positions]
      exact books.secured
    · have sameLocks : next.lockedFor other = state.lockedFor other := by
        unfold lockedFor
        rw [options, positions]
      rw [sameLocks, accounts.read, ← books.locked other]
      split
      · next same => rw [same]
      · rfl
    · rw [accounts.read]
      split
      · exact covered
      · exact books.covered other
    · rw [accounts.total, held]
      exact add_le_add_left books.backed _
  | posted option position _ _ _ sameWriter options positions accounts locked covered secured below
      count opened prices held =>
    have here : next.marginPositions.get option.id = position := by rw [positions, if_pos rfl]
    refine ⟨numbered_set books options below count, fun closed => ?_, ?_, fun id kept found => ?_,
      fun writer => ?_, fun writer => ?_, ?_⟩
    · obtain ⟨before, same⟩ := opened closed
      rw [same]
      exact books.unopened before
    · rw [prices]
      exact books.priced
    · rw [positions] at found
      split at found
      · next same =>
        obtain ⟨nonneg, most, isOpen, holder, pos⟩ := secured kept found
        refine ⟨nonneg, most, option, ?_, isOpen, holder, pos⟩
        rw [options, same, get_set_self]
      · next ne =>
        rw [options, get_set_of_ne _ _ ne]
        exact books.secured id kept found
    · rw [accounts.read, lockedFor_change books sameWriter options
        (fun other ne => by rw [positions, if_neg ne])
        (fun kept found => (secured kept (here ▸ found)).2.2.1), here, ← books.locked writer]
      by_cases same : writer = option.writer
      · rw [if_pos same, if_pos same.symm, locked, same]
        ring
      · rw [if_neg same, if_neg (Ne.symm same), add_zero]
    · rw [accounts.read]
      split
      · exact covered
      · exact books.covered writer
    · rw [accounts.total]
      exact (add_le_add_left books.backed _).trans held

theorem separate_effect (effect : Effect contract state operation next) :
    Separate state operation next := by
  cases effect with
  | quiet accounts positions =>
    refine ⟨fun writer _ => ?_, fun id _ _ => by rw [positions]⟩
    unfold getMarginAccount
    rw [accounts]
  | plain _ _ _ _ accounts positions =>
    refine ⟨fun writer _ => ?_, fun id _ _ => by rw [positions]⟩
    unfold getMarginAccount
    rw [accounts]
  | funded writer _ concerns accounts _ positions =>
    refine ⟨fun other unconcerned => ?_, fun id _ _ => by rw [positions]⟩
    have ne : other ≠ writer := by
      rintro rfl
      exact unconcerned concerns
    rw [accounts.read, if_neg ne]
  | posted option _ _ writes concerns _ _ positions accounts =>
    refine ⟨fun other unconcerned => ?_, fun id known unconcerned => ?_⟩
    · have ne : other ≠ option.writer := by
        rintro rfl
        exact unconcerned writes
      rw [accounts.read, if_neg ne]
    · have ne : id ≠ option.id := by
        rintro rfl
        rcases concerns with about | beyond
        · exact unconcerned about
        · exact absurd known (not_le.mpr beyond)
      rw [positions, if_neg ne]

theorem Books.lockFor_nonneg (books : Books contract state) (writer : Address) (id : Nat)
    (option : OptionContract Address) : 0 ≤ lockFor writer state.marginPositions id option := by
  unfold lockFor lockOf
  split
  · split
    · cases held : state.marginPositions.get id with
      | none => exact le_rfl
      | some position => exact (books.secured id position held).1
    · exact le_rfl
  · exact le_rfl

theorem Books.margins (books : Books contract state) : MarginsHold contract state := by
  refine ⟨fun writer => ⟨?_, books.covered writer⟩, books.locked, fun id position held => ?_,
    books.backed⟩
  · rw [books.locked writer]
    exact total_nonneg fun id option _ => books.lockFor_nonneg writer id option
  · obtain ⟨nonneg, most, -⟩ := books.secured id position held
    exact ⟨nonneg, most⟩

theorem books_empty (ledger : TokenLedger Address) : Books contract { ledger } :=
  ⟨nofun, fun _ => rfl, nofun, nofun, fun _ => rfl, fun _ => le_rfl, le_rfl⟩

theorem books_step (state : State Address) (call : Env Address contract × Operation Address)
    (next : State Address) (books : Books contract state)
    (ran : (machine tokens contract).exec state call = .ok next) : Books contract next :=
  books_effect books (dispatch_effect books ran)

variable (tokens)

/-- In every run every account covers the locks of its writer's open options and the contract all
accounts, and every call moves the margin of one writer and the position of one option only. -/
theorem margin_accounts_hold (ledger : TokenLedger Address)
    (calls : List (Env Address contract × Operation Address)) :
    (machine tokens contract).Always (MarginsHold contract) { ledger } calls ∧
    ∀ before call after next, calls = before ++ call :: after →
      (machine tokens contract).exec ((machine tokens contract).run { ledger } before) call =
        .ok next →
      Separate ((machine tokens contract).run { ledger } before) call.2 next := by
  constructor
  · have always : (machine tokens contract).Always (Books contract) { ledger } calls :=
      always_invariant books_step (books_empty ledger) calls
    exact always.mono fun state books => books.margins
  · intro before call after next _ ran
    have books : Books contract ((machine tokens contract).run { ledger } before) :=
      run_invariant books_step (books_empty ledger) before
    exact separate_effect (dispatch_effect books ran)

end SorobanPlayground.OptionsProtocol
