import SorobanPlayground.Library.Rounding
import SorobanPlayground.Perpetuals.Effects

/-! # Positions that get stuck

Closing and liquidating compute a price from the reserves, a profit from the
price, and sums with the collateral, all in plain `i128` arithmetic. A position
whose entry price was floored to zero, or whose numbers have outgrown the range,
can be neither closed nor liquidated.
-/

namespace SorobanPlayground.Perpetuals

variable {Address : Type} {contract : Address}

/-- A division by zero or an overflow: the call traps, or reports the overflow that it caught. -/
def Overflow (failure : Failure Error) : Prop :=
  failure = .trap ∨ failure = .error .arithmeticOverflow

theorem overflow_trap : Overflow .trap := .inl rfl

/-- The price of a pool, when it fits. -/
def VammConfig.price (vamm : VammConfig) : Int :=
  (vamm.reserveY * priceScale).tdiv vamm.reserveX

variable (position : Position Address)

/-- How far a price has moved in a position's favour. -/
def Position.gain (price : Int) : Int :=
  if position.isLong then price - position.entryPrice else position.entryPrice - price

/-- The profit at a price, when it fits. -/
def Position.profit (price : Int) : Int :=
  (position.gain price * position.size).tdiv position.entryPrice

/-- The funding that accrued over a change of the accumulator, when it fits. -/
def Position.funding (accrued : Int) : Int :=
  (position.size * accrued).tdiv 10000000000

/-- The pool after the closing trade of a position. -/
def VammConfig.after (vamm : VammConfig) (position : Position Address) : VammConfig :=
  vamm.moveTo (movedReserve vamm.reserveX (!position.isLong) position.size)

/-- The numbers of a close fit: a long's base finds range in the pool; and where the closing trade
is possible, the scaled quote reserve, the product behind the profit, the accrued funding and the
sums that make up the settlement do. -/
def ClosingFits (vamm : VammConfig) (position : Position Address) (accrued : Int) : Prop :=
  (position.isLong = true → vamm.reserveX + position.size ≤ i128Max) ∧
  (HasRoom vamm.reserveX (!position.isLong) position.size →
    InI128 ((vamm.after position).reserveY * priceScale) ∧
    InI128 (position.gain (vamm.after position).price * position.size) ∧
    (InI64 accrued ∧ InI128 (position.size * accrued)) ∧
    InI128 (position.collateral + position.profit (vamm.after position).price) ∧
    InI128 (position.collateral + position.profit (vamm.after position).price +
      (if position.isLong then -position.funding accrued else position.funding accrued)))

/-- The numbers of a liquidation fit: the product behind the profit, the remaining margin and the
scaled collateral. -/
def LiquidationFits (vamm : VammConfig) (position : Position Address) : Prop :=
  InI128 (position.gain vamm.price * position.size) ∧
  InI128 (position.collateral + position.profit vamm.price) ∧
  InI128 (position.collateral * maintenanceMarginBps)

section Numbers

variable {vamm : VammConfig} (sound : vamm.Sound)
include sound

theorem VammConfig.Sound.quote_nonneg : 0 ≤ vamm.reserveY * priceScale := by
  rw [sound.on_curve]
  exact mul_nonneg (Int.tdiv_nonneg sound.product_nonneg sound.positive.le) (by decide)

theorem computes_price :
    Computes Overflow (vammMarkPriceFrom vamm) (InI128 (vamm.reserveY * priceScale))
      vamm.price := by
  have nonzero : vamm.reserveX ≠ 0 := sound.positive.ne'
  unfold vammMarkPriceFrom ensure
  rw [if_pos nonzero]
  change Computes _ (checkedMul .trap vamm.reserveY priceScale >>= fun scaled =>
    checkedDiv .trap scaled vamm.reserveX) _ _
  refine Computes.congr (Computes.bind (computes_checkedMul overflow_trap _ _) fun scaled =>
    computes_checkedDiv overflow_trap _ nonzero) ?_
  exact and_iff_left_of_imp fun scaled => inI128_tdiv scaled sound.positive

end Numbers

section Profit

variable {position : Position Address} (sound : position.Sound) (priced : 0 < position.entryPrice)
include sound priced

theorem computes_profit {price : Int} (nonneg : 0 ≤ price) (bound : price ≤ i128Max) :
    Computes Overflow (positionPnl position price) (InI128 (position.gain price * position.size))
      (position.profit price) := by
  have lowest : i128Min ≤ -i128Max := by decide
  have entry := sound.entry_le
  have divides := computes_checkedDiv overflow_trap (position.gain price * position.size) priced.ne'
  have rest : Computes Overflow (checkedMul .trap (position.gain price) position.size >>=
      fun scaled => checkedDiv .trap scaled position.entryPrice)
      (InI128 (position.gain price * position.size)) (position.profit price) := by
    refine Computes.congr (Computes.bind (computes_checkedMul overflow_trap _ _)
      fun _ => divides) ?_
    exact and_iff_left_of_imp fun product => inI128_tdiv product priced
  unfold positionPnl
  unfold Position.gain at rest ⊢
  split
  · next long =>
    rw [if_pos long] at rest
    refine Computes.congr (Computes.bind (computes_checkedSub overflow_trap _ _)
      fun _ => rest) ?_
    exact and_iff_right ⟨by omega, by omega⟩
  · next short =>
    rw [if_neg short] at rest
    refine Computes.congr (Computes.bind (computes_checkedSub overflow_trap _ _)
      fun _ => rest) ?_
    exact and_iff_right ⟨by omega, by omega⟩

end Profit

theorem computes_funding (position : Position Address) (accumulator opening : Int) :
    Computes Overflow (fundingPayment position accumulator opening)
      (InI64 (accumulator - opening) ∧ InI128 (position.size * (accumulator - opening)))
      (position.funding (accumulator - opening)) := by
  refine Computes.bind (computes_inI64 overflow_trap _) fun _ => ?_
  refine Computes.congr (Computes.bind (computes_checkedMul overflow_trap _ _)
    fun _ => computes_pure _) ?_
  exact and_iff_left trivial

theorem applyVammTrade_refused {vamm : VammConfig} {takes : Bool} {size : Int}
    (refused : ¬ HasRoom vamm.reserveX takes size) :
    applyVammTrade vamm takes size =
      .error (.error (if takes then .invalidVammReserves else .arithmeticOverflow)) := by
  cases takes with
  | true =>
    refine bind_eq_error.mpr (.inl (ensure_eq_error.mpr ⟨?_, rfl⟩))
    exact not_not_intro (not_lt.mp refused)
  | false =>
    refine bind_eq_error.mpr (.inl (checkedAdd_eq_error.mpr ⟨?_, rfl⟩))
    exact fun fits => refused fits.2

variable [DecidableEq Address]

section Calls

variable {state : State Address} (books : Books state) (unpaused : state.paused = false)
  {vamm : VammConfig} (pool : state.vammConfig = some vamm) {id : Nat}
  {position : Position Address} (stored : state.positions.get id = some position)
  (active : position.status = .active) (priced : 0 < position.entryPrice)
include books unpaused pool stored active priced

variable {env : Env Address contract}

omit priced in
theorem calls_begin {caller : Address} (signed : caller ∈ env.auths) :
    assertNotPaused state = .ok () ∧ assertInitialized state = .ok () ∧
      (requireAuth env caller : Outcome Error Unit) = .ok () ∧
      state.getPosition id = .ok position ∧
      ensure (position.status = .active) Error.positionNotActive = .ok () ∧
      state.getVamm = .ok vamm :=
  ⟨ensure_eq_ok.mpr unpaused, ensure_eq_ok.mpr (books.opened pool),
    requireAuth_eq_ok.mpr signed, orError_eq_ok.mpr stored, ensure_eq_ok.mpr active,
    orError_eq_ok.mpr pool⟩

theorem closePosition_avoids_iff (authorized : position.trader ∈ env.auths) :
    Avoids Overflow (closePosition env position.trader id state) ↔
      ClosingFits vamm position (state.fundingAccumulator - state.openAccumulator id) := by
  have sound := books.pool_sound vamm pool
  have held := books.sound id position stored
  obtain ⟨funding, marked, -⟩ := books.marked vamm pool
  obtain ⟨running, opened, signed, found, alive, reserves⟩ :=
    calls_begin books unpaused pool stored active authorized
  have owned : ensure (position.trader = position.trader) Error.unauthorized = .ok () :=
    ensure_eq_ok.mpr rfl
  have rates : state.getFunding = .ok funding := orError_eq_ok.mpr marked
  unfold closePosition
  rw [avoids_bind_of_ok running, avoids_bind_of_ok opened, avoids_bind_of_ok signed,
    avoids_bind_of_ok found, avoids_bind_of_ok owned, avoids_bind_of_ok alive, avoids_bind_of_ok
    reserves]
  by_cases room : HasRoom vamm.reserveX (!position.isLong) position.size
  · have trade : applyVammTrade vamm (!position.isLong) position.size =
        .ok (vamm.after position) :=
      (applyVammTrade_eq_ok_iff sound held.sized).mpr ⟨room, rfl⟩
    have moved : (vamm.after position).Sound := moved_sound sound held.sized room
    have exits : position.isLong = true → vamm.reserveX + position.size ≤ i128Max := by
      intro long
      rw [long] at room
      exact room
    unfold ClosingFits
    rw [avoids_bind_of_ok trade, (computes_price moved).avoids_bind, and_iff_right exits,
      imp_iff_right room]
    refine and_congr_right fun scaled => ?_
    obtain ⟨nonneg, bound⟩ := moved.price_nonneg ((computes_price moved).result scaled)
    rw [(computes_profit held priced nonneg bound).avoids_bind, (computes_funding position _
      _).avoids_bind, (computes_checkedAdd overflow_trap _ _).avoids_bind]
    refine and_congr_right fun _ => and_congr_right fun _ => and_congr_right fun _ => ?_
    split
    · rw [(computes_checkedSub overflow_trap _ _).avoids_bind, avoids_bind_of_ok rates,
        and_iff_left (avoids_pure _), sub_eq_add_neg]
    · rw [(computes_checkedAdd overflow_trap _ _).avoids_bind, avoids_bind_of_ok rates,
        and_iff_left (avoids_pure _)]
  · rw [avoids_bind_of_error (applyVammTrade_refused room)]
    cases side : position.isLong with
    | true =>
      rw [side] at room
      constructor
      · intro harmless
        exact (harmless (.inr rfl)).elim
      · intro fits
        exact (room (fits.1 side)).elim
    | false =>
      refine iff_of_true nofun ⟨fun long => ?_, fun within => (room within).elim⟩
      cases long.symm.trans side

theorem liquidatePosition_avoids_iff {liquidator : Address} (authorized : liquidator ∈ env.auths) :
    Avoids Overflow (liquidatePosition env liquidator id state) ↔
      LiquidationFits vamm position := by
  have held := books.sound id position stored
  obtain ⟨funding, -, eq⟩ := books.marked vamm pool
  obtain ⟨running, opened, signed, found, alive, reserves⟩ :=
    calls_begin books unpaused pool stored active authorized
  have price : vamm.price = funding.markPrice := (vammMarkPriceFrom_eq_ok.mp eq).2.2.2
  obtain ⟨nonneg, bound⟩ := (books.pool_sound vamm pool).price_nonneg eq
  rw [← price] at eq nonneg bound
  unfold liquidatePosition
  rw [avoids_bind_of_ok running, avoids_bind_of_ok opened, avoids_bind_of_ok signed,
    avoids_bind_of_ok found, avoids_bind_of_ok alive, avoids_bind_of_ok reserves, avoids_bind_of_ok
    eq, (computes_profit held priced nonneg bound).avoids_bind, (computes_checkedAdd
    overflow_trap _ _).avoids_bind, (computes_checkedMul overflow_trap _ _).avoids_bind]
  refine and_congr_right fun _ => and_congr_right fun _ => and_iff_left ?_
  exact (avoids_ensure nofun).bind fun _ => avoids_pure _

end Calls

/-- Every open position has a price to divide by. -/
def Priced (state : State Address) : Prop :=
  ∀ id position, state.positions.get id = some position → position.status = .active →
    0 < position.entryPrice

/-- Unless the contract is paused, the numbers of closing and of liquidating every open position
fit. -/
def NumbersFit (state : State Address) : Prop :=
  state.paused = false → ∀ vamm id position, state.vammConfig = some vamm →
    state.positions.get id = some position → position.status = .active →
    ClosingFits vamm position (state.fundingAccumulator - state.openAccumulator id) ∧
      LiquidationFits vamm position

/-- No open position is stuck: it has a price, and neither its trader's close nor anyone's
liquidation overflows or divides by zero. -/
def NoStuck (contract : Address) (state : State Address) : Prop :=
  ∀ id position, state.positions.get id = some position → position.status = .active →
    0 < position.entryPrice ∧ ∀ env : Env Address contract,
      (position.trader ∈ env.auths → Avoids Overflow (closePosition env position.trader id state)) ∧
      ∀ liquidator ∈ env.auths, Avoids Overflow (liquidatePosition env liquidator id state)

/-- An opening trade leaves at most ten million times as much base as quote in the pool. -/
def OpensPriced (state : State Address) (call : Env Address contract × Operation Address) : Prop :=
  match call.2 with
  | .openPosition _ isLong size _ _ => ∀ vamm, state.vammConfig = some vamm →
      movedReserve vamm.reserveX isLong size ≤
        vamm.k.tdiv (movedReserve vamm.reserveX isLong size) * priceScale
  | _ => True

/-- The contract holds no position. -/
def Outside (contract : Address) (state : State Address) : Prop :=
  ∀ id position, state.positions.get id = some position → position.trader ≠ contract

variable {env : Env Address contract} {state : State Address}

theorem opener_authorized {trader : Address} {isLong : Bool} {size : Int} {leverage : Nat}
    {collateral : Int} {result : Nat × State Address}
    (ran : openPosition env trader isLong size leverage collateral state = .ok result) :
    trader ∈ env.auths := by
  obtain ⟨-, -, ran⟩ := bind_eq_ok.mp ran
  obtain ⟨-, -, ran⟩ := bind_eq_ok.mp ran
  obtain ⟨_, signed, -⟩ := bind_eq_ok.mp ran
  exact requireAuth_eq_ok.mp signed

variable {next : State Address}

theorem outside_step {call : Env Address contract × Operation Address} (books : Books state)
    (outside : Outside contract state) (ran : dispatch state call = .ok next) :
    Outside contract next := by
  obtain ⟨env, op⟩ := call
  have effect : Effect state op next := dispatch_effect ran
  cases effect with
  | settled _ _ wrote =>
    intro id position found
    obtain ⟨before, held, rfl⟩ :=
      Option.map_eq_some_iff.mp ((books.settled_get wrote id).symm.trans found)
    rw [Position.settled_eq]
    exact outside id before held
  | opened =>
    obtain ⟨_, opened, -⟩ := map_eq_ok.mp ran
    exact forall_set outside (env.ne_contract (opener_authorized opened))
  | closed stored =>
    have owner := outside _ _ stored
    exact forall_set outside owner
  | liquidated stored =>
    have owner := outside _ _ stored
    exact forall_set outside owner
  | _ => exact outside

/-- Where the books are kept, nothing is stuck exactly when open positions are priced and their
numbers fit. -/
theorem noStuck_iff (books : Books state) (outside : Outside contract state) :
    NoStuck contract state ↔ Priced state ∧ NumbersFit state := by
  constructor
  · intro noStuck
    have priced : Priced state := fun id position stored active =>
      (noStuck id position stored active).1
    refine ⟨priced, fun unpaused vamm id position pool stored active => ?_⟩
    have silent : contract ∉ [position.trader] := by
      rw [List.mem_singleton]
      exact (outside id position stored).symm
    obtain ⟨closes, liquidates⟩ := (noStuck id position stored active).2
      { timestamp := 0, auths := [position.trader], contract_silent := silent }
    have entry := priced id position stored active
    have signed := List.mem_singleton_self position.trader
    exact ⟨(closePosition_avoids_iff books unpaused pool stored active entry signed).mp
        (closes signed),
      (liquidatePosition_avoids_iff books unpaused pool stored active entry signed).mp
        (liquidates position.trader signed)⟩
  · rintro ⟨priced, fit⟩ id position stored active
    have entry := priced id position stored active
    refine ⟨entry, fun env => ?_⟩
    cases halted : state.paused with
    | true =>
      have stopped : assertNotPaused state = .error (.error .contractPaused) :=
        ensure_eq_error.mpr ⟨by rw [halted]; exact nofun, rfl⟩
      have harmless : ¬ Overflow (.error .contractPaused) := nofun
      exact ⟨fun _ => (avoids_bind_of_error stopped).mpr harmless,
        fun _ _ => (avoids_bind_of_error stopped).mpr harmless⟩
    | false =>
      have opened : state.initialized = true := by
        cases opened : state.initialized with
        | true => rfl
        | false =>
          rw [(books.unopened opened).1] at stored
          cases stored
      obtain ⟨vamm, pool⟩ := books.pooled opened
      obtain ⟨closing, liquidation⟩ := fit halted vamm id position pool stored active
      exact ⟨fun signed =>
          (closePosition_avoids_iff books halted pool stored active entry signed).mpr closing,
        fun liquidator signed =>
          (liquidatePosition_avoids_iff books halted pool stored active entry signed).mpr
            liquidation⟩

omit [DecidableEq Address] in
theorem priced_effect {op : Operation Address} (books : Books state) (priced : Priced state)
    (effect : Effect state op next) : Priced next ↔ OpensPriced state (env, op) := by
  cases effect with
  | settled _ _ wrote =>
    refine iff_true_intro fun id position found active => ?_
    obtain ⟨before, held, rfl⟩ :=
      Option.map_eq_some_iff.mp ((books.settled_get wrote id).symm.trans found)
    rw [Position.settled_eq] at active ⊢
    exact priced id before held active
  | @opened trader isLong size leverage collateral vamm traded funding sized pool trade price =>
    have sound := books.pool_sound vamm pool
    obtain ⟨room, rfl⟩ := (applyVammTrade_eq_ok_iff sound sized).mp trade
    have moved := moved_sound sound sized room
    obtain ⟨-, -, -, entry⟩ := vammMarkPriceFrom_eq_ok.mp price
    have pos : 0 < funding.markPrice ↔ OpensPriced state
        (env, .openPosition trader isLong size leverage collateral) := by
      rw [← entry, Rounding.tdiv_pos_iff moved.quote_nonneg moved.positive]
      constructor
      · intro bound other same
        cases pool.symm.trans same
        exact bound
      · intro bound
        exact bound vamm pool
    rw [← pos]
    constructor
    · intro after
      exact after _ _ (get_set_self _ _ _) rfl
    · intro entryPositive
      exact forall_set priced fun _ => entryPositive
  | closed =>
    exact iff_true_intro (forall_set priced nofun)
  | liquidated =>
    exact iff_true_intro (forall_set priced nofun)
  | _ => exact iff_true_intro priced

/-- Throughout a run no open position is stuck exactly when every successful opening leaves a price
to divide by, and in every state where the contract is not paused the numbers of closing and of
liquidating every open position fit. -/
theorem no_stuck_iff_priced_and_fit
    (calls : List (Env Address contract × Operation Address)) :
    (machine contract).Always (NoStuck contract) {} calls ↔
      (machine contract).Meets OpensPriced {} calls ∧
        (machine contract).Always NumbersFit {} calls := by
  have keeps : ∀ state call next, (Books state ∧ Outside contract state) →
      (machine contract).exec state call = .ok next → Books next ∧ Outside contract next := by
    rintro state call next ⟨books, outside⟩ ran
    have effect : Effect state call.2 next := dispatch_effect ran
    exact ⟨books_effect books effect, outside_step books outside ran⟩
  have exact : ∀ state call next, (Books state ∧ Outside contract state) → Priced state →
      (machine contract).exec state call = .ok next → (Priced next ↔ OpensPriced state call) := by
    rintro state ⟨_, _⟩ _ ⟨books, -⟩ priced ran
    exact priced_effect books priced (dispatch_effect ran)
  have outside : Outside contract ({} : State Address) := by
    intro id position stored
    cases stored
  have unpriced : Priced ({} : State Address) := by
    intro id position stored
    cases stored
  have based := always_invariant keeps ⟨books_empty, outside⟩ calls
  calc (machine contract).Always (NoStuck contract) {} calls
      ↔ (machine contract).Always (fun state => Priced state ∧ NumbersFit state) {} calls :=
        CallMachine.always_congr based fun state held => noStuck_iff held.1 held.2
    _ ↔ (machine contract).Always Priced {} calls ∧ (machine contract).Always NumbersFit {} calls :=
        CallMachine.always_and
    _ ↔ _ := and_congr_left'
        (always_iff_meets keeps exact ⟨books_empty, outside⟩ unpriced)

/-- A short that drains an even pool of its quote reserve, so that its price is floored to zero. -/
def flooredShort : List (Env Nat 0 × Operation Nat) :=
  [(signedAt 0, .initializePerpetuals 1 1000000 1000000 10000000),
    (signedAt 0, .openPosition 2 false 10000000000000 1 100)]

/-- A long in an even pool, with the largest collateral. -/
def richLong : List (Env Nat 0 × Operation Nat) :=
  [(signedAt 0, .initializePerpetuals 1 1000000 1000000 10000000),
    (signedAt 0, .openPosition 2 true 1 1 i128Max)]

/-- The short has an entry price of zero and traps both calls by a division by zero; the long has a
price, and its liquidation overflows. -/
theorem accepted_positions_get_stuck :
    let floored := (machine 0).run {} flooredShort
    let rich := (machine 0).run {} richLong
    (∃ position, floored.positions.get 1 = some position ∧ position.status = .active ∧
      position.entryPrice = 0) ∧
    closePosition (signedAt 0) 2 1 floored = .error .trap ∧
    liquidatePosition (signedAt 0) 3 1 floored = .error .trap ∧
    ¬ NoStuck 0 floored ∧
    (∃ position, rich.positions.get 1 = some position ∧ 0 < position.entryPrice) ∧
    liquidatePosition (signedAt 0) 3 1 rich = .error .trap := by
  have stored : ∃ position, ((machine 0).run {} flooredShort).positions.get 1 = some position ∧
      position.status = .active ∧ position.entryPrice = 0 := ⟨_, rfl, rfl, rfl⟩
  refine ⟨stored, rfl, rfl, fun noStuck => ?_, ⟨_, rfl, by decide⟩, rfl⟩
  obtain ⟨position, found, active, zero⟩ := stored
  have priced := (noStuck 1 position found active).1
  rw [zero] at priced
  exact lt_irrefl 0 priced

end SorobanPlayground.Perpetuals
