import SorobanPlayground.Perpetuals.Effects

/-! # The reserves of the pool

An open long has taken its size out of the base reserve and an open short has
put its size in. Closing a position reverses its trade; liquidating it does not,
and leaves the pool off for good.
-/

namespace SorobanPlayground.Perpetuals

variable {Address : Type} {contract : Address}

def Position.openSize (isLong : Bool) (position : Position Address) : Int :=
  if position.status = .active ∧ position.isLong = isLong then position.size else 0

variable (state : State Address)

/-- The sizes of the open positions of a side, added up. -/
def State.openInterest (isLong : Bool) : Int :=
  state.positions.total fun _ position => position.openSize isLong

/-- The base reserve is the initial one less the open longs and more the open shorts, and the
quote reserve is on the initial curve. -/
def Balanced (initialX initialY : Int) (state : State Address) : Prop :=
  ∃ vamm, state.vammConfig = some vamm ∧ vamm.k = initialX * initialY ∧
    vamm.reserveX = initialX - state.openInterest true + state.openInterest false ∧
    vamm.reserveY = vamm.k.tdiv vamm.reserveX

/-- Every open position can be closed against the pool. -/
def Closable : Prop :=
  ∀ vamm id position, state.vammConfig = some vamm → state.positions.get id = some position →
    position.status = .active →
    ∃ traded, applyVammTrade vamm (!position.isLong) position.size = .ok traded

/-- The pool follows the open positions: it is back where it started once none is open, and it
can take back each of them. -/
structure PoolHolds (initialX initialY : Int) (state : State Address) : Prop where
  balanced : Balanced initialX initialY state
  restored : (∀ id position, state.positions.get id = some position → position.status ≠ .active) →
    state.vammConfig = some ⟨initialX, initialY, initialX * initialY⟩ ∧
      ∃ funding, state.fundingRate = some funding ∧ markPrice state = .ok funding.markPrice ∧
        vammMarkPriceFrom ⟨initialX, initialY, initialX * initialY⟩ = .ok funding.markPrice
  closable : Closable state

/-- A trade leaves room for the closing trade of every open position but the trading one: when
the trade takes base, the open shorts can still take theirs, and when it gives base, the open
longs can still give theirs. -/
def LeavesRoom (takes : Bool) (size : Int) (trading : Nat) : Prop :=
  ∀ vamm id position, state.vammConfig = some vamm → state.positions.get id = some position →
    position.status = .active → id ≠ trading → position.isLong ≠ takes →
    HasRoom vamm.reserveX takes (size + position.size)

/-- The calls that keep the pool in step: no liquidation, and trades that leave room for the
positions on the other side of the pool. -/
def KeepsDepth (call : Env Address contract × Operation Address) : Prop :=
  match call.2 with
  | .openPosition _ isLong size _ _ => LeavesRoom state isLong size (state.positionCount + 1)
  | .closePosition _ positionId => ∀ position, state.positions.get positionId = some position →
      LeavesRoom state (!position.isLong) position.size positionId
  | .liquidatePosition _ _ => False
  | _ => True

variable {reserveX size other : Int} {takes : Bool}

theorem hasRoom_moved : HasRoom (movedReserve reserveX takes size) takes other ↔
    HasRoom reserveX takes (size + other) := by
  cases takes with
  | true =>
    change other < reserveX - size ↔ size + other < reserveX
    omega
  | false =>
    change reserveX + size + other ≤ i128Max ↔ reserveX + (size + other) ≤ i128Max
    omega

theorem HasRoom.moved_opposite (sized : 0 < size) (room : HasRoom reserveX (!takes) other) :
    HasRoom (movedReserve reserveX takes size) (!takes) other := by
  cases takes with
  | true =>
    change reserveX + other ≤ i128Max at room
    change reserveX - size + other ≤ i128Max
    omega
  | false =>
    change other < reserveX at room
    change other < reserveX + size
    omega

theorem hasRoom_back (pos : 0 < reserveX) (bound : reserveX ≤ i128Max) :
    HasRoom (movedReserve reserveX takes size) (!takes) size := by
  cases takes with
  | true =>
    change reserveX - size + size ≤ i128Max
    omega
  | false =>
    change size < reserveX + size
    omega

theorem Books.closable_iff {state : State Address} (books : Books state) {vamm : VammConfig}
    (pool : state.vammConfig = some vamm) :
    Closable state ↔ ∀ id position, state.positions.get id = some position →
      position.status = .active → HasRoom vamm.reserveX (!position.isLong) position.size := by
  have sound := books.pool_sound vamm pool
  constructor
  · intro closable id position got active
    obtain ⟨_, trade⟩ := closable vamm id position pool got active
    exact ((applyVammTrade_eq_ok_iff sound (books.sound id position got).sized).mp trade).1
  · intro rooms other id position same got active
    cases pool.symm.trans same
    have room := rooms id position got active
    have sized := (books.sound id position got).sized
    exact ⟨_, (applyVammTrade_eq_ok_iff sound sized).mpr ⟨room, rfl⟩⟩

variable {initialX initialY : Int} {state next : State Address}

theorem openInterest_eq_zero {isLong : Bool}
    (none : ∀ id position, state.positions.get id = some position → position.status ≠ .active) :
    state.openInterest isLong = 0 := by
  apply total_eq_zero
  intro id position got
  exact if_neg fun held => none id position got held.1

theorem Balanced.holds (balanced : Balanced initialX initialY state) (books : Books state)
    (closable : Closable state) : PoolHolds initialX initialY state where
  balanced := balanced
  restored none := by
    obtain ⟨⟨_, _⟩, pool, product, follows, curve⟩ := balanced
    obtain ⟨funding, got, priced⟩ := books.marked _ pool
    have pos := (books.pool_sound _ pool).positive
    dsimp only at product follows curve pos
    rw [openInterest_eq_zero none, openInterest_eq_zero none, sub_zero, add_zero] at follows
    subst follows
    subst product
    rw [Int.mul_tdiv_cancel_left _ pos.ne'] at curve
    subst curve
    refine ⟨pool, funding, got, ?_, priced⟩
    rw [markPrice, assertInitialized, State.getVamm, books.opened pool, pool]
    exact priced
  closable := closable

/-- What the pool depends on in a position. -/
def Position.stake (position : Position Address) : Bool × Int × PositionStatus :=
  (position.isLong, position.size, position.status)

theorem openSize_of_stake {first second : Position Address} (same : first.stake = second.stake)
    (isLong : Bool) : first.openSize isLong = second.openSize isLong := by
  obtain ⟨side, size, status⟩ := by simpa only [Position.stake, Prod.mk.injEq] using same
  unfold Position.openSize
  rw [side, size, status]

theorem PoolHolds.of_stakes (holds : PoolHolds initialX initialY state) (books : Books state)
    (after : Books next) (config : next.vammConfig = state.vammConfig)
    (stakes : ∀ id, (next.positions.get id).map Position.stake =
      (state.positions.get id).map Position.stake) : PoolHolds initialX initialY next := by
  obtain ⟨vamm, pool, product, follows, curve⟩ := holds.balanced
  have interest : ∀ isLong, next.openInterest isLong = state.openInterest isLong := by
    intro isLong
    apply FiniteMap.total_of_same
    intro id
    have same := stakes id
    cases before : state.positions.get id with
    | none =>
      rw [before] at same
      rw [Option.map_eq_none_iff.mp same]
    | some =>
      rw [before] at same
      obtain ⟨wrote, found, equal⟩ := Option.map_eq_some_iff.mp same
      rw [found]
      exact openSize_of_stake equal isLong
  refine Balanced.holds ?_ after ?_
  · refine ⟨vamm, config.trans pool, product, ?_, curve⟩
    rw [interest, interest]
    exact follows
  · rw [after.closable_iff (config.trans pool)]
    intro id wrote found active
    have same := stakes id
    rw [found] at same
    obtain ⟨position, got, equal⟩ := Option.map_eq_some_iff.mp same.symm
    obtain ⟨side, size, status⟩ := by simpa only [Position.stake, Prod.mk.injEq] using equal
    rw [← side, ← size]
    exact (books.closable_iff pool).mp holds.closable id position got (status.trans active)

/-- A trade on behalf of one position keeps the pool in step exactly when it leaves room for the
others. -/
theorem PoolHolds.traded (holds : PoolHolds initialX initialY state) (books : Books state)
    (after : Books next) {vamm : VammConfig} (pool : state.vammConfig = some vamm) {takes : Bool}
    {size : Int} (sized : 0 < size) {id : Nat} {wrote : Position Address}
    (config : next.vammConfig = some (vamm.moveTo (movedReserve vamm.reserveX takes size)))
    (positions : next.positions = state.positions.set id wrote)
    (reverses : wrote.status = .active → wrote.isLong = takes ∧ wrote.size = size)
    (shift : movedReserve 0 takes size =
      (wrote.openSize false - (state.positions.get id).elim 0 (Position.openSize false)) -
      (wrote.openSize true - (state.positions.get id).elim 0 (Position.openSize true))) :
    PoolHolds initialX initialY next ↔ LeavesRoom state takes size id := by
  have sound := books.pool_sound vamm pool
  have balanced : Balanced initialX initialY next := by
    obtain ⟨_, same, product, follows, -⟩ := holds.balanced
    cases pool.symm.trans same
    refine ⟨_, config, product, ?_, rfl⟩
    have moved : movedReserve vamm.reserveX takes size =
        vamm.reserveX + movedReserve 0 takes size := by
      unfold movedReserve
      split <;> omega
    have interest : ∀ isLong, next.openInterest isLong = state.openInterest isLong -
        (state.positions.get id).elim 0 (Position.openSize isLong) + wrote.openSize isLong := by
      intro isLong
      unfold State.openInterest
      rw [positions, total_set]
      rfl
    change movedReserve vamm.reserveX takes size = _
    rw [moved, interest, interest, shift, follows]
    omega
  have rooms := (books.closable_iff pool).mp holds.closable
  constructor
  · intro kept other key position same got active others opposite
    cases pool.symm.trans same
    have found : next.positions.get key = some position := by
      rw [positions, get_set_of_ne _ _ others, got]
    have room := (after.closable_iff config).mp kept.closable key position found active
    rw [Bool.eq_not_of_ne opposite, Bool.not_not] at room
    exact hasRoom_moved.mp room
  · intro leaves
    refine balanced.holds after ((after.closable_iff config).mpr ?_)
    intro key position found active
    rw [positions, get_set] at found
    split at found
    · cases found
      obtain ⟨side, equal⟩ := reverses active
      rw [side, equal]
      exact hasRoom_back sound.positive sound.bounded
    · next others =>
      by_cases side : position.isLong = takes
      · subst side
        exact (rooms key position found active).moved_opposite sized
      · have leftOver := leaves vamm key position pool found active others side
        rw [Bool.eq_not_of_ne side, Bool.not_not]
        exact hasRoom_moved.mpr leftOver

/-- A call other than a liquidation keeps the pool in step exactly when it leaves room; a
liquidation never does. -/
theorem poolHolds_effect {env : Env Address contract} {op : Operation Address}
    (opened : state.initialized = true) (holds : PoolHolds initialX initialY state)
    (books : Books state) (effect : Effect state op next) :
    PoolHolds initialX initialY next ↔ KeepsDepth state (env, op) := by
  have after := books_effect books effect
  cases effect with
  | launched fresh => cases fresh.symm.trans opened
  | paused => exact iff_true_intro (holds.of_stakes books after rfl fun _ => rfl)
  | indexed => exact iff_true_intro (holds.of_stakes books after rfl fun _ => rfl)
  | rated => exact iff_true_intro (holds.of_stakes books after rfl fun _ => rfl)
  | @settled funding updated positions got marked wrote =>
    refine iff_true_intro (holds.of_stakes books after rfl fun id => ?_)
    rw [books.settled_get wrote, Option.map_map]
    congr 1
    funext position
    change (position.settled funding.rateBps).stake = position.stake
    rw [Position.settled_eq]
    rfl
  | @opened trader isLong size leverage collateral vamm traded funding sized pool trade priced =>
    obtain ⟨-, rfl⟩ := (applyVammTrade_eq_ok_iff (books.pool_sound vamm pool) sized).mp trade
    refine holds.traded books after pool sized rfl rfl (fun _ => ⟨rfl, rfl⟩) ?_
    rw [books.next_absent]
    cases isLong <;> simp [Position.openSize, movedReserve]
  | @closed trader positionId position vamm traded funding got active pool trade priced =>
    have sized := (books.sound positionId position got).sized
    obtain ⟨-, rfl⟩ := (applyVammTrade_eq_ok_iff (books.pool_sound vamm pool) sized).mp trade
    have shift : movedReserve 0 (!position.isLong) position.size =
        (Position.openSize false { position with status := .closed } -
          (state.positions.get positionId).elim 0 (Position.openSize false)) -
        (Position.openSize true { position with status := .closed } -
          (state.positions.get positionId).elim 0 (Position.openSize true)) := by
      rw [got]
      cases side : position.isLong <;> simp [Position.openSize, movedReserve, side, active]
    refine (holds.traded books after pool sized rfl rfl (by simp) shift).trans ?_
    constructor
    · intro leaves other found
      cases got.symm.trans found
      exact leaves
    · intro leaves
      exact leaves position got
  | @liquidated liquidator positionId position got active =>
    refine iff_of_false (fun kept => ?_) id
    -- The pool has not moved, but one side's open interest has.
    obtain ⟨_, pool, -, _, -⟩ := holds.balanced
    obtain ⟨_, same, -, follows, -⟩ := kept.balanced
    cases pool.symm.trans same
    have sized := (books.sound positionId position got).sized
    have interest : ∀ isLong,
        (state.setPosition positionId { position with status := .liquidated }).openInterest
          isLong = state.openInterest isLong - position.openSize isLong := by
      intro isLong
      change FiniteMap.total (FiniteMap.set _ _ _) _ = _
      rw [total_set_of_stored _ got]
      exact add_zero _
    rw [interest, interest] at follows
    cases side : position.isLong <;>
      simp [Position.openSize, side, active] at follows <;> omega

variable [DecidableEq Address]

/-- Throughout a run the pool follows the open positions exactly when no call liquidates a
position and every trade leaves room for the closing trades of the others. -/
theorem pool_holds_iff_keeps_depth {env : Env Address contract} {admin : Address}
    {initialX initialY indexPrice : Int} {start : State Address}
    (launched : initializePerpetuals env admin initialX initialY indexPrice {} = .ok start)
    (calls : List (Env Address contract × Operation Address)) :
    (machine contract).Always (PoolHolds initialX initialY) start calls ↔
      (machine contract).Meets KeepsDepth start calls := by
  have effect := launch_effect launched
  have balanced : Balanced initialX initialY start := by
    cases effect with
    | launched _ positiveX =>
      refine ⟨_, rfl, rfl, ?_, (Int.mul_tdiv_cancel_left _ positiveX.ne').symm⟩
      change initialX = initialX - 0 + 0
      omega
  have books := books_effect books_empty effect
  have closable : Closable start := by
    cases effect with
    | launched =>
      intro vamm id position pool got
      cases got
  have opened : start.initialized = true := by
    obtain ⟨_, pool, -⟩ := balanced
    exact books.opened pool
  have keeps : ∀ state call next, (Books state ∧ state.initialized = true) →
      (machine contract).exec state call = .ok next → Books next ∧ next.initialized = true := by
    rintro state call next ⟨books, opened⟩ ran
    have effect : Effect state call.2 next := dispatch_effect ran
    exact ⟨books_effect books effect, effect.stays_opened opened⟩
  have exact : ∀ state call next, (Books state ∧ state.initialized = true) →
      PoolHolds initialX initialY state → (machine contract).exec state call = .ok next →
      (PoolHolds initialX initialY next ↔ KeepsDepth state call) := by
    rintro _ ⟨_, _⟩ _ ⟨books, opened⟩ holds ran
    exact poolHolds_effect opened holds books (dispatch_effect ran)
  exact always_iff_meets keeps exact ⟨books, opened⟩ (balanced.holds books closable)

/-- A pool of a million on each side, at a price of one. -/
def evenPool : State Nat :=
  (machine 0).run {} [(signedAt 0, .initializePerpetuals 1 1000000 1000000 10000000)]

/-- User `2` holds a long of `100` that the short of user `3` makes liquidatable; user `3` then
liquidates it and closes the short. -/
def longLiquidated : List (Env Nat 0 × Operation Nat) :=
  [(signedAt 0, .openPosition 2 true 100 1 1), (signedAt 0, .openPosition 3 false 500000 1 1000000),
    (signedAt 0, .liquidatePosition 3 1), (signedAt 0, .closePosition 3 2)]

/-- No position is open, and the pool still lacks the `100` of the liquidated long. -/
theorem liquidation_strands_the_pool :
    let state := (machine 0).run evenPool longLiquidated
    initializePerpetuals (signedAt 0) 1 1000000 1000000 10000000 {} = .ok evenPool ∧
      state.openInterest true = 0 ∧ state.openInterest false = 0 ∧
      state.vammConfig = some ⟨999900, 1000100, 1000000000000⟩ ∧
      ¬ PoolHolds 1000000 1000000 state := by
  have noLongs : ((machine 0).run evenPool longLiquidated).openInterest true = 0 := by decide
  have noShorts : ((machine 0).run evenPool longLiquidated).openInterest false = 0 := by decide
  have pool : ((machine 0).run evenPool longLiquidated).vammConfig =
      some ⟨999900, 1000100, 1000000000000⟩ := by decide
  refine ⟨rfl, noLongs, noShorts, pool, fun holds => ?_⟩
  obtain ⟨_, same, -, follows, -⟩ := holds.balanced
  cases pool.symm.trans same
  cases follows

/-- On the two openings alone. -/
theorem pool_holds_iff_keeps_depth_even_pool :
    (machine 0).Always (PoolHolds 1000000 1000000) evenPool (longLiquidated.take 2) ↔
      (machine 0).Meets KeepsDepth evenPool (longLiquidated.take 2) := by
  have launched : initializePerpetuals (signedAt 0) 1 1000000 1000000 10000000 {} =
      .ok evenPool := rfl
  exact pool_holds_iff_keeps_depth launched _

end SorobanPlayground.Perpetuals
