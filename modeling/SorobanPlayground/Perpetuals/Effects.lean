import SorobanPlayground.Perpetuals.Contract

/-! # What the calls of the perpetuals contract do

Each successful call has one of eight effects on the storage. From them follow
the books that every reachable state keeps: the pool is on its curve, its price
is the stored mark price, and positions are numbered from one.
-/

namespace SorobanPlayground.Perpetuals

open State List

variable {Address : Type} {contract : Address}

/-- A pool with a positive base reserve on its constant-product curve. -/
structure VammConfig.Sound (vamm : VammConfig) : Prop where
  positive : 0 < vamm.reserveX
  bounded : vamm.reserveX ≤ i128Max
  product_nonneg : 0 ≤ vamm.k
  product_le : vamm.k ≤ i128Max
  on_curve : vamm.reserveY = vamm.k.tdiv vamm.reserveX

/-- The base reserve after a trade: a long takes, a short gives. -/
def movedReserve (reserveX : Int) (isLong : Bool) (size : Int) : Int :=
  if isLong then reserveX - size else reserveX + size

/-- The pool can take a trade: enough base for a long, enough range for a short. -/
def HasRoom (reserveX : Int) (isLong : Bool) (size : Int) : Prop :=
  if isLong then size < reserveX else reserveX + size ≤ i128Max

instance (reserveX : Int) (isLong : Bool) (size : Int) : Decidable (HasRoom reserveX isLong size) :=
  inferInstanceAs (Decidable (if isLong then _ else _))

/-- The pool with another base reserve on the same curve. -/
def VammConfig.moveTo (vamm : VammConfig) (reserveX : Int) : VammConfig :=
  { vamm with reserveX, reserveY := vamm.k.tdiv reserveX }

variable {vamm : VammConfig}

theorem VammConfig.Sound.product_fits (sound : vamm.Sound) : InI128 vamm.k :=
  ⟨le_trans (by decide) sound.product_nonneg, sound.product_le⟩

section Trades

variable {traded : VammConfig} (sound : vamm.Sound) {isLong : Bool} {size : Int} (sized : 0 < size)
include sound sized

theorem applyVammTrade_eq_ok_iff :
    applyVammTrade vamm isLong size = .ok traded ↔
      HasRoom vamm.reserveX isLong size ∧
        traded = vamm.moveTo (movedReserve vamm.reserveX isLong size) := by
  have lowest : i128Min ≤ 0 := by decide
  have pos := sound.positive
  have bound := sound.bounded
  cases isLong with
  | true =>
    simp only [applyVammTrade, HasRoom, movedReserve, if_true, call_ok, arith_ok, not_le]
    constructor
    · rintro ⟨room, -, -, -, rfl⟩
      exact ⟨room, rfl⟩
    · rintro ⟨room, rfl⟩
      refine ⟨room, ⟨by omega, by omega⟩, by omega, ?_, rfl⟩
      exact inI128_tdiv sound.product_fits (by omega)
  | false =>
    simp only [applyVammTrade, HasRoom, movedReserve, Bool.false_eq_true, if_false, call_ok,
      arith_ok]
    constructor
    · rintro ⟨fits, -, -, -, rfl⟩
      exact ⟨fits.2, rfl⟩
    · rintro ⟨room, rfl⟩
      refine ⟨⟨by omega, room⟩, by omega, by omega, ?_, rfl⟩
      exact inI128_tdiv sound.product_fits (by omega)

theorem moved_sound (room : HasRoom vamm.reserveX isLong size) :
    (vamm.moveTo (movedReserve vamm.reserveX isLong size)).Sound where
  positive := by
    have positive := sound.positive
    unfold HasRoom at room
    change 0 < movedReserve _ _ _
    unfold movedReserve
    split at room
    · next long => rw [if_pos long]; omega
    · next short => rw [if_neg short]; omega
  bounded := by
    have bounded := sound.bounded
    unfold HasRoom at room
    change movedReserve _ _ _ ≤ _
    unfold movedReserve
    split at room
    · next long => rw [if_pos long]; omega
    · next short => rw [if_neg short]; exact room
  product_nonneg := sound.product_nonneg
  product_le := sound.product_le
  on_curve := rfl

end Trades

theorem vammMarkPriceFrom_eq_ok {vamm : VammConfig} {price : Int} :
    vammMarkPriceFrom vamm = .ok price ↔
      vamm.reserveX ≠ 0 ∧ InI128 (vamm.reserveY * priceScale) ∧
        InI128 ((vamm.reserveY * priceScale).tdiv vamm.reserveX) ∧
        (vamm.reserveY * priceScale).tdiv vamm.reserveX = price := by
  simp only [vammMarkPriceFrom, call_ok, arith_ok]
  constructor
  · rintro ⟨nonzero, scaled, -, fits, rfl⟩
    exact ⟨nonzero, scaled, fits, rfl⟩
  · rintro ⟨nonzero, scaled, fits, rfl⟩
    exact ⟨nonzero, scaled, nonzero, fits, rfl⟩

/-- An open position's collateral after a settlement at a rate. -/
def Position.settled (position : Position Address) (rateBps : Int) : Position Address :=
  if position.status = .active then
    { position with
      collateral := settledCollateral position (decide (0 < rateBps))
        ((position.size * (rateBps.natAbs : Int)).tdiv 10000) }
  else position

variable {position : Position Address}

theorem Position.settled_of_active (active : position.status = .active) (rateBps : Int) :
    position.settled rateBps = { position with
      collateral := settledCollateral position (decide (0 < rateBps))
        ((position.size * (rateBps.natAbs : Int)).tdiv 10000) } :=
  if_pos active

theorem Position.settled_eq (position : Position Address) (rateBps : Int) :
    position.settled rateBps =
      { position with collateral := (position.settled rateBps).collateral } := by
  unfold Position.settled
  split <;> rfl

variable {rateBps : Int}

theorem settleNext_get {positions next : FiniteMap Nat (Position Address)} {paid after : Int}
    {id : Nat} (ran : settleNext rateBps (positions, paid) id = .ok (next, after)) (other : Nat) :
    next.get other = if other = id then (positions.get id).map (·.settled rateBps)
      else positions.get other := by
  unfold settleNext at ran
  split at ran
  · next gone =>
    cases ran
    split
    · next same => rw [same, gone, Option.map_none]
    · rfl
  · next position got =>
    rw [got, Option.map_some]
    split at ran
    · next active =>
      simp only [settlementPayment, call_ok, arith_ok] at ran
      obtain ⟨_, ⟨-, rfl⟩, rfl, -⟩ := ran
      rw [get_set, Position.settled_of_active active]
    · next inactive =>
      cases ran
      split
      · next same => rw [same, got, Position.settled, if_neg inactive]
      · rfl

theorem settle_loop_get {ids : List Nat} (apart : ids.Nodup)
    {positions final : FiniteMap Nat (Position Address)} {paid total : Int}
    (ran : ids.foldlM (settleNext rateBps) (positions, paid) = .ok (final, total)) (other : Nat) :
    final.get other = if other ∈ ids then (positions.get other).map (·.settled rateBps)
      else positions.get other := by
  induction ids generalizing positions paid with
  | nil =>
    cases ran
    rw [if_neg not_mem_nil]
  | cons id _ ih =>
    obtain ⟨⟨_, _⟩, first, rest⟩ := bind_eq_ok.mp ran
    obtain ⟨fresh, others⟩ := nodup_cons.mp apart
    rw [ih others rest, settleNext_get first]
    by_cases here : other = id
    · subst here
      rw [if_neg fresh, if_pos rfl, if_pos mem_cons_self]
    · rw [if_neg here]
      exact if_congr (by rw [mem_cons, or_iff_right here]) rfl rfl

/-- What the calls of the contract leave behind when they succeed. -/
inductive Effect (state : State Address) : Operation Address → State Address → Prop
  | launched {admin : Address} {reserveX reserveY indexPrice : Int} {funding : FundingRate}
      (fresh : state.initialized = false) (positiveX : 0 < reserveX) (positiveY : 0 < reserveY)
      (fits : InI128 (reserveX * reserveY))
      (priced : vammMarkPriceFrom ⟨reserveX, reserveY, reserveX * reserveY⟩ =
        .ok funding.markPrice) :
      Effect state (.initializePerpetuals admin reserveX reserveY indexPrice)
        { state with
          admin := some admin
          initialized := true
          paused := false
          positionCount := 0
          fundingAccumulator := 0
          vammConfig := some ⟨reserveX, reserveY, reserveX * reserveY⟩
          fundingRate := some funding }
  | paused {admin : Address} (paused : Bool) :
      Effect state (.setPaused admin paused) { state with paused }
  | indexed {admin : Address} {indexPrice : Int} {funding updated : FundingRate}
      (stored : state.fundingRate = some funding) (marked : updated.markPrice = funding.markPrice) :
      Effect state (.updateIndexPrice admin indexPrice) { state with fundingRate := some updated }
  | rated {vamm : VammConfig} {updated : FundingRate} (pool : state.vammConfig = some vamm)
      (priced : vammMarkPriceFrom vamm = .ok updated.markPrice) :
      Effect state .updateFundingRate
        { state with
          fundingAccumulator := advanceAccumulator state.fundingAccumulator updated.rateBps
          fundingRate := some updated }
  | settled {funding updated : FundingRate} {positions : FiniteMap Nat (Position Address)}
      (stored : state.fundingRate = some funding) (marked : updated.markPrice = funding.markPrice)
      (written : ∀ id, positions.get id =
        if id ∈ List.range' 1 state.positionCount then
          (state.positions.get id).map (·.settled funding.rateBps)
        else state.positions.get id) :
      Effect state .settleFunding
        { state with
          positions
          fundingAccumulator := advanceAccumulator state.fundingAccumulator funding.rateBps
          fundingRate := some updated }
  | opened {trader : Address} {isLong : Bool} {size : Int} {leverage : Nat} {collateral : Int}
      {vamm traded : VammConfig} {funding : FundingRate} (sized : 0 < size)
      (pool : state.vammConfig = some vamm) (trade : applyVammTrade vamm isLong size = .ok traded)
      (priced : vammMarkPriceFrom traded = .ok funding.markPrice) :
      Effect state (.openPosition trader isLong size leverage collateral)
        { state.setPosition (state.positionCount + 1)
            { id := state.positionCount + 1, trader, isLong, size, leverage,
              entryPrice := funding.markPrice, collateral, status := .active } with
          vammConfig := some traded
          fundingRate := some funding
          positionCount := state.positionCount + 1
          fundingSnapshots :=
            state.fundingSnapshots.set (state.positionCount + 1) state.fundingAccumulator }
  | closed {trader : Address} {positionId : Nat} {position : Position Address}
      {vamm traded : VammConfig} {funding : FundingRate}
      (stored : state.positions.get positionId = some position) (active : position.status = .active)
      (pool : state.vammConfig = some vamm)
      (trade : applyVammTrade vamm (!position.isLong) position.size = .ok traded)
      (priced : vammMarkPriceFrom traded = .ok funding.markPrice) :
      Effect state (.closePosition trader positionId)
        { state.setPosition positionId { position with status := .closed } with
          vammConfig := some traded
          fundingRate := some funding }
  | liquidated {liquidator : Address} {positionId : Nat} {position : Position Address}
      (stored : state.positions.get positionId = some position)
      (active : position.status = .active) :
      Effect state (.liquidatePosition liquidator positionId)
        (state.setPosition positionId { position with status := .liquidated })

variable [DecidableEq Address]

/-- What a successful close has read, computed and left. -/
structure Closing (state next : State Address) (positionId : Nat) (net : Int)
    (position : Position Address) (vamm traded : VammConfig) (exitPrice pnl funded : Int)
    (funding : FundingRate) : Prop where
  stored : state.positions.get positionId = some position
  active : position.status = .active
  pool : state.vammConfig = some vamm
  trade : applyVammTrade vamm (!position.isLong) position.size = .ok traded
  priced : vammMarkPriceFrom traded = .ok exitPrice
  profit : positionPnl position exitPrice = .ok pnl
  paid : fundingPayment position state.fundingAccumulator (state.openAccumulator positionId) =
    .ok funded
  settlement : net = position.collateral + pnl - (if position.isLong then funded else -funded)
  left : next = { state.setPosition positionId { position with status := .closed } with
    vammConfig := some traded
    fundingRate := some { funding with markPrice := exitPrice } }

variable {state next : State Address} {env : Env Address contract}

theorem closePosition_closing {trader : Address} {positionId : Nat}
    {net : Int} (ran : closePosition env trader positionId state = .ok (net, next)) :
    ∃ position vamm traded exitPrice pnl funded funding,
      Closing state next positionId net position vamm traded exitPrice pnl funded funding := by
  simp only [closePosition, getFunding, getVamm, getPosition, call_ok] at ran
  obtain ⟨-, -, -, -, -, position, got, -, active, vamm, pool, traded, trade, exitPrice, priced,
    pnl, profit, funded, paid, _, summed, ran⟩ := ran
  obtain ⟨-, rfl⟩ := checkedAdd_eq_ok.mp summed
  refine ⟨position, vamm, traded, exitPrice, pnl, funded, ?_⟩
  split at ran
  · next long =>
    simp only [call_ok, arith_ok] at ran
    obtain ⟨-, funding, -, rfl, rfl⟩ := ran
    refine ⟨funding, got, active, pool, trade, priced, profit, paid, ?_, rfl⟩
    rw [if_pos long]
  · next short =>
    simp only [call_ok, arith_ok] at ran
    obtain ⟨-, funding, -, rfl, rfl⟩ := ran
    refine ⟨funding, got, active, pool, trade, priced, profit, paid, ?_, rfl⟩
    rw [if_neg short, sub_neg_eq_add]

theorem dispatch_effect {call : Env Address contract × Operation Address}
    (ran : dispatch state call = .ok next) : Effect state call.2 next := by
  obtain ⟨_, operation⟩ := call
  cases operation with
  | initializePerpetuals =>
    simp only [dispatch, initializePerpetuals, call_ok, arith_ok] at ran
    obtain ⟨fresh, pos, -, -, fits, markPrice, priced, rfl⟩ := ran
    obtain ⟨positiveX, positiveY⟩ := not_or.mp pos
    exact .launched fresh (not_le.mp positiveX) (not_le.mp positiveY) fits priced
  | setPaused _ paused =>
    simp only [dispatch, setPaused, call_ok] at ran
    obtain ⟨-, -, rfl⟩ := ran
    exact .paused paused
  | updateIndexPrice =>
    simp only [dispatch, updateIndexPrice, getFunding, call_ok] at ran
    obtain ⟨-, -, -, funding, got, rateBps, -, rfl⟩ := ran
    exact .indexed got rfl
  | updateFundingRate =>
    obtain ⟨⟨_, after⟩, returned, rfl⟩ := map_eq_ok.mp ran
    simp only [updateFundingRate, getFunding, getVamm, call_ok, arith_ok] at returned
    obtain ⟨-, -, funding, -, -, -, vamm, pool, _, priced, _, -, -, rfl⟩ := returned
    exact .rated pool priced
  | settleFunding =>
    obtain ⟨⟨_, after⟩, returned, rfl⟩ := map_eq_ok.mp ran
    simp only [settleFunding, getFunding, call_ok, arith_ok] at returned
    obtain ⟨-, -, -, -, funding, got, -, -, ⟨_, _⟩, loop, -, rfl⟩ := returned
    exact .settled got rfl (settle_loop_get nodup_range' loop)
  | openPosition =>
    obtain ⟨⟨_, after⟩, returned, rfl⟩ := map_eq_ok.mp ran
    simp only [openPosition, getFunding, getVamm, call_ok, arith_ok] at returned
    obtain ⟨-, -, -, -, -, sized, -, -, vamm, pool, traded, trade, _, priced, funding, -, -, -,
      rfl⟩ := returned
    exact .opened sized pool trade priced
  | closePosition =>
    obtain ⟨⟨_, _⟩, returned, rfl⟩ := map_eq_ok.mp ran
    obtain ⟨position, _, _, _, _, _, _, closing⟩ :=
      closePosition_closing returned
    rw [closing.left]
    exact .closed closing.stored closing.active closing.pool closing.trade closing.priced
  | liquidatePosition =>
    simp only [dispatch, liquidatePosition, getPosition, call_ok] at ran
    obtain ⟨-, -, -, -, -, _, got, active, -, -, -, -, -, -, -, -, -, -, -, rfl⟩ := ran
    exact .liquidated got active

theorem launch_effect {admin : Address} {reserveX reserveY indexPrice : Int}
    (launched : initializePerpetuals env admin reserveX reserveY indexPrice state = .ok next) :
    Effect state (.initializePerpetuals admin reserveX reserveY indexPrice) next := by
  have ran : dispatch state ((env, .initializePerpetuals admin reserveX reserveY indexPrice) :
      Env Address contract × Operation Address) = .ok next := launched
  exact dispatch_effect ran

omit [DecidableEq Address]

/-- A stored position has a size and a price in range. -/
structure Position.Sound (position : Position Address) : Prop where
  sized : 0 < position.size
  entry_nonneg : 0 ≤ position.entryPrice
  entry_le : position.entryPrice ≤ i128Max

structure Books (state : State Address) : Prop where
  pool_sound : ∀ vamm, state.vammConfig = some vamm → vamm.Sound
  marked : ∀ vamm, state.vammConfig = some vamm →
    ∃ funding, state.fundingRate = some funding ∧ vammMarkPriceFrom vamm = .ok funding.markPrice
  numbered : ∀ id position, state.positions.get id = some position →
    id ∈ List.range' 1 state.positionCount
  sound : ∀ id position, state.positions.get id = some position → position.Sound
  unopened : state.initialized = false → state.positions = ∅ ∧ state.vammConfig = none
  pooled : state.initialized = true → ∃ vamm, state.vammConfig = some vamm

theorem books_empty : Books ({} : State Address) := by
  constructor
  · intro vamm pool
    cases pool
  · intro vamm pool
    cases pool
  · intro id position got
    cases got
  · intro id position got
    cases got
  · intro _
    exact ⟨rfl, rfl⟩
  · intro opened
    cases opened

theorem Position.Sound.settled (sound : position.Sound)
    (rateBps : Int) : (position.settled rateBps).Sound := by
  rw [Position.settled_eq]
  exact ⟨sound.sized, sound.entry_nonneg, sound.entry_le⟩

theorem VammConfig.Sound.price_nonneg (sound : vamm.Sound) {price : Int}
    (priced : vammMarkPriceFrom vamm = .ok price) : 0 ≤ price ∧ price ≤ i128Max := by
  obtain ⟨-, -, fits, rfl⟩ := vammMarkPriceFrom_eq_ok.mp priced
  refine ⟨Int.tdiv_nonneg (mul_nonneg ?_ (by decide)) sound.positive.le, fits.2⟩
  rw [sound.on_curve]
  exact Int.tdiv_nonneg sound.product_nonneg sound.positive.le

theorem trade_sound {traded : VammConfig} {isLong : Bool} {size : Int} (sound : vamm.Sound)
    (sized : 0 < size) (trade : applyVammTrade vamm isLong size = .ok traded) : traded.Sound := by
  obtain ⟨room, rfl⟩ := (applyVammTrade_eq_ok_iff sound sized).mp trade
  exact moved_sound sound sized room

theorem Books.settled_get {state : State Address} (books : Books state)
    {positions : FiniteMap Nat (Position Address)} (wrote : ∀ id, positions.get id =
      if id ∈ List.range' 1 state.positionCount then
        (state.positions.get id).map (·.settled rateBps)
      else state.positions.get id) (id : Nat) :
    positions.get id = (state.positions.get id).map (·.settled rateBps) := by
  rw [wrote id]
  split
  · rfl
  · next outside =>
    cases got : state.positions.get id with
    | none => rfl
    | some position => exact (outside (books.numbered id position got)).elim

theorem Books.opened {state : State Address} (books : Books state) {vamm : VammConfig}
    (pool : state.vammConfig = some vamm) : state.initialized = true := by
  cases opened : state.initialized with
  | true => rfl
  | false =>
    rw [(books.unopened opened).2] at pool
    cases pool

variable {operation : Operation Address}

theorem Effect.stays_opened {state next : State Address} (effect : Effect state operation next)
    (opened : state.initialized = true) : next.initialized = true := by
  cases effect with
  | launched => rfl
  | _ => exact opened

theorem Books.next_absent {state : State Address} (books : Books state) :
    state.positions.get (state.positionCount + 1) = none := by
  cases got : state.positions.get (state.positionCount + 1) with
  | none => rfl
  | some position =>
    have listed := mem_range'_1.mp (books.numbered _ position got)
    omega

theorem books_effect {state next : State Address} (books : Books state)
    (effect : Effect state operation next) : Books next := by
  cases effect with
  | launched fresh positiveX positiveY fits priced =>
    obtain ⟨nothing, -⟩ := books.unopened fresh
    refine ⟨?_, ?_, ?_, ?_, nofun, fun _ => ⟨_, rfl⟩⟩
    · rintro vamm ⟨⟩
      refine ⟨positiveX, ?_, (mul_pos positiveX positiveY).le, fits.2, ?_⟩
      · exact (le_mul_of_one_le_right positiveX.le positiveY).trans fits.2
      · exact (Int.mul_tdiv_cancel_left _ positiveX.ne').symm
    · rintro vamm ⟨⟩
      exact ⟨_, rfl, priced⟩
    · intro id position got
      rw [nothing] at got
      cases got
    · exact books.sound
  | paused =>
    exact ⟨books.pool_sound, books.marked, books.numbered, books.sound, books.unopened,
      books.pooled⟩
  | indexed got marked =>
    refine ⟨books.pool_sound, fun vamm pool => ?_, books.numbered, books.sound, books.unopened,
      books.pooled⟩
    obtain ⟨funding, kept, priced⟩ := books.marked vamm pool
    cases got.symm.trans kept
    exact ⟨_, rfl, marked ▸ priced⟩
  | rated pool priced =>
    refine ⟨books.pool_sound, fun vamm same => ?_, books.numbered, books.sound, books.unopened,
      books.pooled⟩
    cases pool.symm.trans same
    exact ⟨_, rfl, priced⟩
  | @settled funding updated positions got marked wrote =>
    have reached := books.settled_get wrote
    refine ⟨books.pool_sound, fun vamm pool => ?_, fun id position found => ?_,
      fun id position found => ?_, fun fresh => ?_, books.pooled⟩
    · obtain ⟨other, kept, priced⟩ := books.marked vamm pool
      cases got.symm.trans kept
      exact ⟨_, rfl, marked ▸ priced⟩
    · obtain ⟨before, held, -⟩ := Option.map_eq_some_iff.mp ((reached id).symm.trans found)
      exact books.numbered id before held
    · obtain ⟨before, held, rfl⟩ := Option.map_eq_some_iff.mp ((reached id).symm.trans found)
      exact (books.sound id before held).settled _
    · obtain ⟨nothing, noPool⟩ := books.unopened fresh
      refine ⟨FiniteMap.ext_get fun id => ?_, noPool⟩
      rw [reached id, nothing]
      rfl
  | @opened trader isLong size leverage collateral vamm traded funding sized pool trade priced =>
    have tradedSound := trade_sound (books.pool_sound vamm pool) sized trade
    obtain ⟨nonneg, fits⟩ := tradedSound.price_nonneg priced
    refine ⟨?_, ?_, ?_, ?_, fun fresh => ?_, fun _ => ⟨traded, rfl⟩⟩
    · rintro other ⟨⟩
      exact tradedSound
    · rintro other ⟨⟩
      exact ⟨funding, rfl, priced⟩
    · apply forall_set
      · intro id position got
        have listed := mem_range'_1.mp (books.numbered id position got)
        exact mem_range'_1.mpr ⟨listed.1, Nat.lt_succ_of_lt listed.2⟩
      · exact mem_range'_1.mpr ⟨Nat.le_add_left 1 _, Nat.lt_add_of_pos_left Nat.one_pos⟩
    · exact forall_set books.sound ⟨sized, nonneg, fits⟩
    · rw [(books.unopened fresh).2] at pool
      cases pool
  | @closed trader positionId position vamm traded funding got active pool trade priced =>
    have held := books.sound positionId position got
    have tradedSound := trade_sound (books.pool_sound vamm pool) held.sized trade
    refine ⟨?_, ?_, ?_, ?_, fun fresh => ?_, fun _ => ⟨traded, rfl⟩⟩
    · rintro other ⟨⟩
      exact tradedSound
    · rintro _ ⟨⟩
      exact ⟨funding, rfl, priced⟩
    · exact forall_set books.numbered (books.numbered positionId position got)
    · exact forall_set books.sound ⟨held.sized, held.entry_nonneg, held.entry_le⟩
    · rw [(books.unopened fresh).2] at pool
      cases pool
  | @liquidated liquidator positionId position got active =>
    have held := books.sound positionId position got
    refine ⟨books.pool_sound, books.marked, ?_, ?_, fun fresh => ?_, books.pooled⟩
    · exact forall_set books.numbered (books.numbered positionId position got)
    · exact forall_set books.sound ⟨held.sized, held.entry_nonneg, held.entry_le⟩
    · rw [(books.unopened fresh).1] at got
      cases got

end SorobanPlayground.Perpetuals
