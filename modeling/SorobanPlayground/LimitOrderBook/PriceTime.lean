import SorobanPlayground.LimitOrderBook.Crossing

/-! # Price-time priority

The scan breaks ties by the ledger of the placement and then takes the order it sees first. Ledgers
never run backwards, so this is the earliest order, and a match yields the trades of a reference
matcher that asks for the best price and then for the smallest id.
-/

namespace SorobanPlayground.LimitOrderBook

open List

variable {Address : Type} {contract : Address}

/-- The price as an aggressor of a side ranks it, the best one lowest. -/
def rank (side : Side) (price : Int) : Int :=
  match side with
  | .buy => price
  | .sell => -price

/-- A live order of the other side whose limit is compatible with the aggressor's. -/
structure Fits (orders : FiniteMap Nat (Order Address)) (aggressor : Order Address) (id : Nat)
    (resting : Order Address) : Prop where
  stored : orders.get id = some resting
  live : ¬ resting.status.inactive
  opposite : resting.side ≠ aggressor.side
  compatible : rank aggressor.side resting.price ≤ rank aggressor.side aggressor.price

/-- Whether an order comes before another one, or is it: by its price and then by its id. -/
def Before (side : Side) (id : Nat) (order : Order Address) (otherId : Nat)
    (other : Order Address) : Prop :=
  rank side order.price < rank side other.price ∨
    rank side order.price = rank side other.price ∧ id ≤ otherId

/-- The order that the reference matcher fills next. -/
structure NextInLine (orders : FiniteMap Nat (Order Address)) (aggressor : Order Address)
    (restingId : Nat) (resting : Order Address) : Prop where
  fits : Fits orders aggressor restingId resting
  first : ∀ id other, Fits orders aggressor id other →
    Before aggressor.side restingId resting id other

/-- The trades of the reference matcher. It fills the aggressor at the resting price against the
next order in line, until the aggressor is filled or no order fits. -/
inductive ReferenceMatch (sequence aggressorId : Nat) :
    FiniteMap Nat (Order Address) → Order Address → List Trade → Prop
  | closed {orders : FiniteMap Nat (Order Address)} {aggressor : Order Address}
      (inactive : aggressor.status.inactive) :
      ReferenceMatch sequence aggressorId orders aggressor []
  | unmatched {orders : FiniteMap Nat (Order Address)} {aggressor : Order Address}
      (alone : ∀ id resting, ¬ Fits orders aggressor id resting) :
      ReferenceMatch sequence aggressorId orders aggressor []
  | fill {orders : FiniteMap Nat (Order Address)} {aggressor resting : Order Address}
      {restingId : Nat} {quantity : Int} {trades : List Trade}
      (live : ¬ aggressor.status.inactive) (next : NextInLine orders aggressor restingId resting)
      (least : quantity = min aggressor.remaining resting.remaining)
      (rest : ReferenceMatch sequence aggressorId
        ((orders.set aggressorId (aggressor.filledTo (aggressor.remaining - quantity))).set
          restingId (resting.filledTo (resting.remaining - quantity)))
        (aggressor.filledTo (aggressor.remaining - quantity)) trades) :
      ReferenceMatch sequence aggressorId orders aggressor
        (tradeOf aggressor.side aggressorId restingId resting.price quantity sequence :: trades)

variable {orders : FiniteMap Nat (Order Address)} {aggressor : Order Address}

theorem NextInLine.unique {firstId secondId : Nat} {first second : Order Address}
    (one : NextInLine orders aggressor firstId first)
    (other : NextInLine orders aggressor secondId second) :
    firstId = secondId ∧ first = second := by
  have same : firstId = secondId := by
    rcases one.first secondId second other.fits, other.first firstId first one.fits with
      ⟨better | ⟨_, _⟩, better' | ⟨_, _⟩⟩ <;> omega
  subst same
  exact ⟨rfl, Option.mem_unique one.fits.stored other.fits.stored⟩

theorem ReferenceMatch.unique {sequence aggressorId : Nat} {trades others : List Trade}
    (one : ReferenceMatch sequence aggressorId orders aggressor trades)
    (other : ReferenceMatch sequence aggressorId orders aggressor others) : trades = others := by
  induction one generalizing others with
  | closed inactive =>
    cases other with
    | closed => rfl
    | unmatched => rfl
    | fill live => exact absurd inactive live
  | unmatched alone =>
    cases other with
    | closed => rfl
    | unmatched => rfl
    | fill _ next => exact absurd next.fits (alone _ _)
  | fill live next least _ ih =>
    cases other with
    | closed inactive => exact absurd inactive live
    | unmatched alone => exact absurd next.fits (alone _ _)
    | fill _ next' least' rest' =>
      obtain ⟨rfl, rfl⟩ := next.unique next'
      subst least least'
      rw [ih rest']

/-- Later orders have been placed no earlier. -/
def Chronological (orders : FiniteMap Nat (Order Address)) : Prop :=
  ∀ id order otherId other, orders.get id = some order → orders.get otherId = some other →
    id ≤ otherId → order.createdAt ≤ other.createdAt

/-- The orders of a book that calls up to a ledger have left. -/
structure Timely (now : Nat) (orders : FiniteMap Nat (Order Address)) : Prop where
  ordered : Chronological orders
  past : ∀ id order, orders.get id = some order → order.createdAt ≤ now ∧ order.quantity ≤ i128Max

variable {now : Nat}

theorem timely_empty : Timely 0 (∅ : FiniteMap Nat (Order Address)) where
  ordered id _ _ _ got := by cases (get_empty id).symm.trans got
  past id _ got := by cases (get_empty id).symm.trans got

theorem Timely.mono {later : Nat} (timely : Timely now orders) (le : now ≤ later) :
    Timely later orders where
  ordered := timely.ordered
  past id order got := (timely.past id order got).imp_left fun past => past.trans le

theorem Timely.set (timely : Timely now orders) {id : Nat} {order wrote : Order Address}
    (got : orders.get id = some order) (age : wrote.createdAt = order.createdAt)
    (size : wrote.quantity = order.quantity) : Timely now (orders.set id wrote) := by
  have aged : ∀ other next, (orders.set id wrote).get other = some next →
      ∃ before, orders.get other = some before ∧ next.createdAt = before.createdAt ∧
        next.quantity = before.quantity :=
    forall_set (fun _ next found => ⟨next, found, rfl, rfl⟩) ⟨order, got, age, size⟩
  constructor
  · intro first one second two storedOne storedTwo le
    obtain ⟨old, found, age, -⟩ := aged first one storedOne
    obtain ⟨old', found', age', -⟩ := aged second two storedTwo
    rw [age, age']
    exact timely.ordered first old second old' found found' le
  · intro other next found
    obtain ⟨before, found, age, size⟩ := aged other next found
    rw [age, size]
    exact timely.past other before found

theorem Timely.place (timely : Timely now orders) (order : Order Address)
    (fresh : ∀ id earlier, orders.get id = some earlier → id < order.id)
    (later : now ≤ order.createdAt) (sized : order.quantity ≤ i128Max) :
    Timely order.createdAt (orders.set order.id order) := by
  have timely := timely.mono later
  constructor
  · intro id one otherId two storedOne storedTwo le
    rw [get_set] at storedOne storedTwo
    split_ifs at storedOne storedTwo with last last'
    · obtain rfl := Option.some.inj (storedOne.symm.trans storedTwo)
      exact le_rfl
    · exact absurd (fresh otherId two storedTwo) (by omega)
    · cases storedTwo
      exact (timely.past id one storedOne).1
    · exact timely.ordered id one otherId two storedOne storedTwo le
  · exact forall_set timely.past ⟨le_rfl, sized⟩

variable {aggressorId restingId : Nat} {resting : Order Address}

theorem candidateBetter_iff {side : Side} {best : Order Address} {bestId : Nat} :
    candidateBetter side resting (some (bestId, best)) = true ↔
      rank side resting.price < rank side best.price ∨
        rank side resting.price = rank side best.price ∧ resting.createdAt < best.createdAt := by
  cases side <;> simp only [candidateBetter, rank, decide_eq_true_eq]
  omega

theorem priceMatches_iff : priceMatches aggressor resting = true ↔
    rank aggressor.side resting.price ≤ rank aggressor.side aggressor.price := by
  unfold priceMatches
  cases aggressor.side <;> simp [rank]

theorem counterpart_iff (got : orders.get aggressorId = some aggressor) :
    Counterpart orders aggressorId aggressor restingId resting ↔
      Fits orders aggressor restingId resting := by
  constructor
  · rintro ⟨-, found, live, opposite, priced⟩
    exact ⟨found, live, opposite, priceMatches_iff.mp priced⟩
  · rintro ⟨found, live, opposite, compatible⟩
    refine ⟨?_, found, live, opposite, priceMatches_iff.mpr compatible⟩
    rintro rfl
    cases got.symm.trans found
    exact opposite rfl

theorem findBest_succ (scanLimit : Nat) :
    findBest orders (scanLimit + 1) aggressorId aggressor = considerResting orders aggressorId
      aggressor (findBest orders scanLimit aggressorId aggressor) (scanLimit + 1) := by
  unfold findBest
  rw [range'_concat, foldl_append, one_mul, add_comm 1 scanLimit]
  rfl

theorem findBest_before {scanLimit : Nat} (ordered : Chronological orders)
    (found : findBest orders scanLimit aggressorId aggressor = some (restingId, resting))
    {id : Nat} {other : Order Address} (first : 1 ≤ id) (visited : id ≤ scanLimit)
    (fit : Counterpart orders aggressorId aggressor id other) :
    Before aggressor.side restingId resting id other := by
  induction scanLimit generalizing restingId resting with
  | zero => omega
  | succ scanLimit ih =>
    rw [findBest_succ] at found
    by_cases fits : ∃ newer, Counterpart orders aggressorId aggressor (scanLimit + 1) newer
    · obtain ⟨newer, newerFit⟩ := fits
      rw [considerResting_of_counterpart newerFit] at found
      cases earlier : findBest orders scanLimit aggressorId aggressor with
      | none =>
        have last : id = scanLimit + 1 := by
          by_contra old
          exact findBest_eq_none earlier id first (by omega) other fit
        subst last
        obtain rfl := Option.mem_unique newerFit.stored fit.stored
        rw [earlier] at found
        cases found
        exact .inr ⟨rfl, le_rfl⟩
      | some best =>
        obtain ⟨_, best⟩ := best
        obtain ⟨⟨-, _⟩, bestFit⟩ := findBest_eq_some earlier
        have aged := ordered _ _ _ _ bestFit.stored newerFit.stored (by omega)
        simp only [earlier, candidateBetter_iff] at found
        by_cases last : id = scanLimit + 1
        · subst last
          obtain rfl := Option.mem_unique newerFit.stored fit.stored
          unfold Before
          split_ifs at found <;> cases found <;> omega
        · have beaten := ih earlier (by omega)
          unfold Before at beaten ⊢
          split_ifs at found <;> cases found <;> omega
    · rw [considerResting_of_not fun newer fit => fits ⟨newer, fit⟩] at found
      by_cases last : id = scanLimit + 1
      · exact absurd ⟨other, last ▸ fit⟩ fits
      · exact ih found (by omega)

variable {sequence scanLimit : Nat} {progress next : Progress Address} {quantity : Int}

structure Matchable (now aggressorId : Nat) (progress : Progress Address) : Prop where
  conserved : Conserved progress.state
  timely : Timely now progress.state.orders
  inStep : progress.InStep aggressorId
  active : progress.aggressor.status ≠ .cancelled

/-- The match after a fill that does not overflow. -/
def Progress.fillNext (sequence aggressorId : Nat) (progress : Progress Address) (restingId : Nat)
    (resting : Order Address) : Progress Address :=
  let quantity := min progress.aggressor.remaining resting.remaining
  let aggressor := progress.aggressor.filledTo (progress.aggressor.remaining - quantity)
  let trade := tradeOf progress.aggressor.side aggressorId restingId resting.price quantity sequence
  { state := { (((progress.state.setOrder aggressor).setOrder
      (resting.filledTo (resting.remaining - quantity))).publish trade) with
        totalVolume := progress.state.totalVolume + quantity }
    aggressor
    trades := progress.trades ++ [trade] }

theorem Matchable.fill (matchable : Matchable now aggressorId progress)
    (fills : Fills sequence scanLimit aggressorId progress restingId resting quantity next) :
    Matchable now aggressorId next := by
  have filed := matchable.conserved.filed
  have own : progress.aggressor.id = aggressorId := filed _ _ matchable.inStep
  have named : resting.id = restingId := filed _ _ fills.counterpart.stored
  refine ⟨fills.conserved matchable.conserved matchable.inStep, ?_,
    fills.inStep filed matchable.inStep, ?_⟩
  · rw [fills.orders, fills.aggressor, own, named]
    have active : Timely now (progress.state.orders.set aggressorId
        (progress.aggressor.filledTo (progress.aggressor.remaining - quantity))) :=
      matchable.timely.set matchable.inStep rfl rfl
    exact active.set ((get_set_of_ne _ _ fills.counterpart.different).trans
      fills.counterpart.stored) rfl rfl
  · rw [fills.aggressor]
    unfold Order.filledTo fillStatus
    split_ifs <;> nofun

theorem Conserved.totalVolume_nonneg {state : State Address} (kept : Conserved state) :
    0 ≤ state.totalVolume := by
  rw [kept.volume]
  apply sum_nonneg
  intro quantity mem
  obtain ⟨trade, published, rfl⟩ := mem_map.mp mem
  exact (kept.trades trade published).positive.le

section

variable (matchable : Matchable now aggressorId progress)
include matchable

theorem Matchable.fill_eq
    (fit : Counterpart progress.state.orders aggressorId progress.aggressor restingId resting) :
    LimitOrderBook.fill sequence aggressorId progress restingId resting =
      if progress.state.totalVolume + min progress.aggressor.remaining resting.remaining ≤ i128Max
      then .ok (progress.fillNext sequence aggressorId restingId resting) else .error .trap := by
  have active := matchable.conserved.orders _ _ matchable.inStep
  have passive := matchable.conserved.orders _ _ fit.stored
  have sized := (matchable.timely.past _ _ matchable.inStep).2
  have sized' := (matchable.timely.past _ _ fit.stored).2
  have remains := active.remains
  have remains' := passive.remains
  have within := active.within
  have within' := passive.within
  have volume := matchable.conserved.totalVolume_nonneg
  have low : i128Min ≤ 0 := by decide
  have left : InI128 (progress.aggressor.remaining -
      min progress.aggressor.remaining resting.remaining) := by
    unfold InI128
    omega
  have left' : InI128 (resting.remaining - min progress.aggressor.remaining resting.remaining) := by
    unfold InI128
    omega
  unfold LimitOrderBook.fill addTotalVolume
  dsimp only
  rw [checkedSub_eq_ok.mpr ⟨left, rfl⟩, checkedSub_eq_ok.mpr ⟨left', rfl⟩]
  by_cases fits : progress.state.totalVolume +
      min progress.aggressor.remaining resting.remaining ≤ i128Max
  · have added : InI128 (progress.state.totalVolume +
        min progress.aggressor.remaining resting.remaining) := ⟨by omega, fits⟩
    rw [if_pos fits, checkedAdd_eq_ok.mpr ⟨added, rfl⟩]
    rfl
  · rw [if_neg fits, checkedAdd_eq_error.mpr ⟨fun added => fits added.2, rfl⟩]
    rfl

theorem Matchable.live
    (left : 0 < progress.aggressor.remaining) : ¬ progress.aggressor.status.inactive := by
  have accounted := matchable.conserved.orders _ _ matchable.inStep
  rintro (filled | cancelled)
  · exact left.ne' ((accounted.filled matchable.active).mp filled)
  · exact matchable.active cancelled

section

variable (few : progress.state.orderCount ≤ scanLimit)
include few

theorem Matchable.visited {id : Nat}
    (fits : Fits progress.state.orders progress.aggressor id resting) :
    1 ≤ id ∧ id ≤ scanLimit ∧
      Counterpart progress.state.orders aggressorId progress.aggressor id resting := by
  obtain ⟨first, known⟩ := matchable.conserved.counted id resting fits.stored
  exact ⟨first, known.trans few, (counterpart_iff matchable.inStep).mpr fits⟩

theorem Matchable.exits (exited : matchRound sequence scanLimit aggressorId progress = .ok none) :
    ReferenceMatch sequence aggressorId progress.state.orders progress.aggressor [] := by
  have accounted := matchable.conserved.orders _ _ matchable.inStep
  rcases matchRound_exits exited with done | unmatched
  · have none : progress.aggressor.remaining = 0 := le_antisymm done accounted.remains
    exact .closed (.inl ((accounted.filled matchable.active).mpr none))
  · refine .unmatched fun id resting fits => ?_
    obtain ⟨first, scanned, fit⟩ := matchable.visited few fits
    exact unmatched id first scanned resting fit

section

variable (found : findBest progress.state.orders scanLimit aggressorId progress.aggressor =
    some (restingId, resting))
include found

theorem Matchable.nextInLine :
    NextInLine progress.state.orders progress.aggressor restingId resting where
  fits := (counterpart_iff matchable.inStep).mp (findBest_eq_some found).2
  first id other fits := by
    obtain ⟨first, scanned, fit⟩ := matchable.visited few fits
    exact findBest_before matchable.timely.ordered found first scanned fit

theorem Matchable.goes_on (left : 0 < progress.aggressor.remaining) {trades : List Trade}
    (rest : ReferenceMatch sequence aggressorId
      (progress.fillNext sequence aggressorId restingId resting).state.orders
      (progress.fillNext sequence aggressorId restingId resting).aggressor trades) :
    ReferenceMatch sequence aggressorId progress.state.orders progress.aggressor
      (tradeOf progress.aggressor.side aggressorId restingId resting.price
        (min progress.aggressor.remaining resting.remaining) sequence :: trades) := by
  have inLine := matchable.nextInLine few found
  have own : progress.aggressor.id = aggressorId :=
    matchable.conserved.filed _ _ matchable.inStep
  have named : resting.id = restingId := matchable.conserved.filed _ _ inLine.fits.stored
  refine .fill (matchable.live left) inLine rfl ?_
  rw [← own, ← named]
  rw [← own, ← named] at rest
  exact rest

end

theorem Matchable.run {rounds : Nat} (enough : roundsLeft scanLimit aggressorId progress < rounds) :
    ∃ trades, ReferenceMatch sequence aggressorId progress.state.orders progress.aggressor trades ∧
      0 ≤ (trades.map Trade.quantity).sum ∧
      ((∃ later, matchResult (WhileLoop.run (matchRound sequence scanLimit aggressorId) rounds
          progress) = .ok (progress.trades ++ trades, later)) ∨
        matchResult (WhileLoop.run (matchRound sequence scanLimit aggressorId) rounds progress) =
            .error .trap ∧
          i128Max < progress.state.totalVolume + (trades.map Trade.quantity).sum) := by
  induction rounds generalizing progress with
  | zero => exact absurd enough (Nat.not_lt_zero _)
  | succ _ ih =>
    have filed := matchable.conserved.filed
    unfold WhileLoop.run
    by_cases ends : matchRound sequence scanLimit aggressorId progress = .ok none
    · rw [ends]
      refine ⟨[], matchable.exits few ends, le_rfl, .inl ⟨progress.state, ?_⟩⟩
      rw [append_nil]
      rfl
    · unfold matchRound at ends ⊢
      split_ifs at ends ⊢ with left
      · cases found : findBest progress.state.orders scanLimit aggressorId progress.aggressor with
        | none => exact absurd (by rw [found]) ends
        | some best =>
          obtain ⟨restingId, resting⟩ := best
          obtain ⟨⟨first, visited⟩, fit⟩ := findBest_eq_some found
          have fills : Fills sequence scanLimit aggressorId progress restingId resting _
              (progress.fillNext sequence aggressorId restingId resting) :=
            ⟨left, first, visited, fit, rfl, rfl, rfl, rfl, rfl, rfl, rfl⟩
          have available := (matchable.conserved.orders _ _ fit.stored).remaining_pos fit.live
          have fewer := fills.roundsLeft_lt filed (filed _ _ matchable.inStep)
          obtain ⟨_, reference, _, outcome⟩ := ih (matchable.fill fills)
            (fills.orderCount ▸ few) (by omega)
          dsimp only
          rw [matchable.fill_eq fit]
          refine ⟨_, matchable.goes_on few found left reference, ?_, ?_⟩
          · rw [map_cons, sum_cons, tradeOf_quantity]
            omega
          · rw [map_cons, sum_cons, tradeOf_quantity, ← add_assoc, append_cons]
            split_ifs with fits
            · exact outcome
            · exact .inr ⟨rfl, by omega⟩
      · exact absurd rfl ends

end

end

/-- A match of a stored order returns the trades of the reference matcher. It traps only when these
overflow the volume. -/
def PriceTimePriority (state : State Address) : Prop :=
  ∀ sequence aggressorId aggressor, state.orders.get aggressorId = some aggressor →
    ∃ trades, (∀ others,
        ReferenceMatch sequence aggressorId state.orders aggressor others ↔ others = trades) ∧
      ((∃ later, tryMatch sequence aggressorId state = .ok (trades, later)) ∨
        tryMatch sequence aggressorId state = .error .trap ∧
          i128Max < state.totalVolume + (trades.map Trade.quantity).sum)

/-- The quantity of a new order is an `i128`. -/
def Operation.Sized : Operation Address → Prop
  | .placeOrder _ _ _ quantity => quantity ≤ i128Max
  | _ => True

/-- Calls at ledgers that do not run backwards. -/
structure Orderly (calls : List (LedgerEnv Address contract × Operation Address)) : Prop where
  clocks : calls.Pairwise fun earlier later => earlier.1.sequence ≤ later.1.sequence
  sized : ∀ call ∈ calls, call.2.Sized

variable {state next : State Address} {now : Nat}

theorem Conserved.priceTimePriority (kept : Conserved state) (timely : Timely now state.orders)
    (few : state.orderCount ≤ maxScanned) : PriceTimePriority state := by
  intro sequence aggressorId aggressor got
  suffices ∃ trades, ReferenceMatch sequence aggressorId state.orders aggressor trades ∧
      ((∃ later, tryMatch sequence aggressorId state = .ok (trades, later)) ∨
        tryMatch sequence aggressorId state = .error .trap ∧
          i128Max < state.totalVolume + (trades.map Trade.quantity).sum) by
    obtain ⟨trades, reference, outcome⟩ := this
    exact ⟨trades, fun others => ⟨fun other => other.unique reference,
      fun same => same ▸ reference⟩, outcome⟩
  have matched : tryMatch sequence aggressorId state =
      if aggressor.status.inactive then .ok ([], state)
      else matchResult (matchLoop sequence aggressorId aggressor state) := by
    unfold tryMatch
    rw [got]
    rfl
  rw [matched]
  split_ifs with inactive
  · exact ⟨[], .closed inactive, .inl ⟨state, rfl⟩⟩
  · have matchable : Matchable now aggressorId { state, aggressor, trades := [] } :=
      ⟨kept, timely, got, fun cancelled => inactive (.inr cancelled)⟩
    obtain ⟨trades, reference, -, outcome⟩ := matchable.run (min_eq_left few).ge
      (roundsLeft_lt _ _ _)
    exact ⟨trades, reference, outcome⟩

theorem tryMatch_timely {sequence aggressorId : Nat} {trades : List Trade}
    (kept : Conserved state) (timely : Timely now state.orders)
    (ran : tryMatch sequence aggressorId state = .ok (trades, next)) : Timely now next.orders := by
  obtain ⟨aggressor, got, ⟨-, rfl⟩ | ⟨live, _, looped, rfl⟩⟩ := tryMatch_eq_ok ran
  · exact timely
  · have matchable : Matchable now aggressorId { state, aggressor, trades := [] } :=
      ⟨kept, timely, got, fun cancelled => live (.inr cancelled)⟩
    refine (WhileLoop.run_invariant (Matchable now aggressorId) ?_ matchable looped).1.timely
    intro progress next matchable ran
    obtain ⟨_, _, _, fills⟩ := matchRound_fills ran
    exact matchable.fill fills

variable {env : LedgerEnv Address contract} {owner : Address} {side : Side} {price quantity : Int}

theorem Conserved.placed (kept : Conserved state) (timely : Timely now state.orders)
    (later : now ≤ env.sequence) (live : state.admin.isSome = true) (pos : 0 < quantity)
    (sized : quantity ≤ i128Max) :
    Conserved ((state.withCount (state.orderCount + 1)).setOrder
        (newOrder env owner side price quantity (state.orderCount + 1))) ∧
      Timely env.sequence ((state.withCount (state.orderCount + 1)).setOrder
        (newOrder env owner side price quantity (state.orderCount + 1))).orders := by
  refine ⟨kept.place (newOrder env owner side price quantity _) live rfl pos rfl rfl, ?_⟩
  refine timely.place (newOrder env owner side price quantity _) ?_ later sized
  exact fun id earlier got => Nat.lt_succ_of_le (kept.counted id earlier got).2

variable [DecidableEq Address] {state next : State Address}

theorem dispatch_timely {call : LedgerEnv Address contract × Operation Address}
    (kept : Conserved state) (timely : Timely now state.orders)
    (later : now ≤ call.1.sequence) (sized : call.2.Sized)
    (ran : dispatch state call = .ok next) : Timely call.1.sequence next.orders := by
  obtain ⟨_, op⟩ := call
  cases op with
  | placeOrder =>
    obtain ⟨⟨_, next⟩, placed, rfl⟩ := map_eq_ok.mp ran
    obtain ⟨live, pos, _, matched⟩ := placeOrder_eq_ok placed
    obtain ⟨kept, timely⟩ := kept.placed timely later live pos sized
    exact tryMatch_timely kept timely matched
  | cancelOrder _ id =>
    simp only [dispatch, cancelOrder, call_ok] at ran
    obtain ⟨-, order, got, -, -, rfl⟩ := ran
    obtain rfl := kept.filed id order got
    exact (timely.mono later).set got rfl rfl
  | matchOrder =>
    obtain ⟨⟨_, next⟩, matched, rfl⟩ := map_eq_ok.mp ran
    obtain ⟨_, -, matched⟩ := bind_eq_ok.mp matched
    exact tryMatch_timely kept (timely.mono later) matched
  | _ =>
    have same : next.orders = state.orders := by
      apply Outcome.Yields.of_ok ran
      simp only [dispatch, initializeBook, pause, unpause, setAdmin, yields_bind, yields_pure,
        yields_true]
    exact same ▸ timely.mono later

theorem run_timely {calls : List (LedgerEnv Address contract × Operation Address)}
    (conserved : Conserved state) (timely : Timely now state.orders) (orderly : Orderly calls)
    (begun : ∀ call ∈ calls, now ≤ call.1.sequence) {last : Nat} (le : now ≤ last)
    (ended : ∀ call ∈ calls, call.1.sequence ≤ last) :
    Conserved ((machine contract).run state calls) ∧
      Timely last ((machine contract).run state calls).orders := by
  induction calls generalizing state now with
  | nil => exact ⟨conserved, timely.mono le⟩
  | cons call _ ih =>
    obtain ⟨clocks, sized⟩ := orderly
    obtain ⟨follow, clocks⟩ := pairwise_cons.mp clocks
    obtain ⟨fits, sized⟩ := forall_mem_cons.mp sized
    obtain ⟨begins, -⟩ := forall_mem_cons.mp begun
    obtain ⟨ends, ended⟩ := forall_mem_cons.mp ended
    have kept : Conserved ((machine contract).apply state call) ∧
        Timely call.1.sequence ((machine contract).apply state call).orders := by
      rcases (machine contract).apply_cases state call with ran | same
      · exact ⟨dispatch_conserved conserved ran,
          dispatch_timely conserved timely begins fits ran⟩
      · rw [same]
        exact ⟨conserved, timely.mono begins⟩
    exact ih kept.1 kept.2 ⟨clocks, sized⟩ follow ends ended

/-- Matches have price-time priority in every book of at most `maxScanned` orders that orderly calls
reach, and in every such book that a new order has just joined. -/
theorem price_time_priority (calls : List (LedgerEnv Address contract × Operation Address))
    (orderly : Orderly calls) (state : State Address)
    (reached : (machine contract).run {} calls = state) :
    (state.orderCount ≤ maxScanned → PriceTimePriority state) ∧
      ∀ (env : LedgerEnv Address contract) (owner : Address) (side : Side) (price quantity : Int),
        Orderly (calls ++ [(env, .placeOrder owner side price quantity)]) →
        state.admin.isSome = true → 0 < quantity → state.orderCount + 1 ≤ maxScanned →
        PriceTimePriority ((state.withCount (state.orderCount + 1)).setOrder
          (newOrder env owner side price quantity (state.orderCount + 1))) := by
  subst reached
  constructor
  · intro few
    obtain ⟨conserved, timely⟩ := run_timely conserved_empty timely_empty orderly
      (fun _ _ => Nat.zero_le _)
      (Nat.zero_le _) fun call mem =>
        le_sum_of_mem (mem_map_of_mem (f := fun call => call.1.sequence) mem)
    exact conserved.priceTimePriority timely few
  · intro env owner side price quantity extended live pos few
    obtain ⟨-, -, follow⟩ := pairwise_append.mp extended.clocks
    obtain ⟨conserved, timely⟩ := run_timely conserved_empty timely_empty orderly
      (fun _ _ => Nat.zero_le _)
      (Nat.zero_le _) fun call mem => follow call mem _ (mem_singleton_self _)
    have sized := extended.sized _ (mem_append_right _ (mem_singleton_self _))
    obtain ⟨conserved, timely⟩ := conserved.placed timely le_rfl live pos sized
    exact conserved.priceTimePriority timely few

def tradingCalls : List (LedgerEnv Nat 0 × Operation Nat) :=
  [(signedEnv, .initializeBook 1), placing .sell 5, placing .sell 5, placing .buy 6]

theorem price_time_priority_in_trading :
    PriceTimePriority ((machine 0).run {} tradingCalls) ∧
      PriceTimePriority ((((machine 0).run {} tradingCalls).withCount 4).setOrder
        (newOrder signedEnv 2 .buy 5 1 4)) := by
  have orderly : Orderly tradingCalls :=
    ⟨by decide, by simp [tradingCalls, placing, Operation.Sized, i128Max]⟩
  have extended : Orderly (tradingCalls ++ [placing .buy 5]) :=
    ⟨by decide, by simp [tradingCalls, placing, Operation.Sized, i128Max]⟩
  obtain ⟨resting, joined⟩ := price_time_priority tradingCalls orderly _ rfl
  exact ⟨resting (by decide), joined signedEnv 2 .buy 5 1 extended rfl (by decide) (by decide)⟩

end SorobanPlayground.LimitOrderBook
