import SorobanPlayground.LimitOrderBook.Conservation

/-! # Crossed orders

A new order is filled until no scanned order of the other side meets its price, and
the scan sees the first `maxScanned` orders that were ever placed. So two live orders
cross only when both came after these.
-/

namespace SorobanPlayground.LimitOrderBook

variable {Address : Type} {contract : Address}

/-- A live buy order that meets the price of a live sell order. -/
def Crossed (orders : FiniteMap Nat (Order Address)) (buyId sellId : Nat) : Prop :=
  ∃ buy sell, orders.get buyId = some buy ∧ orders.get sellId = some sell ∧
    buy.side = .buy ∧ sell.side = .sell ∧ ¬ buy.status.inactive ∧ ¬ sell.status.inactive ∧
    sell.price ≤ buy.price

/-- Crossed orders have both been placed beyond the scan. -/
def CrossedBeyond (orders : FiniteMap Nat (Order Address)) : Prop :=
  ∀ buyId sellId, Crossed orders buyId sellId → maxScanned < buyId ∧ maxScanned < sellId

/-- Live orders were live before, on the same terms. -/
def LiveFrom (orders later : FiniteMap Nat (Order Address)) : Prop :=
  ∀ id next, later.get id = some next → ¬ next.status.inactive →
    ∃ order, orders.get id = some order ∧ ¬ order.status.inactive ∧ next.side = order.side ∧
      next.price = order.price

variable {orders later : FiniteMap Nat (Order Address)} {buyId sellId : Nat}

theorem Crossed.earlier (crossed : Crossed later buyId sellId) (kept : LiveFrom orders later) :
    Crossed orders buyId sellId := by
  obtain ⟨buy, sell, bought, sold, buySide, sellSide, buyLive, sellLive, meets⟩ := crossed
  obtain ⟨oldBuy, foundBuy, oldBuyLive, side, price⟩ := kept buyId buy bought buyLive
  obtain ⟨oldSell, foundSell, oldSellLive, otherSide, otherPrice⟩ := kept sellId sell sold sellLive
  exact ⟨oldBuy, oldSell, foundBuy, foundSell, side ▸ buySide, otherSide ▸ sellSide, oldBuyLive,
    oldSellLive, otherPrice ▸ price ▸ meets⟩

theorem LiveFrom.refl (orders : FiniteMap Nat (Order Address)) : LiveFrom orders orders :=
  fun _ order got live => ⟨order, got, live, rfl, rfl⟩

theorem LiveFrom.trans {last : FiniteMap Nat (Order Address)} (early : LiveFrom orders later)
    (late : LiveFrom later last) : LiveFrom orders last := by
  intro id next got live
  obtain ⟨middle, found, middleLive, side, price⟩ := late id next got live
  obtain ⟨order, first, orderLive, firstSide, firstPrice⟩ := early id middle found middleLive
  exact ⟨order, first, orderLive, side.trans firstSide, price.trans firstPrice⟩

variable {sequence scanLimit aggressorId restingId : Nat} {progress next : Progress Address}
  {resting : Order Address} {quantity : Int}

theorem Fills.liveFrom
    (fills : Fills sequence scanLimit aggressorId progress restingId resting quantity next)
    (filed : Filed progress.state.orders) (got : progress.InStep aggressorId)
    (live : ¬ progress.aggressor.status.inactive) :
    LiveFrom progress.state.orders next.state.orders := by
  intro id order found active
  by_cases current : id = aggressorId
  · subst current
    obtain rfl := Option.some.inj ((fills.inStep filed got).symm.trans found)
    refine ⟨progress.aggressor, got, live, ?_⟩
    rw [fills.aggressor]
    exact ⟨rfl, rfl⟩
  · by_cases matched : id = restingId
    · subst matched
      obtain rfl := Option.some.inj ((fills.get_resting filed).symm.trans found)
      exact ⟨resting, fills.counterpart.stored, fills.counterpart.live, rfl, rfl⟩
    · rw [fills.get_other filed got current matched] at found
      exact ⟨order, found, active, rfl, rfl⟩

theorem fillStatus_inactive {remaining : Int} :
    (fillStatus remaining).inactive ↔ remaining = 0 := by
  unfold fillStatus OrderStatus.inactive
  split_ifs with none <;> simp [none]

variable {final : Progress Address}

/-- A match only takes from the live orders, and it leaves no scanned counterpart to
an aggressor that is still live. -/
theorem matchLoop_spec {aggressor : Order Address} {state : State Address}
    (conserved : Conserved state) (got : state.orders.get aggressorId = some aggressor)
    (live : ¬ aggressor.status.inactive)
    (looped : matchLoop sequence aggressorId aggressor state = some (.ok final)) :
    LiveFrom state.orders final.state.orders ∧ final.InStep aggressorId ∧
      final.state.orderCount = state.orderCount ∧
      (¬ final.aggressor.status.inactive → ∀ id, 1 ≤ id → id ≤ min state.orderCount maxScanned →
        ∀ resting, ¬ Counterpart final.state.orders aggressorId final.aggressor id resting) := by
  have pos := (conserved.orders aggressorId aggressor got).remaining_pos live
  have inStep : Progress.InStep { state, aggressor, trades := [] } aggressorId := got
  have kept := WhileLoop.run_invariant (fun progress : Progress Address =>
    Conserved progress.state ∧ progress.InStep aggressorId ∧
      LiveFrom state.orders progress.state.orders ∧
      progress.state.orderCount = state.orderCount ∧
      (progress.aggressor.status.inactive ↔ progress.aggressor.remaining = 0)) ?_
      ⟨conserved, inStep, .refl _, rfl, iff_of_false live pos.ne'⟩ looped
  · obtain ⟨⟨finalConserved, finalStep, finalLive, finalCount, status⟩, exits⟩ := kept
    refine ⟨finalLive, finalStep, finalCount, fun active => ?_⟩
    rcases matchRound_exits exits with finished | unmatched
    · have remains := (finalConserved.orders aggressorId final.aggressor finalStep).remains
      exact absurd (status.mpr (finished.antisymm remains)) active
    · exact unmatched
  · rintro progress _ ⟨conserved, inStep, earlier, counted, status⟩ ran
    obtain ⟨_, _, _, fills⟩ := matchRound_fills ran
    have active : ¬ progress.aggressor.status.inactive := fun inactive =>
      fills.unfinished.ne' (status.mp inactive)
    refine ⟨fills.conserved conserved inStep, fills.inStep conserved.filed inStep,
      earlier.trans (fills.liveFrom conserved.filed inStep active),
      fills.orderCount.trans counted, ?_⟩
    rw [fills.aggressor]
    exact fillStatus_inactive

section Calls

variable {state next : State Address}

theorem CrossedBeyond.of_live {later : FiniteMap Nat (Order Address)}
    (beyond : CrossedBeyond state.orders) (live : LiveFrom state.orders later) :
    CrossedBeyond later :=
  fun buyId sellId crossed => beyond buyId sellId (crossed.earlier live)

variable {id : Nat}

theorem tryMatch_liveFrom {trades : List Trade} (kept : Conserved state)
    (ran : tryMatch sequence id state = .ok (trades, next)) :
    LiveFrom state.orders next.orders := by
  obtain ⟨_, got, outcome⟩ := tryMatch_eq_ok ran
  rcases outcome with ⟨-, rfl⟩ | ⟨live, _, looped, rfl⟩
  · exact .refl _
  · exact (matchLoop_spec kept got live looped).1

theorem Crossed.counterpart {orders : FiniteMap Nat (Order Address)} {buyId sellId : Nat}
    (crossed : Crossed orders buyId sellId) :
    ∃ buy sell, orders.get buyId = some buy ∧ orders.get sellId = some sell ∧
      ¬ buy.status.inactive ∧ ¬ sell.status.inactive ∧
      Counterpart orders buyId buy sellId sell ∧ Counterpart orders sellId sell buyId buy := by
  obtain ⟨buy, sell, bought, sold, buySide, sellSide, buyLive, sellLive, meets⟩ := crossed
  have ne : buyId ≠ sellId := by
    rintro rfl
    cases bought.symm.trans sold
    cases buySide.symm.trans sellSide
  have opposite : buy.side ≠ sell.side := by
    rw [buySide, sellSide]
    nofun
  refine ⟨buy, sell, bought, sold, buyLive, sellLive, ⟨ne.symm, sold, sellLive,
    opposite.symm, ?_⟩, ⟨ne, bought, buyLive, opposite, ?_⟩⟩
  · unfold priceMatches
    rw [buySide]
    exact decide_eq_true meets
  · unfold priceMatches
    rw [sellSide]
    exact decide_eq_true meets

/-- Orders that cross after one of them has been matched lie beyond the scan, if the
matched one is the last. -/
theorem crossedBeyond_of_matched {order : Order Address} (beyond : CrossedBeyond state.orders)
    (placed : Conserved ((state.withCount (state.orderCount + 1)).setOrder order))
    (numbered : order.id = state.orderCount + 1) (live : ¬ order.status.inactive)
    (looped : matchLoop sequence (state.orderCount + 1) order
      ((state.withCount (state.orderCount + 1)).setOrder order) = some (.ok final)) :
    CrossedBeyond final.state.orders := by
  have got : ((state.withCount (state.orderCount + 1)).setOrder order).orders.get
      (state.orderCount + 1) = some order := by
    unfold State.setOrder
    rw [numbered]
    exact get_set_self _ _ _
  obtain ⟨kept, inStep, counted, unmatched⟩ := matchLoop_spec placed got live looped
  have finalConserved := matchLoop_conserved placed got looped
  have last : final.state.orderCount = state.orderCount + 1 := counted
  have unscanned : ¬ final.aggressor.status.inactive → ∀ id resting,
      Counterpart final.state.orders (state.orderCount + 1) final.aggressor id resting →
      maxScanned < id ∧ maxScanned < state.orderCount + 1 := by
    intro active id resting fit
    obtain ⟨first, known⟩ := finalConserved.counted id resting fit.stored
    have beyondScan : maxScanned < id := by
      by_contra scanned
      have visited : id ≤ min (state.orderCount + 1) maxScanned :=
        le_min (last ▸ known) (not_lt.mp scanned)
      exact unmatched active id first visited resting fit
    omega
  intro buyId sellId crossed
  obtain ⟨buy, sell, bought, sold, buyLive, sellLive, sellFits, buyFits⟩ := crossed.counterpart
  by_cases buyNew : buyId = state.orderCount + 1
  · subst buyNew
    cases inStep.symm.trans bought
    exact (unscanned buyLive sellId sell sellFits).symm
  · by_cases sellNew : sellId = state.orderCount + 1
    · subst sellNew
      cases inStep.symm.trans sold
      exact unscanned sellLive buyId buy buyFits
    · -- neither order is the new one, so both were in the book before
      have other : ∀ id, id ≠ state.orderCount + 1 →
          ((state.withCount (state.orderCount + 1)).setOrder order).orders.get id =
            state.orders.get id := by
        intro id ne
        unfold State.setOrder
        rw [numbered]
        exact get_set_of_ne _ _ ne
      apply beyond buyId sellId
      unfold Crossed
      rw [← other buyId buyNew, ← other sellId sellNew]
      exact crossed.earlier kept

variable [DecidableEq Address] {env : LedgerEnv Address contract} {owner : Address}

theorem placeOrder_crossedBeyond {side : Side} {price quantity : Int} (kept : Conserved state)
    (beyond : CrossedBeyond state.orders)
    (ran : placeOrder env owner side price quantity state = .ok (id, next)) :
    CrossedBeyond next.orders := by
  obtain ⟨live, sized, _, matched⟩ := placeOrder_eq_ok ran
  have placed : Conserved ((state.withCount (state.orderCount + 1)).setOrder
      (newOrder env owner side price quantity (state.orderCount + 1))) :=
    kept.place (newOrder env owner side price quantity _) live rfl sized rfl rfl
  obtain ⟨_, got, outcome⟩ := tryMatch_eq_ok matched
  obtain rfl := Option.some.inj ((get_set_self _ _ _).symm.trans got)
  have active : ¬ (newOrder env owner side price quantity
      (state.orderCount + 1)).status.inactive := by
    nofun
  rcases outcome with ⟨inactive, -⟩ | ⟨-, _, looped, rfl⟩
  · exact absurd inactive active
  · exact crossedBeyond_of_matched beyond placed rfl active looped

theorem cancelOrder_liveFrom (ran : cancelOrder env owner id state = .ok next) :
    LiveFrom state.orders next.orders := by
  simp only [cancelOrder, call_ok] at ran
  obtain ⟨-, order, _, -, -, rfl⟩ := ran
  have kept : ∀ other existing, state.orders.get other = some existing →
      ¬ existing.status.inactive → ∃ order, state.orders.get other = some order ∧
        ¬ order.status.inactive ∧ existing.side = order.side ∧ existing.price = order.price :=
    fun other existing found live => ⟨existing, found, live, rfl, rfl⟩
  have dead : ¬ ¬ (OrderStatus.cancelled).inactive := not_not.mpr (.inr rfl)
  exact forall_set kept fun live => absurd live dead

theorem dispatch_crossedBeyond {call : LedgerEnv Address contract × Operation Address}
    (kept : Conserved state) (beyond : CrossedBeyond state.orders)
    (ran : dispatch state call = .ok next) : CrossedBeyond next.orders := by
  obtain ⟨_, op⟩ := call
  cases op with
  | placeOrder =>
    obtain ⟨⟨_, _⟩, placed, rfl⟩ := map_eq_ok.mp ran
    exact placeOrder_crossedBeyond kept beyond placed
  | cancelOrder =>
    exact beyond.of_live (cancelOrder_liveFrom ran)
  | matchOrder =>
    obtain ⟨⟨_, _⟩, matched, rfl⟩ := map_eq_ok.mp ran
    obtain ⟨_, -, matched⟩ := bind_eq_ok.mp matched
    exact beyond.of_live (tryMatch_liveFrom kept matched)
  | _ =>
    have same : next.orders = state.orders := by
      apply Outcome.Yields.of_ok ran
      simp only [dispatch, initializeBook, pause, unpause, setAdmin, yields_bind, yields_pure,
        yields_true]
    rwa [same]

/-- In every state of every run a live buy order meets the price of a live sell order
only when both were placed after the first `maxScanned` orders. -/
theorem crossed_only_beyond_scan
    (calls : List (LedgerEnv Address contract × Operation Address)) :
    (machine contract).Always (fun state => CrossedBeyond state.orders) {} calls := by
  have keeps : ∀ (state : State Address) call next,
      Conserved state ∧ CrossedBeyond state.orders →
      (machine contract).exec state call = .ok next →
      Conserved next ∧ CrossedBeyond next.orders :=
    fun _ _ _ ⟨conserved, beyond⟩ ran =>
      ⟨dispatch_conserved conserved ran, dispatch_crossedBeyond conserved beyond ran⟩
  have initial : CrossedBeyond ({} : State Address).orders := by
    rintro buyId _ ⟨_, _, bought, -⟩
    cases (get_empty buyId).symm.trans bought
  exact (always_invariant keeps ⟨conserved_empty, initial⟩ calls).mono
    fun _ sound => sound.2

end Calls

variable [DecidableEq Address] {state : State Address} {env : LedgerEnv Address contract}
  {owner : Address} {side : Side} {price quantity : Int}

theorem apply_placeOrder_of_unmatched (started : state.admin.isSome = true)
    (running : state.paused = false) (priced : 0 < price) (sized : 0 < quantity)
    (signed : owner ∈ env.auths) (room : state.orderCount + 1 ≤ u64Max)
    (unmatched : ∀ id, 1 ≤ id → id ≤ min (state.orderCount + 1) maxScanned → ∀ resting,
      ¬ Counterpart ((state.withCount (state.orderCount + 1)).setOrder
        (newOrder env owner side price quantity (state.orderCount + 1))).orders
        (state.orderCount + 1) (newOrder env owner side price quantity (state.orderCount + 1))
        id resting) :
    (machine contract).apply state (env, .placeOrder owner side price quantity) =
      (state.withCount (state.orderCount + 1)).setOrder
        (newOrder env owner side price quantity (state.orderCount + 1)) := by
  have active : ¬ (newOrder env owner side price quantity
      (state.orderCount + 1)).status.inactive := by
    nofun
  have joined : tryMatch env.sequence (state.orderCount + 1)
      ((state.withCount (state.orderCount + 1)).setOrder
        (newOrder env owner side price quantity (state.orderCount + 1))) = .ok ([], _) :=
    tryMatch_of_unmatched (get_set_self _ _ _) active unmatched
  apply apply_of_ok
  refine map_eq_ok.mpr ⟨(state.orderCount + 1, _), ?_, rfl⟩
  simp only [placeOrder, assertNotPaused, call_ok, arith_ok, Prod.exists]
  exact ⟨⟨started, running⟩, priced, sized, signed, room, [], _, joined, trivial, rfl⟩

/-- Owner 2 and the admin 1 authorize. -/
def signedEnv : LedgerEnv Nat 0 where
  timestamp := 0
  auths := [1, 2]
  contract_silent := zero_notMem_two_signers
  sequence := 0

/-- A call of owner 2 that places an order over one unit. -/
def placing (side : Side) (price : Int) : LedgerEnv Nat 0 × Operation Nat :=
  (signedEnv, .placeOrder 2 side price 1)

/-- The book after a number of buy orders at the price 1. -/
def bidBook : Nat → State Nat
  | 0 => { admin := some 1 }
  | count + 1 =>
      ((bidBook count).withCount (count + 1)).setOrder (newOrder signedEnv 2 .buy 1 1 (count + 1))

theorem bidBook_frame (count : Nat) : (bidBook count).admin.isSome = true ∧
    (bidBook count).paused = false ∧ (bidBook count).orderCount = count := by
  induction count with
  | zero => exact ⟨rfl, rfl, rfl⟩
  | succ _ ih => exact ⟨ih.1, ih.2.1, rfl⟩

theorem bidBook_orders (count id : Nat) (order : Order Nat)
    (got : (bidBook count).orders.get id = some order) : order.side = .buy ∧ order.price = 1 := by
  induction count generalizing id order with
  | zero => cases (get_empty id).symm.trans got
  | succ count ih =>
    have wrote : (newOrder signedEnv 2 .buy 1 1 (count + 1)).side = .buy ∧
        (newOrder signedEnv 2 .buy 1 1 (count + 1)).price = 1 := ⟨rfl, rfl⟩
    exact forall_set ih wrote id order got

variable {count : Nat}

theorem run_bids (few : count ≤ maxScanned) :
    (machine 0).run { admin := some 1 } (List.replicate count (placing .buy 1)) =
      bidBook count := by
  induction count with
  | zero => rfl
  | succ count ih =>
    obtain ⟨started, running, counted⟩ := bidBook_frame count
    have room : (bidBook count).orderCount + 1 ≤ u64Max := by
      rw [counted]
      exact few.trans (by decide)
    rw [List.replicate_succ', run_append, ih (by omega), run_cons, run_nil]
    refine (apply_placeOrder_of_unmatched started running one_pos one_pos (by decide) room
      fun id _ _ resting fit => ?_).trans (by rw [counted]; rfl)
    obtain ⟨ne, got, -, opposite, -⟩ := fit
    have earlier : (bidBook count).orders.get id = some resting :=
      (get_set_of_ne _ _ ne).symm.trans got
    exact opposite (bidBook_orders count id resting earlier).1

/-- A sell order at 5 joins the buy orders at 1. -/
def offeredBook (count : Nat) : State Nat :=
  ((bidBook count).withCount (count + 1)).setOrder (newOrder signedEnv 2 .sell 5 1 (count + 1))

theorem apply_sell (room : count + 1 ≤ u64Max) :
    (machine 0).apply (bidBook count) (placing .sell 5) = offeredBook count := by
  obtain ⟨started, running, counted⟩ := bidBook_frame count
  refine (apply_placeOrder_of_unmatched started running (by decide) one_pos (by decide)
    (by rwa [counted]) fun id _ _ resting fit => ?_).trans (by rw [counted]; rfl)
  obtain ⟨ne, got, -, -, priced⟩ := fit
  have earlier : (bidBook count).orders.get id = some resting :=
    (get_set_of_ne _ _ ne).symm.trans got
  have cheap : (5 : Int) ≤ resting.price := of_decide_eq_true priced
  rw [(bidBook_orders count id resting earlier).2] at cheap
  exact absurd cheap (by decide)

theorem apply_buy (full : maxScanned ≤ count) (room : count + 2 ≤ u64Max) :
    (machine 0).apply (offeredBook count) (placing .buy 5) =
      ((offeredBook count).withCount (count + 2)).setOrder
        (newOrder signedEnv 2 .buy 5 1 (count + 2)) := by
  obtain ⟨started, running, -⟩ := bidBook_frame count
  refine apply_placeOrder_of_unmatched started running (by decide) one_pos (by decide) room
    fun id _ visited resting fit => ?_
  obtain ⟨ne, got, -, opposite, -⟩ := fit
  have old : id ≠ count + 1 := by omega
  have offered : (offeredBook count).orders.get id = some resting :=
    (get_set_of_ne _ _ ne).symm.trans got
  have earlier : (bidBook count).orders.get id = some resting :=
    (get_set_of_ne _ _ old).symm.trans offered
  exact opposite (bidBook_orders count id resting earlier).1

theorem crossed_offered (count : Nat) :
    Crossed (((offeredBook count).withCount (count + 2)).setOrder
      (newOrder signedEnv 2 .buy 5 1 (count + 2))).orders (count + 2) (count + 1) := by
  refine ⟨newOrder signedEnv 2 .buy 5 1 (count + 2), newOrder signedEnv 2 .sell 5 1 (count + 1),
    get_set_self _ _ _, ?_, rfl, rfl, ?_, ?_, le_rfl⟩
  · apply (get_set_of_ne _ _ (Nat.lt_succ_self _).ne).trans
    exact get_set_self _ _ _
  · nofun
  · nofun

/-- The calls that start the book and fill the scan with buy orders, a sell order at 5
and a buy order at 5. -/
def crossingCalls : List (LedgerEnv Nat 0 × Operation Nat) :=
  (signedEnv, .initializeBook 1) ::
    (List.replicate maxScanned (placing .buy 1) ++ [placing .sell 5, placing .buy 5])

/-- The last two of 202 orders cross: neither is scanned. -/
theorem orders_cross_beyond_scan : Crossed ((machine 0).run {} crossingCalls).orders 202 201 := by
  have started : (machine 0).apply {} (signedEnv, .initializeBook 1) = { admin := some 1 } := rfl
  have final : (machine 0).run {} crossingCalls =
      ((offeredBook maxScanned).withCount (maxScanned + 2)).setOrder
        (newOrder signedEnv 2 .buy 5 1 (maxScanned + 2)) := by
    unfold crossingCalls
    rw [run_cons, started, run_append, run_bids le_rfl,
      run_cons, run_cons, run_nil, apply_sell (by decide),
      apply_buy le_rfl (by decide)]
  rw [final]
  exact crossed_offered maxScanned

end SorobanPlayground.LimitOrderBook
