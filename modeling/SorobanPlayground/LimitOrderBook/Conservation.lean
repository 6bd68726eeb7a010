import SorobanPlayground.LimitOrderBook.Matching

/-! # Orders, trades and volume

What is missing of an order has been traded, trades pair a buy order with a sell order
within both limits, and the volume is what both sides have filled.
-/

namespace SorobanPlayground.LimitOrderBook

variable {Address : Type} {contract : Address}

/-- The quantities of the trades that an order took part in. -/
def tradedBy (id : Nat) (trades : List Trade) : Int :=
  (trades.map fun trade =>
    if trade.buyOrderId = id ∨ trade.sellOrderId = id then trade.quantity else 0).sum

def Order.filledQuantity (order : Order Address) : Int := order.quantity - order.remaining

def State.filledOf (state : State Address) (side : Side) : Int :=
  state.orders.total fun _ order => if order.side = side then order.filledQuantity else 0

/-- An order whose missing quantity has been traded, with the status that it has come
to. -/
structure Order.Accounted (order : Order Address) (trades : List Trade) : Prop where
  sized : 0 < order.quantity
  remains : 0 ≤ order.remaining
  within : order.remaining ≤ order.quantity
  traded : order.filledQuantity = tradedBy order.id trades
  filled : order.status ≠ .cancelled → (order.status = .filled ↔ order.remaining = 0)
  opened : order.status ≠ .cancelled → (order.status = .opened ↔ order.remaining = order.quantity)

/-- A trade of a buy order with a sell order within the limits of both. -/
structure Trade.Paired (trade : Trade) (orders : FiniteMap Nat (Order Address)) : Prop where
  positive : 0 < trade.quantity
  orders : ∃ buy sell, orders.get trade.buyOrderId = some buy ∧
    orders.get trade.sellOrderId = some sell ∧ buy.side = .buy ∧ sell.side = .sell ∧
    sell.price ≤ trade.price ∧ trade.price ≤ buy.price

structure Conserved (state : State Address) : Prop where
  started : state.admin = none → state.orderCount = 0
  filed : Filed state.orders
  counted : ∀ id order, state.orders.get id = some order → 1 ≤ id ∧ id ≤ state.orderCount
  orders : ∀ id order, state.orders.get id = some order → order.Accounted state.published
  trades : ∀ trade ∈ state.published, trade.Paired state.orders
  volume : state.totalVolume = (state.published.map Trade.quantity).sum
  sides : ∀ side, state.filledOf side = state.totalVolume

variable {orders later : FiniteMap Nat (Order Address)} {trades : List Trade} {trade : Trade}
  {order : Order Address}

theorem tradedBy_append (id : Nat) (trades : List Trade) (trade : Trade) :
    tradedBy id (trades ++ [trade]) = tradedBy id trades +
      if trade.buyOrderId = id ∨ trade.sellOrderId = id then trade.quantity else 0 := by
  simp [tradedBy]

theorem Order.Accounted.remaining_pos (accounted : order.Accounted trades)
    (live : ¬ order.status.inactive) : 0 < order.remaining := by
  have unfilled : order.status ≠ .filled := fun filled => live (.inl filled)
  have uncancelled : order.status ≠ .cancelled := fun cancelled => live (.inr cancelled)
  have left : order.remaining ≠ 0 := fun none => unfilled ((accounted.filled uncancelled).mpr none)
  exact accounted.remains.lt_of_ne left.symm

theorem Order.Accounted.append (accounted : order.Accounted trades)
    (buyer : trade.buyOrderId ≠ order.id) (seller : trade.sellOrderId ≠ order.id) :
    order.Accounted (trades ++ [trade]) where
  sized := accounted.sized
  remains := accounted.remains
  within := accounted.within
  filled := accounted.filled
  opened := accounted.opened
  traded := by
    rw [tradedBy_append, if_neg (not_or.mpr ⟨buyer, seller⟩), add_zero]
    exact accounted.traded

theorem Order.Accounted.fill {quantity : Int} (accounted : order.Accounted trades)
    (party : trade.buyOrderId = order.id ∨ trade.sellOrderId = order.id)
    (amount : trade.quantity = quantity) (pos : 0 < quantity) (least : quantity ≤ order.remaining) :
    (order.filledTo (order.remaining - quantity)).Accounted (trades ++ [trade]) := by
  have within := accounted.within
  have traded := accounted.traded
  refine ⟨accounted.sized, sub_nonneg.mpr least, ?_, ?_, fun _ => ?_, fun _ => ?_⟩
  · exact (sub_le_self _ pos.le).trans within
  · rw [tradedBy_append]
    unfold Order.filledQuantity Order.filledTo at *
    dsimp only
    omega
  · unfold Order.filledTo fillStatus
    split_ifs with none
    · exact iff_of_true rfl none
    · exact iff_of_false nofun none
  · unfold Order.filledTo fillStatus
    have short : ¬ order.remaining - quantity = order.quantity := by omega
    split_ifs
    · exact iff_of_false nofun short
    · exact iff_of_false nofun short

/-- Orders stay, with their sides and prices. -/
def KeepsTerms (orders later : FiniteMap Nat (Order Address)) : Prop :=
  ∀ id order, orders.get id = some order →
    ∃ next, later.get id = some next ∧ next.side = order.side ∧ next.price = order.price

variable {id : Nat}

theorem keepsTerms_set {wrote : Order Address} (same : ∀ order, orders.get id = some order →
      wrote.side = order.side ∧ wrote.price = order.price) :
    KeepsTerms orders (orders.set id wrote) := by
  intro other order got
  rw [get_set]
  by_cases current : other = id
  · subst current
    rw [if_pos rfl]
    exact ⟨wrote, rfl, same order got⟩
  · rw [if_neg current]
    exact ⟨order, got, rfl, rfl⟩

theorem Trade.Paired.keeps (paired : trade.Paired orders) (kept : KeepsTerms orders later) :
    trade.Paired later := by
  obtain ⟨pos, buy, sell, bought, sold, buySide, sellSide, low, high⟩ := paired
  obtain ⟨nextBuy, foundBuy, side, price⟩ := kept _ buy bought
  obtain ⟨nextSell, foundSell, otherSide, otherPrice⟩ := kept _ sell sold
  exact ⟨pos, nextBuy, nextSell, foundBuy, foundSell, side.trans buySide,
    otherSide.trans sellSide, otherPrice.trans_le low, high.trans price.ge⟩

variable {sequence scanLimit aggressorId restingId : Nat} {progress next : Progress Address}
  {resting : Order Address} {quantity : Int}

/-- The aggressor in memory is the stored one. -/
def Progress.InStep (progress : Progress Address) (aggressorId : Nat) : Prop :=
  progress.state.orders.get aggressorId = some progress.aggressor

section

variable (fills : Fills sequence scanLimit aggressorId progress restingId resting quantity next)

include fills

variable (filed : Filed progress.state.orders)
include filed

theorem Fills.get_resting :
    next.state.orders.get restingId = some (resting.filledTo (resting.remaining - quantity)) := by
  have named : resting.id = restingId := filed restingId resting fills.counterpart.stored
  rw [fills.orders, named, get_set_self]

variable (got : progress.InStep aggressorId)
include got

theorem Fills.inStep : next.InStep aggressorId := by
  have named : resting.id = restingId := filed restingId resting fills.counterpart.stored
  have own : progress.aggressor.id = aggressorId := filed aggressorId progress.aggressor got
  have ne : aggressorId ≠ resting.id := by
    rw [named]
    exact fills.counterpart.different.symm
  unfold Progress.InStep
  rw [fills.orders, get_set_of_ne _ _ ne, own, get_set_self]

theorem Fills.get_other (passive : id ≠ aggressorId) (apart : id ≠ restingId) :
    next.state.orders.get id = progress.state.orders.get id := by
  rw [fills.orders, filed restingId resting fills.counterpart.stored, filed aggressorId
    progress.aggressor got, get_set_of_ne _ _ apart, get_set_of_ne _ _
    passive]

theorem Fills.keepsTerms : KeepsTerms progress.state.orders next.state.orders := by
  intro id order found
  by_cases active : id = aggressorId
  · subst active
    cases got.symm.trans found
    refine ⟨next.aggressor, fills.inStep filed got, ?_⟩
    rw [fills.aggressor]
    exact ⟨rfl, rfl⟩
  · by_cases matched : id = restingId
    · subst matched
      obtain rfl := Option.mem_unique fills.counterpart.stored found
      exact ⟨_, fills.get_resting filed, rfl, rfl⟩
    · exact ⟨order, (fills.get_other filed got active matched).trans found, rfl, rfl⟩

end

theorem tradeOf_party (side : Side) (price amount : Int) (id : Nat) :
    ((tradeOf side aggressorId restingId price amount sequence).buyOrderId = id ∨
      (tradeOf side aggressorId restingId price amount sequence).sellOrderId = id) ↔
        aggressorId = id ∨ restingId = id := by
  cases side with
  | buy => exact Iff.rfl
  | sell => exact or_comm

theorem tradeOf_quantity (side : Side) (price amount : Int) :
    (tradeOf side aggressorId restingId price amount sequence).quantity = amount := by
  cases side <;> rfl

section

variable (fills : Fills sequence scanLimit aggressorId progress restingId resting quantity next)
include fills

theorem Fills.paired (got : progress.InStep aggressorId) (pos : 0 < quantity) :
    (tradeOf progress.aggressor.side aggressorId restingId resting.price quantity
      sequence).Paired progress.state.orders := by
  refine ⟨by rwa [tradeOf_quantity], ?_⟩
  have priced := fills.counterpart.priced
  have opposite := fills.counterpart.opposite
  unfold priceMatches at priced
  cases side : progress.aggressor.side with
  | buy =>
    rw [side] at priced opposite
    have sells : resting.side = .sell := by
      cases other : resting.side with
      | buy => exact absurd other opposite
      | sell => rfl
    exact ⟨progress.aggressor, resting, got, fills.counterpart.stored, side, sells, le_rfl,
      of_decide_eq_true priced⟩
  | sell =>
    rw [side] at priced opposite
    have buys : resting.side = .buy := by
      cases other : resting.side with
      | buy => rfl
      | sell => exact absurd other opposite
    exact ⟨resting, progress.aggressor, fills.counterpart.stored, got, buys, side,
      of_decide_eq_true priced, le_rfl⟩

theorem Fills.filledOf (filed : Filed progress.state.orders) (got : progress.InStep aggressorId)
    (side : Side) : next.state.filledOf side = progress.state.filledOf side + quantity := by
  have named : resting.id = restingId := filed restingId resting fills.counterpart.stored
  have own : progress.aggressor.id = aggressorId := filed aggressorId progress.aggressor got
  have opposite := fills.counterpart.opposite
  unfold State.filledOf
  rw [fills.orders, named, own, total_set, total_set, get_set_of_ne _
    _ fills.counterpart.different, fills.counterpart.stored, got, fills.aggressor,
    weightAt_some, weightAt_some]
  unfold Order.filledTo Order.filledQuantity
  cases asked : progress.aggressor.side <;> cases offered : resting.side <;> cases side <;>
    simp_all <;> omega

theorem Fills.conserved (conserved : Conserved progress.state) (got : progress.InStep aggressorId) :
    Conserved next.state := by
  have filed := conserved.filed
  have counterpart := fills.counterpart
  have named : resting.id = restingId := filed restingId resting counterpart.stored
  have own : progress.aggressor.id = aggressorId := filed aggressorId progress.aggressor got
  have active := conserved.orders aggressorId progress.aggressor got
  have passive := conserved.orders restingId resting counterpart.stored
  have available := passive.remaining_pos counterpart.live
  have unfinished := fills.unfinished
  have least := fills.least
  have pos : 0 < quantity := by omega
  have kept := fills.keepsTerms filed got
  refine ⟨?_, fills.filed filed, fun id order found => ?_, fun id order found => ?_,
    fun trade mem => ?_, ?_, fun side => ?_⟩
  · rw [fills.admin, fills.orderCount]
    exact conserved.started
  · rw [fills.orderCount]
    by_cases current : id = aggressorId
    · exact current ▸ conserved.counted aggressorId progress.aggressor got
    · by_cases matched : id = restingId
      · exact matched ▸ conserved.counted restingId resting counterpart.stored
      · rw [fills.get_other filed got current matched] at found
        exact conserved.counted id order found
  · rw [fills.published]
    by_cases current : id = aggressorId
    · subst current
      obtain rfl := Option.some.inj ((fills.inStep filed got).symm.trans found)
      rw [fills.aggressor]
      refine active.fill ?_ (tradeOf_quantity _ _ _) pos (by omega)
      exact (tradeOf_party _ _ _ _).mpr (.inl own.symm)
    · by_cases matched : id = restingId
      · subst matched
        obtain rfl := Option.some.inj ((fills.get_resting filed).symm.trans found)
        refine passive.fill ?_ (tradeOf_quantity _ _ _) pos (by omega)
        exact (tradeOf_party _ _ _ _).mpr (.inr named.symm)
      · rw [fills.get_other filed got current matched] at found
        have bystander : ¬ (aggressorId = order.id ∨ restingId = order.id) := by
          rw [filed id order found]
          exact not_or.mpr ⟨Ne.symm current, Ne.symm matched⟩
        rw [← tradeOf_party progress.aggressor.side resting.price quantity] at bystander
        obtain ⟨buyer, seller⟩ := not_or.mp bystander
        exact (conserved.orders id order found).append buyer seller
  · rw [fills.published] at mem
    rcases List.mem_append.mp mem with earlier | last
    · exact (conserved.trades trade earlier).keeps kept
    · obtain rfl := List.mem_singleton.mp last
      exact (fills.paired got pos).keeps kept
  · rw [fills.totalVolume, fills.published, conserved.volume, List.map_append, List.sum_append]
    simp [tradeOf_quantity]
  · rw [fills.totalVolume, fills.filledOf filed got, conserved.sides]

end

theorem matchLoop_conserved {aggressor : Order Address} {state : State Address}
    {final : Progress Address} (conserved : Conserved state)
    (got : state.orders.get aggressorId = some aggressor)
    (looped : matchLoop sequence aggressorId aggressor state = some (.ok final)) :
    Conserved final.state := by
  have inStep : Progress.InStep { state, aggressor, trades := [] } aggressorId := got
  refine (WhileLoop.run_invariant (fun progress : Progress Address =>
    Conserved progress.state ∧ progress.InStep aggressorId) ?_ ⟨conserved, inStep⟩ looped).1.1
  rintro _ _ ⟨kept, inStep⟩ ran
  obtain ⟨_, _, _, fills⟩ := matchRound_fills ran
  exact ⟨fills.conserved kept inStep, fills.inStep kept.filed inStep⟩

theorem tryMatch_conserved {state later : State Address} {trades : List Trade}
    (conserved : Conserved state)
    (ran : tryMatch sequence aggressorId state = .ok (trades, later)) : Conserved later := by
  obtain ⟨_, got, outcome⟩ := tryMatch_eq_ok ran
  rcases outcome with ⟨-, rfl⟩ | ⟨-, _, looped, rfl⟩
  · exact conserved
  · exact matchLoop_conserved conserved got looped

variable {state next : State Address}

section

variable (conserved : Conserved state)
include conserved

theorem Conserved.tradedBy_fresh
    (fresh : state.orderCount < id) : tradedBy id state.published = 0 := by
  apply List.sum_eq_zero
  intro amount mem
  obtain ⟨trade, published, rfl⟩ := List.mem_map.mp mem
  obtain ⟨-, buy, sell, bought, sold, -⟩ := conserved.trades trade published
  have buyer := (conserved.counted _ buy bought).2
  have seller := (conserved.counted _ sell sold).2
  refine if_neg (not_or.mpr ⟨?_, ?_⟩)
  · omega
  · omega

theorem Conserved.place (order : Order Address) (live : state.admin.isSome = true)
    (numbered : order.id = state.orderCount + 1) (sized : 0 < order.quantity)
    (opened : order.status = .opened) (whole : order.remaining = order.quantity) :
    Conserved ((state.withCount order.id).setOrder order) := by
  have beyond : state.orderCount < order.id := by omega
  have fresh : state.orders.get order.id = none := by
    by_contra here
    obtain ⟨existing, got⟩ := Option.ne_none_iff_exists'.mp here
    exact absurd (conserved.counted _ existing got).2 (not_le.mpr beyond)
  have unfilled : order.filledQuantity = 0 := by
    unfold Order.filledQuantity
    rw [whole, sub_self]
  have accounted : order.Accounted state.published := by
    refine ⟨sized, whole ▸ sized.le, whole.le, ?_, fun _ => ?_, fun _ => ?_⟩
    · rw [unfilled, conserved.tradedBy_fresh beyond]
    · rw [opened, whole]
      exact iff_of_false nofun sized.ne'
    · exact iff_of_true opened whole
  refine ⟨fun missing => ?_, forall_set conserved.filed rfl, ?_,
    forall_set conserved.orders accounted, fun trade mem => ?_, conserved.volume,
    fun side => ?_⟩
  · have gone : state.admin = none := missing
    rw [gone] at live
    cases live
  · have counted : ∀ id existing, state.orders.get id = some existing →
        1 ≤ id ∧ id ≤ order.id := fun id existing got =>
      (conserved.counted id existing got).imp_right fun known => known.trans beyond.le
    have wrote : 1 ≤ order.id ∧ order.id ≤ order.id := ⟨by omega, le_rfl⟩
    exact forall_set counted wrote
  · refine (conserved.trades trade mem).keeps (keepsTerms_set fun existing got => ?_)
    cases fresh.symm.trans got
  · refine Eq.trans ?_ (conserved.sides side)
    unfold State.filledOf State.setOrder State.withCount
    rw [total_set, fresh, weightAt_none, unfilled, ite_self, sub_zero, add_zero]

theorem placeOrder_conserved {contract : Address} [DecidableEq Address]
    {env : LedgerEnv Address contract} {owner : Address} {side : Side} {price quantity : Int}
    (ran : placeOrder env owner side price quantity state = .ok (id, next)) : Conserved next := by
  obtain ⟨live, sized, _, matched⟩ := placeOrder_eq_ok ran
  have placed : Conserved ((state.withCount (state.orderCount + 1)).setOrder
      (newOrder env owner side price quantity (state.orderCount + 1))) :=
    conserved.place (newOrder env owner side price quantity _) live rfl sized rfl rfl
  exact tryMatch_conserved placed matched

theorem cancelOrder_conserved {contract : Address} [DecidableEq Address]
    {env : LedgerEnv Address contract} {owner : Address}
    (ran : cancelOrder env owner id state = .ok next) : Conserved next := by
  simp only [cancelOrder, call_ok] at ran
  obtain ⟨-, order, got, -, -, rfl⟩ := ran
  have named := conserved.filed id order got
  have before := conserved.orders id order got
  have accounted : Order.Accounted { order with status := .cancelled } state.published :=
    ⟨before.sized, before.remains, before.within, before.traded, fun live => absurd rfl live,
      fun live => absurd rfl live⟩
  have known : 1 ≤ order.id ∧ order.id ≤ state.orderCount :=
    named ▸ conserved.counted id order got
  refine ⟨conserved.started, forall_set conserved.filed rfl,
    forall_set conserved.counted known,
    forall_set conserved.orders accounted, fun trade mem => ?_, conserved.volume,
    fun side => ?_⟩
  · refine (conserved.trades trade mem).keeps (keepsTerms_set fun existing found => ?_)
    rw [named, got] at found
    cases found
    exact ⟨rfl, rfl⟩
  · refine Eq.trans ?_ (conserved.sides side)
    unfold State.filledOf State.setOrder
    rw [named, total_set_of_stored _ got]
    exact sub_add_cancel _ _

end

variable [DecidableEq Address] {contract : Address} {state next : State Address}

omit [DecidableEq Address] in
theorem Conserved.congr (conserved : Conserved state)
    (started : next.admin = none → state.admin = none) (orders : next.orders = state.orders)
    (orderCount : next.orderCount = state.orderCount) (published : next.published = state.published)
    (totalVolume : next.totalVolume = state.totalVolume) : Conserved next := by
  refine ⟨fun missing => ?_, ?_, ?_, ?_, ?_, ?_, fun side => ?_⟩
  · rw [orderCount]
    exact conserved.started (started missing)
  · rw [orders]
    exact conserved.filed
  · rw [orders, orderCount]
    exact conserved.counted
  · rw [orders, published]
    exact conserved.orders
  · rw [orders, published]
    exact conserved.trades
  · rw [totalVolume, published]
    exact conserved.volume
  · rw [totalVolume, ← conserved.sides side]
    unfold State.filledOf
    rw [orders]

theorem dispatch_conserved {call : LedgerEnv Address contract × Operation Address}
    (conserved : Conserved state) (ran : dispatch state call = .ok next) : Conserved next := by
  obtain ⟨_, op⟩ := call
  cases op with
  | initializeBook =>
    simp only [dispatch, initializeBook, call_ok] at ran
    obtain ⟨gone, -, rfl⟩ := ran
    rw [Option.isSome_eq_false_iff, Option.isNone_iff_eq_none] at gone
    exact conserved.congr (by simp) rfl (conserved.started gone).symm rfl rfl
  | pause =>
    simp only [dispatch, pause, call_ok] at ran
    obtain ⟨_, -, rfl⟩ := ran
    exact conserved.congr id rfl rfl rfl rfl
  | unpause =>
    simp only [dispatch, unpause, call_ok] at ran
    obtain ⟨_, -, rfl⟩ := ran
    exact conserved.congr id rfl rfl rfl rfl
  | setAdmin =>
    simp only [dispatch, setAdmin, call_ok] at ran
    obtain ⟨_, -, _, -, rfl⟩ := ran
    exact conserved.congr (by simp) rfl rfl rfl rfl
  | placeOrder =>
    obtain ⟨⟨_, _⟩, placed, rfl⟩ := map_eq_ok.mp ran
    exact placeOrder_conserved conserved placed
  | cancelOrder => exact cancelOrder_conserved conserved ran
  | matchOrder =>
    obtain ⟨⟨_, _⟩, matched, rfl⟩ := map_eq_ok.mp ran
    obtain ⟨_, -, matched⟩ := bind_eq_ok.mp matched
    exact tryMatch_conserved conserved matched

/-- What the book, its trades and its volume have to do with each other. -/
structure Balanced (state : State Address) : Prop where
  orders : ∀ id order, state.orders.get id = some order →
    0 ≤ order.remaining ∧ order.remaining ≤ order.quantity ∧
      order.quantity - order.remaining = tradedBy id state.published ∧
      (order.status ≠ .cancelled → (order.status = .filled ↔ order.remaining = 0) ∧
        (order.status = .opened ↔ order.remaining = order.quantity))
  trades : ∀ trade ∈ state.published, trade.Paired state.orders
  volume : state.totalVolume = (state.published.map Trade.quantity).sum
  sides : state.filledOf .buy = state.totalVolume ∧ state.filledOf .sell = state.totalVolume

/-- Every matching loop that a call can enter is left after finitely many rounds. -/
structure MatchesEnd (contract : Address) (state : State Address) : Prop where
  stored : ∀ sequence id aggressor, state.orders.get id = some aggressor →
    matchLoop sequence id aggressor state ≠ none
  placed : ∀ (env : LedgerEnv Address contract) owner side price quantity,
    let order := newOrder env owner side price quantity (state.orderCount + 1)
    matchLoop env.sequence order.id order ((state.withCount order.id).setOrder order) ≠ none

section

omit [DecidableEq Address]

theorem Conserved.balanced (conserved : Conserved state) : Balanced state where
  orders := by
    intro id order got
    have accounted := conserved.orders id order got
    refine ⟨accounted.remains, accounted.within, ?_, fun live => ⟨accounted.filled live,
      accounted.opened live⟩⟩
    rw [← conserved.filed id order got]
    exact accounted.traded
  trades := conserved.trades
  volume := conserved.volume
  sides := ⟨conserved.sides .buy, conserved.sides .sell⟩

theorem Conserved.matchesEnd (conserved : Conserved state) : MatchesEnd contract state where
  stored := by
    intro sequence id aggressor stored
    exact matchLoop_ne_none conserved.filed (conserved.filed id aggressor stored)
  placed := by
    intro env owner side price quantity
    exact matchLoop_ne_none (forall_set conserved.filed rfl) rfl

theorem conserved_empty : Conserved ({} : State Address) where
  started := fun _ => rfl
  filed := by simp [Filed]
  counted := by simp
  orders := by simp
  trades := by simp
  volume := rfl
  sides := fun _ => rfl

end

/-- In every state of every run the orders, the trades and the volume balance, and the
matching loop ends whatever call comes next. -/
theorem always_balanced (calls : List (LedgerEnv Address contract × Operation Address)) :
    (machine contract).Always (fun state => Balanced state ∧ MatchesEnd contract state) {}
      calls := by
  have keeps : ∀ (state : State Address) call next, Conserved state →
      (machine contract).exec state call = .ok next → Conserved next :=
    fun _ _ _ => dispatch_conserved
  apply (always_invariant keeps conserved_empty calls).mono
  intro state conserved
  exact ⟨conserved.balanced, conserved.matchesEnd⟩

end SorobanPlayground.LimitOrderBook
