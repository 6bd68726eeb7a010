import SorobanPlayground.Backend.OrderBook.Service
import SorobanPlayground.Library.SortedList
import SorobanPlayground.LimitOrderBook.PriceTime

/-! # The service agrees with the contract

The service sorts the resting orders once and sweeps them, the contract scans for the best order
after every fill. Times never run backwards in either, so both match by price and then by id.
-/

namespace SorobanPlayground.OrderBookService

open List

open LimitOrderBook (Side OrderStatus Progress LedgerEnv Counterpart Fills Filed Chronological
  findBest_of_unmatched findBest_eq_some findBest_before fill_fills fill_eq_error findBest
  matchRound matchLoop matchLoop_frame matchResult tryMatch newOrder assertNotPaused dispatch
  maxScanned)

/-- The price as the aggressor of a side ranks it, the best one lowest. -/
def Order.rank (side : Side) (order : Order) : Int :=
  match side with
  | .buy => order.price
  | .sell => -order.price

/-- Price priority, and the priority of the lower id at one price. -/
def Precedes (side : Side) (first second : Order) : Prop :=
  first.rank side < second.rank side ∨ first.rank side = second.rank side ∧ first.id < second.id

theorem compareResting_nonpos {side : Side} {first second : Order} :
    compareResting side first second ≤ 0 ↔ first.rank side < second.rank side ∨
      first.rank side = second.rank side ∧ first.createdAt ≤ second.createdAt := by
  cases side <;> simp only [compareResting, Order.rank] <;> split <;> omega

instance (side : Side) :
    Std.Total fun first second : Order => compareResting side first second ≤ 0 where
  total first second := by
    simp only [compareResting_nonpos]
    omega

instance (side : Side) :
    IsTrans Order fun first second => compareResting side first second ≤ 0 where
  trans first second third := by
    simp only [compareResting_nonpos]
    omega

variable {orders : OrderedMap Nat Order}

theorem mem_restingOrders {aggressorId : Nat} {aggressor order : Order} :
    order ∈ restingOrders orders aggressorId aggressor ↔ order ∈ orders.values ∧
      order.id ≠ aggressorId ∧ order.side ≠ aggressor.side ∧ order.active = true := by
  simp [restingOrders]

/-- Where the ids and the times of the orders grow together, the resting orders are sorted by
price and id. -/
theorem restingOrders_precedes {aggressorId : Nat}
    {aggressor : Order} (listed : orders.values.Pairwise fun first second => first.id < second.id)
    (timed : ∀ first ∈ orders.values, ∀ second ∈ orders.values, first.id ≤ second.id →
      first.createdAt ≤ second.createdAt) :
    (restingOrders orders aggressorId aggressor).Pairwise (Precedes aggressor.side) := by
  have sorted := pairwise_insertionSort_stable
    (r := fun first second => compareResting aggressor.side first second ≤ 0)
    (listed.sublist (filter_sublist (p := fun order => decide (order.id ≠ aggressorId ∧
      order.side ≠ aggressor.side ∧ order.active))))
  apply sorted.imp_of_mem
  intro first second firstMember secondMember ordered
  obtain ⟨le, tie⟩ := ordered
  have age := timed second (mem_restingOrders.mp secondMember).1 first
    (mem_restingOrders.mp firstMember).1
  rw [compareResting_nonpos] at le
  rw [compareResting_nonpos] at tie
  unfold Precedes
  omega

/-- The strings under which the service knows the owners. -/
structure OwnerNames (Address : Type) where
  name : Address → String
  distinct : Function.Injective name
  nonempty : ∀ address, name address ≠ ""

variable {Address : Type}

/-- An order of the contract as the service stores it. -/
def mirror (names : OwnerNames Address) (placedAt : Nat → Nat)
    (order : LimitOrderBook.Order Address) : Order where
  id := order.id
  owner := names.name order.owner
  side := order.side
  price := order.price
  quantity := order.quantity
  remaining := order.remaining
  status := order.status
  createdAt := placedAt order.id

/-- The buyer's order, the seller's order, the price and the quantity of a trade. -/
def Trade.summary (trade : Trade) : Nat × Nat × Int × Int :=
  (trade.buyOrderId, trade.sellOrderId, trade.price, trade.quantity)

def bookSummary (trade : LimitOrderBook.Trade) : Nat × Nat × Int × Int :=
  (trade.buyOrderId, trade.sellOrderId, trade.price, trade.quantity)

/-- The service stores the orders and the trades of the contract. -/
structure Mirrors (names : OwnerNames Address) (placedAt : Nat → Nat) (service : State)
    (book : LimitOrderBook.State Address) : Prop where
  orders : ∀ id, service.orders.get id = (book.orders.get id).map (mirror names placedAt)
  trades : service.tradeHistory.map Trade.summary = book.published.map bookSummary

/-- The contract files its orders under ids within the scan, at their ledger sequences. -/
structure Stamped (sequences : Nat → Nat) (scanLimit : Nat)
    (orders : FiniteMap Nat (LimitOrderBook.Order Address)) : Prop where
  filed : Filed orders
  stamped : ∀ id order, orders.get id = some order → order.createdAt = sequences id
  scanned : ∀ id order, orders.get id = some order → 1 ≤ id ∧ id ≤ scanLimit

variable {names : OwnerNames Address} {placedAt sequences : Nat → Nat}
  {aggressorId now sequence scanLimit : Nat} {order : Order}

theorem active_iff : order.active = true ↔ ¬ order.status.inactive := by
  unfold Order.active LimitOrderBook.OrderStatus.inactive
  cases order.status <;> simp

theorem fillStatus_inactive_iff {remaining : Int} :
    (LimitOrderBook.fillStatus remaining).inactive ↔ remaining = 0 := by
  unfold LimitOrderBook.fillStatus LimitOrderBook.OrderStatus.inactive
  split <;> simp [*]

theorem priceMatches_mirror (aggressor resting : LimitOrderBook.Order Address) :
    priceMatches (mirror names placedAt aggressor) (mirror names placedAt resting) =
      LimitOrderBook.priceMatches aggressor resting := rfl

theorem priceMatches_of_rank {aggressor first second : Order}
    (ranked : first.rank aggressor.side ≤ second.rank aggressor.side)
    (matching : priceMatches aggressor second = true) : priceMatches aggressor first = true := by
  unfold priceMatches at *
  unfold Order.rank at ranked
  cases side : aggressor.side with
  | buy =>
    simp only [side, decide_eq_true_eq] at *
    omega
  | sell =>
    simp only [side, decide_eq_true_eq] at *
    omega

theorem sweep_of_stop {aggressor rest : Order} {others : List Order} {state : State}
    (stopped : aggressor.remaining ≤ 0 ∨ priceMatches aggressor rest = false) :
    sweep aggressorId now (rest :: others) aggressor state = ([], state) := by
  unfold sweep
  by_cases left : aggressor.remaining ≤ 0
  · rw [if_pos left]
  · rw [if_neg left, if_pos (stopped.resolve_left left)]

theorem sweep_of_fill {aggressor rest : Order} {others : List Order} {state : State}
    (left : ¬ aggressor.remaining ≤ 0) (matching : ¬ priceMatches aggressor rest = false) :
    (sweep aggressorId now (rest :: others) aggressor state).2 =
      (sweep aggressorId now others
        (aggressor.fillBy (min aggressor.remaining rest.remaining))
        { state with
          orders := (state.orders.set aggressorId
            (aggressor.fillBy (min aggressor.remaining rest.remaining))).set rest.id
              (rest.fillBy (min aggressor.remaining rest.remaining))
          tradeHistory := state.tradeHistory ++ [tradeOf aggressor aggressorId rest
            (min aggressor.remaining rest.remaining) now] }).2 := by
  conv_lhs => unfold sweep
  rw [if_neg left, if_neg matching]

/-- A match in progress on both sides: what is left of the sorted list are the orders that the
contract may still find. -/
structure Sweeping (names : OwnerNames Address) (placedAt sequences : Nat → Nat)
    (scanLimit aggressorId : Nat) (rest : List Order) (state : State)
    (progress : Progress Address) : Prop where
  mirrors : Mirrors names placedAt state progress.state
  stamped : Stamped sequences scanLimit progress.state.orders
  own : progress.aggressor.id = aggressorId
  visited : 1 ≤ aggressorId ∧ aggressorId ≤ scanLimit
  aged : progress.aggressor.createdAt = sequences aggressorId
  sorted : rest.Pairwise (Precedes progress.aggressor.side)
  listed : 0 < progress.aggressor.remaining → ∀ order, order ∈ rest ↔
    state.orders.get order.id = some order ∧ order.id ≠ aggressorId ∧
      order.side ≠ progress.aggressor.side ∧ order.active = true

variable {id : Nat}

namespace Sweeping

variable {rest : List Order} {state : State} {progress : Progress Address}
  {resting : LimitOrderBook.Order Address} {tail : List Order}

section

variable (left : 0 < progress.aggressor.remaining)
include left

section

variable (sweeping : Sweeping names placedAt sequences scanLimit aggressorId rest state progress)
include sweeping

theorem mem_of_counterpart
    (fit : Counterpart progress.state.orders aggressorId progress.aggressor id resting) :
    mirror names placedAt resting ∈ rest ∧ resting.id = id := by
  have named := sweeping.stamped.filed id resting fit.stored
  refine ⟨(sweeping.listed left _).mpr ⟨?_, ?_, fit.opposite, ?_⟩, named⟩
  · change state.orders.get resting.id = _
    rw [sweeping.mirrors.orders, named, fit.stored, Option.map_some]
  · change resting.id ≠ aggressorId
    rw [named]
    exact fit.different
  · exact active_iff.mpr fit.live

theorem counterpart_of_mem (mem : order ∈ rest)
    (matching : priceMatches (mirror names placedAt progress.aggressor) order = true) :
    ∃ resting, mirror names placedAt resting = order ∧
      Counterpart progress.state.orders aggressorId progress.aggressor order.id resting := by
  obtain ⟨got, ne, opposite, active⟩ := (sweeping.listed left order).mp mem
  rw [sweeping.mirrors.orders] at got
  obtain ⟨resting, found, rfl⟩ := Option.map_eq_some_iff.mp got
  exact ⟨resting, rfl, ne, found, active_iff.mp active, opposite, matching⟩

theorem findBest_eq_none
    (dear : ∀ order ∈ rest, priceMatches (mirror names placedAt progress.aggressor) order = false) :
    findBest progress.state.orders scanLimit aggressorId progress.aggressor = none := by
  apply findBest_of_unmatched
  intro id _ _ resting fit
  have unmatched := dear _ (sweeping.mem_of_counterpart left fit).1
  rw [priceMatches_mirror, fit.priced] at unmatched
  cases unmatched

end

theorem findBest_eq_head {head : Order} (ordered : Monotone sequences)
    (sweeping : Sweeping names placedAt sequences scanLimit aggressorId (head :: tail) state
      progress) (matching : priceMatches (mirror names placedAt progress.aggressor) head = true) :
    ∃ resting, mirror names placedAt resting = head ∧
      (1 ≤ head.id ∧ head.id ≤ scanLimit) ∧
      Counterpart progress.state.orders aggressorId progress.aggressor head.id resting ∧
      findBest progress.state.orders scanLimit aggressorId progress.aggressor =
        some (head.id, resting) := by
  obtain ⟨resting, rfl, fit⟩ := sweeping.counterpart_of_mem left mem_cons_self matching
  have visited := sweeping.stamped.scanned _ resting fit.stored
  -- the head precedes every other counterpart
  have ahead : ∀ id other, id ≠ resting.id →
      Counterpart progress.state.orders aggressorId progress.aggressor id other →
      Precedes progress.aggressor.side (mirror names placedAt resting)
        (mirror names placedAt other) ∧ other.id = id := by
    intro id other ne fits
    obtain ⟨mem, named⟩ := sweeping.mem_of_counterpart left fits
    refine ⟨(pairwise_cons.mp sweeping.sorted).1 _ ?_, named⟩
    apply (mem_cons.mp mem).resolve_left
    intro same
    have ids : other.id = resting.id := congrArg Order.id same
    exact ne (named.symm.trans ids)
  have aged : Chronological progress.state.orders := by
    intro id order later other got found le
    rw [sweeping.stamped.stamped _ _ got, sweeping.stamped.stamped _ _ found]
    exact ordered le
  refine ⟨resting, rfl, visited, fit, ?_⟩
  cases found : findBest progress.state.orders scanLimit aggressorId progress.aggressor with
  | none => exact absurd fit (LimitOrderBook.findBest_eq_none found _ visited.1 visited.2 _)
  | some best =>
    obtain ⟨id, other⟩ := best
    have before := findBest_before aged found visited.1 visited.2 fit
    have fits := (findBest_eq_some found).2
    by_cases same : id = resting.id
    · subst same
      obtain rfl := Option.mem_unique fits.stored fit.stored
      rfl
    · obtain ⟨precedes, _⟩ := ahead id other same fits
      unfold LimitOrderBook.Before LimitOrderBook.rank at before
      cases side : progress.aggressor.side <;>
        simp only [side, Precedes, Order.rank, mirror] at precedes before <;> omega

end

theorem summary_tradeOf (aggressor resting : LimitOrderBook.Order Address) (quantity : Int) :
    (tradeOf (mirror names placedAt aggressor) aggressorId (mirror names placedAt resting) quantity
        now).summary =
      bookSummary (LimitOrderBook.tradeOf aggressor.side aggressorId resting.id resting.price
        quantity sequence) := by
  cases side : aggressor.side <;>
    simp [tradeOf, mirror, side, Trade.summary, bookSummary, LimitOrderBook.tradeOf]

theorem fill {quantity : Int} {next : Progress Address}
    (sweeping : Sweeping names placedAt sequences scanLimit aggressorId
      (mirror names placedAt resting :: tail) state progress)
    (fills : Fills sequence scanLimit aggressorId progress resting.id resting quantity next) :
    Sweeping names placedAt sequences scanLimit aggressorId tail
      { state with
        orders := (state.orders.set aggressorId
          ((mirror names placedAt progress.aggressor).fillBy quantity)).set resting.id
            ((mirror names placedAt resting).fillBy quantity)
        tradeHistory := state.tradeHistory ++ [tradeOf (mirror names placedAt progress.aggressor)
          aggressorId (mirror names placedAt resting) quantity now] } next := by
  have filled : mirror names placedAt next.aggressor =
      (mirror names placedAt progress.aggressor).fillBy quantity := by
    rw [fills.aggressor]
    rfl
  have got := fills.counterpart.stored
  constructor
  · constructor
    · intro id
      rw [fills.orders, sweeping.own]
      simp only [OrderedMap.get_set, get_set, sweeping.mirrors.orders]
      split
      · rfl
      · split
        · rw [← filled]
          rfl
        · rfl
    · simp only [map_append, map_cons, map_nil, sweeping.mirrors.trades,
        fills.published]
      rw [summary_tradeOf]
  · constructor
    · exact fills.filed sweeping.stamped.filed
    · have aged := sweeping.stamped.stamped _ _ got
      rw [fills.orders, sweeping.own]
      apply forall_set
      · apply forall_set sweeping.stamped.stamped
        rw [fills.aggressor]
        exact sweeping.aged
      · exact aged
    · have visited := sweeping.stamped.scanned _ _ got
      rw [fills.orders, sweeping.own]
      apply forall_set
      · exact forall_set sweeping.stamped.scanned sweeping.visited
      · exact visited
  · rw [fills.aggressor]
    exact sweeping.own
  · exact sweeping.visited
  · rw [fills.aggressor]
    exact sweeping.aged
  · rw [fills.aggressor]
    exact (pairwise_cons.mp sweeping.sorted).2
  · intro left order
    have gone := fills.resting_filled left
    have before := sweeping.listed fills.unfinished order
    rw [fills.aggressor]
    simp only [OrderedMap.get_set]
    by_cases here : order.id = resting.id
    · -- the filled order has left the list
      apply iff_of_false
      · intro mem
        have same := (before.mp (mem_cons_of_mem _ mem)).1
        rw [here, sweeping.mirrors.orders, got, Option.map_some] at same
        cases same
        rcases (pairwise_cons.mp sweeping.sorted).1 _ mem with worse | ⟨-, worse⟩
        · exact lt_irrefl _ worse
        · exact lt_irrefl _ worse
      · simp only [here, ↓reduceIte, Option.some.injEq]
        rintro ⟨rfl, -, -, active⟩
        rw [active_iff] at active
        exact active (fillStatus_inactive_iff.mpr gone)
    · rw [if_neg here]
      rw [mem_cons] at before
      have other : order ≠ mirror names placedAt resting := fun same => here (same ▸ rfl)
      rw [or_iff_right other] at before
      rw [before]
      apply and_congr_left
      rintro ⟨ne, -⟩
      rw [if_neg ne]

theorem stops {rounds : Nat}
    (sweeping : Sweeping names placedAt sequences scanLimit aggressorId rest state progress)
    (stopped : progress.aggressor.remaining ≤ 0 ∨ ∀ order ∈ rest,
      priceMatches (mirror names placedAt progress.aggressor) order = false) :
    WhileLoop.run (matchRound sequence scanLimit aggressorId) (rounds + 1) progress =
      some (.ok progress) := by
  have round : matchRound sequence scanLimit aggressorId progress = .ok none := by
    unfold matchRound
    by_cases left : 0 < progress.aggressor.remaining
    · rw [if_pos left, sweeping.findBest_eq_none left (stopped.resolve_left (by omega))]
    · rw [if_neg left]
  unfold WhileLoop.run
  rw [round]

theorem dear_of_head {head : Order}
    (sweeping : Sweeping names placedAt sequences scanLimit aggressorId (head :: tail) state
      progress) (dear : priceMatches (mirror names placedAt progress.aggressor) head = false) :
    ∀ order ∈ head :: tail,
      priceMatches (mirror names placedAt progress.aggressor) order = false := by
  intro order mem
  apply Bool.eq_false_of_not_eq_true
  intro matching
  have ranked : head.rank (mirror names placedAt progress.aggressor).side ≤
      order.rank (mirror names placedAt progress.aggressor).side := by
    rcases mem_cons.mp mem with rfl | later
    · exact le_rfl
    · rcases (pairwise_cons.mp sweeping.sorted).1 order later with better | ⟨same, -⟩
      · exact better.le
      · exact same.le
  rw [priceMatches_of_rank ranked matching] at dear
  cases dear

/-- The sweep of the service and the matching loop of the contract end alike, unless the contract
traps. -/
theorem run_agrees (ordered : Monotone sequences) {rounds : Nat}
    (sweeping : Sweeping names placedAt sequences scanLimit aggressorId rest state progress)
    (enough : rest.length < rounds)
    (untrapped : WhileLoop.run (matchRound sequence scanLimit aggressorId) rounds
      progress ≠ some (.error .trap)) :
    ∃ final, WhileLoop.run (matchRound sequence scanLimit aggressorId) rounds
        progress = some (.ok final) ∧
      Mirrors names placedAt
        (sweep aggressorId now rest (mirror names placedAt progress.aggressor) state).2
        final.state ∧
      Stamped sequences scanLimit final.state.orders := by
  obtain ⟨rounds, rfl⟩ := Nat.exists_eq_succ_of_ne_zero (Nat.ne_zero_of_lt enough)
  induction rest generalizing state progress rounds with
  | nil => exact ⟨progress, sweeping.stops (.inr (by simp)), sweeping.mirrors, sweeping.stamped⟩
  | cons head tail ih =>
    by_cases left : progress.aggressor.remaining ≤ 0
    · rw [sweep_of_stop (.inl left)]
      exact ⟨progress, sweeping.stops (.inl left), sweeping.mirrors, sweeping.stamped⟩
    by_cases dear : priceMatches (mirror names placedAt progress.aggressor) head = false
    · rw [sweep_of_stop (.inr dear)]
      exact ⟨progress, sweeping.stops (.inr (sweeping.dear_of_head dear)), sweeping.mirrors,
        sweeping.stamped⟩
    have unfinished : 0 < progress.aggressor.remaining := by omega
    obtain ⟨resting, rfl, visited, fit, found⟩ := sweeping.findBest_eq_head unfinished ordered
      (Bool.eq_true_of_not_eq_false dear)
    have round : matchRound sequence scanLimit aggressorId progress =
        some <$> LimitOrderBook.fill sequence aggressorId progress resting.id resting := by
      unfold matchRound
      rw [if_pos unfinished, found]
      rfl
    rw [sweep_of_fill left dear]
    unfold WhileLoop.run at untrapped ⊢
    rw [round] at untrapped ⊢
    cases filled : LimitOrderBook.fill sequence aggressorId progress resting.id resting with
    | error =>
      obtain rfl := fill_eq_error filled
      rw [filled] at untrapped
      exact absurd rfl untrapped
    | ok next =>
      rw [filled] at untrapped
      have fills := fill_fills unfinished visited.1 visited.2 fit filled
      have after : mirror names placedAt next.aggressor =
          (mirror names placedAt progress.aggressor).fillBy
            (min progress.aggressor.remaining resting.remaining) := by
        rw [fills.aggressor]
        rfl
      have longer : tail.length < rounds := by simpa using enough
      obtain ⟨rounds, rfl⟩ := Nat.exists_eq_succ_of_ne_zero (Nat.ne_zero_of_lt longer)
      change ∃ final, _ ∧ Mirrors names placedAt (sweep aggressorId now tail
        ((mirror names placedAt progress.aggressor).fillBy
          (min progress.aggressor.remaining resting.remaining)) _).2 _ ∧ _
      rw [← after]
      exact ih (sweeping.fill fills) rounds longer untrapped

end Sweeping

theorem sweep_frame {rest : List Order} {aggressor : Order} {state : State}
    (own : aggressorId ∈ state.orders.keys) (got : ∀ order ∈ rest, order.id ∈ state.orders.keys) :
    (sweep aggressorId now rest aggressor state).2.orders.keys = state.orders.keys ∧
      (sweep aggressorId now rest aggressor state).2.orderIdSeq = state.orderIdSeq := by
  induction rest generalizing aggressor state with
  | nil => exact ⟨rfl, rfl⟩
  | cons head _ ih =>
    by_cases left : aggressor.remaining ≤ 0
    · rw [sweep_of_stop (.inl left)]
      exact ⟨rfl, rfl⟩
    by_cases dear : priceMatches aggressor head = false
    · rw [sweep_of_stop (.inr dear)]
      exact ⟨rfl, rfl⟩
    obtain ⟨first, _⟩ := forall_mem_cons.mp got
    rw [sweep_of_fill left dear]
    have kept (one other : Order) :
        ((state.orders.set aggressorId one).set head.id other).keys = state.orders.keys := by
      simp only [OrderedMap.keys_set, own, first, ↓reduceIte]
    refine ⟨Eq.trans (ih ?_ ?_).1 (kept _ _), (ih ?_ ?_).2⟩
    · rwa [kept]
    · rwa [kept]
    · rwa [kept]
    · rwa [kept]

variable {contract : Address}

/-- Both books before and after every request. -/
structure Synced (names : OwnerNames Address) (placedAt sequences : Nat → Nat) (service : State)
    (book : LimitOrderBook.State Address) : Prop where
  mirrors : Mirrors names placedAt service book
  stamped : Stamped sequences book.orderCount book.orders
  keys : service.orders.keys = List.range' 1 book.orderCount
  counted : service.orderIdSeq = book.orderCount
  started : book.admin.isSome = true
  running : book.paused = false

/-- The numbers of new orders from the next id on. -/
def extend (numbers : Nat → Nat) (count number : Nat) : Nat → Nat :=
  fun id => if id ≤ count then numbers id else number

variable {numbers : Nat → Nat} {count number : Nat}

theorem extend_monotone (grows : Monotone numbers) (bound : ∀ id, numbers id ≤ number) :
    Monotone (extend numbers count number) := by
  intro first second le
  unfold extend
  by_cases old : second ≤ count
  · rw [if_pos old, if_pos (le.trans old)]
    exact grows le
  · split
    · exact bound first
    · exact le_rfl

section Requests

variable {service : State} {book : LimitOrderBook.State Address}

section

variable (mirrors : Mirrors names placedAt service book)
include mirrors

theorem Mirrors.filed (filed : Filed book.orders)
    (got : service.orders.get id = some order) : order.id = id := by
  rw [mirrors.orders] at got
  obtain ⟨resting, found, rfl⟩ := Option.map_eq_some_iff.mp got
  exact filed id resting found

theorem Mirrors.mem_values (filed : Filed book.orders) :
    order ∈ service.orders.values ↔ service.orders.get order.id = some order := by
  rw [OrderedMap.mem_values]
  constructor
  · intro ⟨key, got⟩
    rw [mirrors.filed filed got]
    exact got
  · intro got
    exact ⟨order.id, got⟩

theorem Mirrors.map_id_values (filed : Filed book.orders) :
    service.orders.values.map Order.id = service.orders.keys := by
  unfold OrderedMap.values OrderedMap.keys
  rw [map_map]
  apply map_congr_left
  intro entry mem
  exact mirrors.filed filed (OrderedMap.get_eq_some.mpr mem)

end

section

variable (synced : Synced names placedAt sequences service book)
include synced

theorem Synced.add
    {order : LimitOrderBook.Order Address} (next : order.id = book.orderCount + 1) (now : Nat) :
    Synced names (extend placedAt book.orderCount now)
      (extend sequences book.orderCount order.createdAt)
      { service with
        orderIdSeq := service.orderIdSeq + 1
        orders := service.orders.set (service.orderIdSeq + 1)
          (mirror names (extend placedAt book.orderCount now) order) }
      ((book.withCount (book.orderCount + 1)).setOrder order) := by
  have older : ∀ id got, book.orders.get id = some got → id ≤ book.orderCount :=
    fun id got found => (synced.stamped.scanned id got found).2
  constructor
  · constructor
    · intro id
      change (service.orders.set _ _).get id = ((book.orders.set order.id order).get id).map _
      rw [OrderedMap.get_set, get_set, synced.counted, next]
      split
      · rfl
      · rw [synced.mirrors.orders]
        apply Option.map_congr
        intro got found
        have named := synced.stamped.filed id got found
        unfold mirror extend
        rw [if_pos (named ▸ older id got found)]
    · exact synced.mirrors.trades
  · change Stamped _ (book.orderCount + 1) (book.orders.set order.id order)
    constructor
    · exact forall_set synced.stamped.filed rfl
    · apply forall_set
      · intro id got found
        unfold extend
        rw [if_pos (older id got found)]
        exact synced.stamped.stamped id got found
      · unfold extend
        rw [if_neg (by omega)]
    · apply forall_set
      · intro id got found
        have visited := synced.stamped.scanned id got found
        omega
      · omega
  · have fresh : book.orderCount + 1 ∉ List.range' 1 book.orderCount := by
      rw [mem_range'_1]
      omega
    change (service.orders.set _ _).keys = List.range' 1 (book.orderCount + 1)
    rw [OrderedMap.keys_set, synced.counted, synced.keys, if_neg fresh, range'_concat,
      Nat.one_mul, Nat.add_comm 1]
  · change service.orderIdSeq + 1 = book.orderCount + 1
    rw [synced.counted]
  · exact synced.started
  · exact synced.running

section

variable (few : book.orderCount ≤ maxScanned)
include few

variable {aggressor : LimitOrderBook.Order Address}

theorem Synced.sweeping (ordered : Monotone placedAt) {aggressorId : Nat}
    (got : book.orders.get aggressorId = some aggressor) :
    Sweeping names placedAt sequences (min book.orderCount maxScanned) aggressorId
      (restingOrders service.orders aggressorId (mirror names placedAt aggressor)) service
      { state := book, aggressor, trades := [] } := by
  have filed := synced.stamped.filed
  have whole : min book.orderCount maxScanned = book.orderCount := min_eq_left few
  constructor
  · exact synced.mirrors
  · rw [whole]
    exact synced.stamped
  · exact filed aggressorId aggressor got
  · rw [whole]
    exact synced.stamped.scanned aggressorId aggressor got
  · exact synced.stamped.stamped aggressorId aggressor got
  · change List.Pairwise (Precedes (mirror names placedAt aggressor).side) _
    apply restingOrders_precedes
    · rw [← pairwise_map (f := Order.id), synced.mirrors.map_id_values filed, synced.keys]
      exact pairwise_lt_range'
    · intro first firstMember second secondMember le
      rw [synced.mirrors.mem_values filed, synced.mirrors.orders] at firstMember secondMember
      obtain ⟨_, -, rfl⟩ := Option.map_eq_some_iff.mp firstMember
      obtain ⟨_, -, rfl⟩ := Option.map_eq_some_iff.mp secondMember
      exact ordered le
  · intro _ order
    rw [mem_restingOrders, synced.mirrors.mem_values filed]
    rfl

theorem Synced.length_restingOrders {aggressorId : Nat} {aggressor : Order} :
    (restingOrders service.orders aggressorId aggressor).length <
      min book.orderCount maxScanned + 1 := by
  have values : service.orders.values.length = book.orderCount := by
    rw [← length_map (f := Order.id), synced.mirrors.map_id_values synced.stamped.filed,
      synced.keys, length_range']
  have kept := length_filter_le (fun order : Order => decide (order.id ≠ aggressorId ∧
    order.side ≠ aggressor.side ∧ order.active)) service.orders.values
  unfold restingOrders
  rw [length_insertionSort]
  omega

theorem Synced.matched (placed : Monotone placedAt)
    (stamped : Monotone sequences) {aggressorId now sequence : Nat}
    (got : book.orders.get aggressorId = some aggressor) (live : ¬ aggressor.status.inactive)
    (untrapped : tryMatch sequence aggressorId book ≠ .error .trap) :
    ∃ trades next, tryMatch sequence aggressorId book = .ok (trades, next) ∧
      Synced names placedAt sequences (matchOrders aggressorId now service).2 next ∧
      next.orderCount = book.orderCount := by
  have filed := synced.stamped.filed
  have known : service.orders.get aggressorId = some (mirror names placedAt aggressor) := by
    rw [synced.mirrors.orders, got, Option.map_some]
  have matching : tryMatch sequence aggressorId book =
      matchResult (matchLoop sequence aggressorId aggressor book) := by
    unfold tryMatch
    rw [got]
    exact if_neg live
  have swept : matchOrders aggressorId now service = sweep aggressorId now
      (restingOrders service.orders aggressorId (mirror names placedAt aggressor))
      (mirror names placedAt aggressor) service := by
    unfold matchOrders
    rw [known]
    exact if_neg live
  have own : aggressorId ∈ service.orders.keys := OrderedMap.mem_keys.mpr ⟨_, known⟩
  have resting : ∀ order ∈ restingOrders service.orders aggressorId
      (mirror names placedAt aggressor), order.id ∈ service.orders.keys := by
    intro order mem
    have value := (mem_restingOrders.mp mem).1
    exact OrderedMap.mem_keys.mpr ⟨order, (synced.mirrors.mem_values filed).mp value⟩
  rw [matching] at untrapped ⊢
  obtain ⟨final, looped, mirrors, filedFinal⟩ : ∃ final,
      matchLoop sequence aggressorId aggressor book = some (.ok final) ∧
      Mirrors names placedAt (matchOrders aggressorId now service).2 final.state ∧
      Stamped sequences (min book.orderCount maxScanned) final.state.orders := by
    rw [swept]
    apply (synced.sweeping few placed got).run_agrees stamped (synced.length_restingOrders few)
    intro trapped
    apply untrapped
    unfold matchLoop
    rw [trapped]
    rfl
  obtain ⟨count, admin, paused⟩ := matchLoop_frame looped
  refine ⟨final.trades, final.state, ?_, ?_, count⟩
  · rw [looped]
    rfl
  · constructor
    · exact mirrors
    · rw [count]
      rwa [min_eq_left few] at filedFinal
    · rw [swept, (sweep_frame own resting).1, count, synced.keys]
    · rw [swept, (sweep_frame own resting).2, count, synced.counted]
    · rw [admin]
      exact synced.started
    · rw [paused]
      exact synced.running

end

theorem Synced.setOrder {order : LimitOrderBook.Order Address}
    (got : book.orders.get id = some order) (updated : LimitOrderBook.Order Address)
    (same : updated.id = order.id) (age : updated.createdAt = order.createdAt) :
    Synced names placedAt sequences
      { service with orders := service.orders.set id (mirror names placedAt updated) }
      (book.setOrder updated) := by
  have named : updated.id = id := same.trans (synced.stamped.filed id order got)
  have own : id ∈ service.orders.keys := by
    rw [OrderedMap.mem_keys, synced.mirrors.orders, got]
    exact ⟨_, rfl⟩
  constructor
  · constructor
    · intro other
      change (service.orders.set _ _).get other = ((book.orders.set _ updated).get other).map _
      rw [OrderedMap.get_set, get_set, named, synced.mirrors.orders]
      split <;> rfl
    · exact synced.mirrors.trades
  · change Stamped sequences book.orderCount (book.orders.set _ updated)
    rw [named]
    constructor
    · exact forall_set synced.stamped.filed named
    · apply forall_set synced.stamped.stamped
      rw [age]
      exact synced.stamped.stamped id order got
    · exact forall_set synced.stamped.scanned (synced.stamped.scanned id order got)
  · rw [OrderedMap.keys_set, if_pos own]
    exact synced.keys
  · exact synced.counted
  · exact synced.started
  · exact synced.running

end

/-- A service with an order of the contract, before it is matched. -/
def State.withOrder (service : State) (names : OwnerNames Address) (placedAt : Nat → Nat)
    (order : LimitOrderBook.Order Address) : State :=
  { service with
    orderIdSeq := service.orderIdSeq + 1
    orders := service.orders.set (service.orderIdSeq + 1) (mirror names placedAt order) }

theorem Synced.matchNew (synced : Synced names placedAt sequences service book)
    (few : book.orderCount < maxScanned) (placed : Monotone placedAt)
    (stamped : Monotone sequences) {now : Nat} (placedLe : ∀ id, placedAt id ≤ now)
    (order : LimitOrderBook.Order Address) (stampedLe : ∀ id, sequences id ≤ order.createdAt)
    (next : order.id = book.orderCount + 1) (live : ¬ order.status.inactive) {sequence : Nat}
    (untrapped : tryMatch sequence (book.orderCount + 1)
      ((book.withCount (book.orderCount + 1)).setOrder order) ≠ .error .trap) :
    ∃ trades next, tryMatch sequence (book.orderCount + 1)
        ((book.withCount (book.orderCount + 1)).setOrder order) = .ok (trades, next) ∧
      Synced names (extend placedAt book.orderCount now)
        (extend sequences book.orderCount order.createdAt)
        (matchOrders (service.orderIdSeq + 1) now
          (service.withOrder names (extend placedAt book.orderCount now) order)).2 next ∧
      next.orderCount = book.orderCount + 1 := by
  have got : ((book.withCount (book.orderCount + 1)).setOrder order).orders.get
      (book.orderCount + 1) = some order := by
    change (book.orders.set order.id order).get _ = _
    rw [next, get_set_self]
  rw [synced.counted]
  exact (synced.add next now).matched few (extend_monotone placed placedLe)
    (extend_monotone stamped stampedLe) got live untrapped

variable [DecidableEq Address] {env : LedgerEnv Address contract}

theorem Synced.placing (synced : Synced names placedAt sequences service book)
    (few : book.orderCount < maxScanned) (placed : Monotone placedAt)
    (stamped : Monotone sequences) {now : Nat} (placedLe : ∀ id, placedAt id ≤ now)
    (stampedLe : ∀ id, sequences id ≤ env.sequence) {owner : Address} {side : Side}
    {price quantity : Int} (priced : 0 < price) (sized : 0 < quantity)
    (untrapped : dispatch book (env, .placeOrder owner side price quantity) ≠ .error .trap) :
    ∃ after next,
      handle service (now, .placeOrder (names.name owner) side price quantity) = .ok after ∧
      dispatch book (env, .placeOrder owner side price quantity) = .ok next ∧
      Synced names (extend placedAt book.orderCount now)
        (extend sequences book.orderCount env.sequence) after next ∧
      next.orderCount = book.orderCount + 1 := by
  have live : ¬ (newOrder env owner side price quantity (book.orderCount + 1)).status.inactive := by
    simp [newOrder, LimitOrderBook.OrderStatus.inactive]
  have handled : handle service (now, .placeOrder (names.name owner) side price quantity) =
      .ok (matchOrders (service.orderIdSeq + 1) now (service.withOrder names
        (extend placedAt book.orderCount now)
        (newOrder env owner side price quantity (book.orderCount + 1)))).2 := by
    have stamp : extend placedAt book.orderCount now (book.orderCount + 1) = now :=
      if_neg (Nat.not_succ_le_self _)
    simp only [handle, placeOrder, require, names.nonempty, priced, sized, ne_eq, not_false_eq_true,
      ↓reduceIte, State.withOrder, mirror, newOrder, stamp, synced.counted]
    rfl
  cases dispatched : dispatch book (env, .placeOrder owner side price quantity) with
  | ok next =>
    obtain ⟨⟨id, after⟩, posted, rfl⟩ := map_eq_ok.mp dispatched
    simp only [LimitOrderBook.placeOrder, bind_eq_ok, arith_ok, pure_eq_ok, Prod.mk.injEq,
      Prod.exists] at posted
    obtain ⟨_, -, _, -, _, -, _, -, -, _, _, matched, rfl, rfl⟩ := posted
    obtain ⟨_, _, same, after, count⟩ := synced.matchNew few placed stamped placedLe
      (newOrder env owner side price quantity (book.orderCount + 1))
      stampedLe rfl live (by rw [matched]; simp)
    rw [matched] at same
    cases same
    exact ⟨_, _, handled, rfl, after, count⟩
  | error =>
    exfalso
    rw [dispatched] at untrapped
    have failed := map_eq_error.mp dispatched
    simp only [LimitOrderBook.placeOrder, assertNotPaused, bind_eq_error,
      ensure_eq_ok, ensure_eq_error, requireAuth_eq_error, inUnsigned_eq_error, synced.started,
      synced.running, priced, sized, not_true_eq_false, false_and, and_false, exists_const,
      false_or] at failed
    obtain ⟨_, -, -, -, ⟨-, rfl⟩ | ⟨_, -, ⟨-, rfl⟩ | ⟨_, numbered, failed⟩⟩⟩ := failed
    · exact untrapped rfl
    · exact untrapped rfl
    · obtain ⟨-, rfl⟩ := inUnsigned_eq_ok.mp numbered
      rcases failed with failed | ⟨_, -, finished⟩
      · obtain ⟨_, _, matched, -⟩ := synced.matchNew few placed stamped placedLe
          (newOrder env owner side price quantity (book.orderCount + 1))
          stampedLe rfl live (by
            rw [failed]
            intro trapped
            obtain rfl := Except.error.inj trapped
            exact untrapped rfl)
        rw [failed] at matched
        cases matched
      · exact pure_ne_error finished

theorem Synced.cancelling (synced : Synced names placedAt sequences service book) (now : Nat)
    {owner : Address} (untrapped : dispatch book (env, .cancelOrder owner id) ≠ .error .trap) :
    (∃ after next, handle service (now, .cancelOrder id (names.name owner)) = .ok after ∧
      dispatch book (env, .cancelOrder owner id) = .ok next ∧
      Synced names placedAt sequences after next ∧ next.orderCount = book.orderCount) ∨
    ∃ rejection failure,
      handle service (now, .cancelOrder id (names.name owner)) = .error rejection ∧
      dispatch book (env, .cancelOrder owner id) = .error failure := by
  have signed : owner ∈ env.auths := by
    by_contra unsigned
    apply untrapped
    simp only [dispatch, LimitOrderBook.cancelOrder, bind_eq_error, requireAuth_eq_error]
    exact .inl ⟨unsigned, trivial⟩
  have mirrored := synced.mirrors.orders id
  cases found : book.orders.get id with
  | none =>
    rw [found, Option.map_none] at mirrored
    refine .inr ⟨{ message := "Order not found", status := 404 }, .error .orderNotFound, ?_, ?_⟩
    · simp only [handle, OrderBookService.cancelOrder, mirrored]
      rfl
    · simp only [dispatch, LimitOrderBook.cancelOrder, bind_eq_error,
        call_ok, orError_eq_error, found]
      exact .inr ⟨signed, .inl ⟨trivial, trivial⟩⟩
  | some order =>
    rw [found, Option.map_some] at mirrored
    by_cases own : order.owner = owner
    · subst own
      have ownMirror : (mirror names placedAt order).owner = names.name order.owner := rfl
      by_cases inactive : order.status.inactive
      · have closed : (mirror names placedAt order).status = .filled ∨
            (mirror names placedAt order).status = .cancelled := inactive
        refine .inr ⟨{ message := "Order is not active", status := 409 },
          .error .orderInactive, ?_, ?_⟩
        · simp only [handle, OrderBookService.cancelOrder, mirrored, require, ownMirror, closed,
            not_true_eq_false, ↓reduceIte]
          rfl
        · simp only [dispatch, LimitOrderBook.cancelOrder, bind_eq_error,
            call_ok, ensure_eq_error, found]
          exact .inr ⟨signed, .inr ⟨order, rfl, .inr ⟨rfl, .inl ⟨not_not.mpr inactive,
            trivial⟩⟩⟩⟩
      · have opened : ¬ ((mirror names placedAt order).status = .filled ∨
            (mirror names placedAt order).status = .cancelled) := inactive
        have revised := synced.setOrder found { order with status := .cancelled } rfl rfl
        refine .inl ⟨_, _, ?_, ?_, revised, rfl⟩
        · simp only [handle, OrderBookService.cancelOrder, mirrored, require, ownMirror, opened,
            not_false_eq_true, ↓reduceIte]
          rfl
        · simp only [dispatch, LimitOrderBook.cancelOrder, call_ok]
          exact ⟨signed, order, found, rfl, inactive, rfl⟩
    · have others : ¬ (mirror names placedAt order).owner = names.name owner :=
        fun same => own (names.distinct same)
      refine .inr ⟨{ message := "Not order owner", status := 403 }, .error .notOrderOwner, ?_, ?_⟩
      · simp only [handle, OrderBookService.cancelOrder, mirrored, require, others, ↓reduceIte]
        rfl
      · simp only [dispatch, LimitOrderBook.cancelOrder, bind_eq_error,
          call_ok, ensure_eq_error, found]
        exact .inr ⟨signed, .inr ⟨order, rfl, .inl ⟨own, trivial⟩⟩⟩

end Requests

inductive BookRequest (Address : Type) where
  | place (owner : Address) (side : Side) (price quantity : Int)
  | cancel (owner : Address) (orderId : Nat)

def BookRequest.places : BookRequest Address → Bool
  | .place _ _ _ _ => true
  | .cancel _ _ => false

/-- Prices and quantities of new orders are positive. -/
def BookRequest.Positive : BookRequest Address → Prop
  | .place _ _ price quantity => 0 < price ∧ 0 < quantity
  | .cancel _ _ => True

/-- A request with the time at the service and the environment at the contract. -/
structure Call (Address : Type) (contract : Address) where
  now : Nat
  env : LedgerEnv Address contract
  request : BookRequest Address

def Call.toService (names : OwnerNames Address) (call : Call Address contract) : Nat × Request :=
  (call.now, match call.request with
    | .place owner side price quantity => .placeOrder (names.name owner) side price quantity
    | .cancel owner orderId => .cancelOrder orderId (names.name owner))

def Call.toBook (call : Call Address contract) :
    LedgerEnv Address contract × LimitOrderBook.Operation Address :=
  (call.env, match call.request with
    | .place owner side price quantity => .placeOrder owner side price quantity
    | .cancel owner orderId => .cancelOrder owner orderId)

variable [DecidableEq Address]

/-- The service after some calls. -/
def serviceRun (names : OwnerNames Address) (calls : List (Call Address contract)) : State :=
  machine.run {} (calls.map (Call.toService names))

/-- The contract after the same calls, from an initialized book. -/
def bookRun (admin : Address) (calls : List (Call Address contract)) :
    LimitOrderBook.State Address :=
  (LimitOrderBook.machine contract).run { admin := some admin } (calls.map Call.toBook)

/-- What is assumed of the calls: few orders, at positive prices and quantities, clocks that do not
run backwards, and no call of the contract that traps, by an overflow or a missing
authorization. -/
structure Fair (admin : Address) (calls : List (Call Address contract)) : Prop where
  positive : ∀ call ∈ calls, call.request.Positive
  few : calls.countP (fun call => call.request.places) ≤ maxScanned
  clocks : calls.Pairwise fun earlier later =>
    earlier.now ≤ later.now ∧ earlier.env.sequence ≤ later.env.sequence
  exact : ∀ before call after, calls = before ++ call :: after →
    (LimitOrderBook.machine contract).exec (bookRun admin before) call.toBook ≠ .error .trap

/-- What the calls so far have made of both books. -/
structure Tracked (names : OwnerNames Address) (admin : Address)
    (calls : List (Call Address contract)) (placedAt sequences : Nat → Nat) : Prop where
  synced : Synced names placedAt sequences (serviceRun names calls) (bookRun admin calls)
  placed : Monotone placedAt
  stamped : Monotone sequences
  placedLe : ∀ bound, (∀ call ∈ calls, call.now ≤ bound) → ∀ id, placedAt id ≤ bound
  stampedLe : ∀ bound, (∀ call ∈ calls, call.env.sequence ≤ bound) → ∀ id, sequences id ≤ bound
  counted : (bookRun admin calls).orderCount = calls.countP fun call => call.request.places

variable {names : OwnerNames Address} {admin : Address} {calls : List (Call Address contract)}
  {call : Call Address contract}

omit [DecidableEq Address] in
theorem serviceRun_concat : serviceRun names (calls ++ [call]) =
    machine.apply (serviceRun names calls) (call.toService names) := by
  unfold serviceRun
  rw [map_append, run_append]
  rfl

theorem bookRun_concat : bookRun admin (calls ++ [call]) =
    (LimitOrderBook.machine contract).apply (bookRun admin calls) call.toBook := by
  unfold bookRun
  rw [map_append, run_append]
  rfl

theorem Fair.of_append {later : List (Call Address contract)} (fair : Fair admin (calls ++ later)) :
    Fair admin calls where
  positive call mem := fair.positive call (mem_append_left later mem)
  few := by
    have few := fair.few
    rw [countP_append] at few
    omega
  clocks := (pairwise_append.mp fair.clocks).1
  exact before call after split := by
    apply fair.exact before call (after ++ later)
    rw [split, append_assoc, cons_append]

theorem Fair.before (fair : Fair admin (calls ++ [call])) :
    ∀ earlier ∈ calls, earlier.now ≤ call.now ∧ earlier.env.sequence ≤ call.env.sequence :=
  fun earlier mem => (pairwise_append.mp fair.clocks).2.2 earlier mem call
    (mem_singleton_self call)

theorem extend_le {bound : Nat} (old : ∀ id, numbers id ≤ bound) (new : number ≤ bound) (id : Nat) :
    extend numbers count number id ≤ bound := by
  unfold extend
  split
  · exact old id
  · exact new

theorem Tracked.accept {placedAt sequences later : Nat → Nat} {after : State}
    {next : LimitOrderBook.State Address} (tracked : Tracked names admin calls placedAt sequences)
    (handled : machine.exec (serviceRun names calls) (call.toService names) = .ok after)
    (dispatched : (LimitOrderBook.machine contract).exec (bookRun admin calls) call.toBook =
      .ok next) (synced : Synced names later numbers after next) (placed : Monotone later)
    (stamped : Monotone numbers)
    (placedLe : ∀ bound, (∀ id, placedAt id ≤ bound) → call.now ≤ bound → ∀ id, later id ≤ bound)
    (stampedLe : ∀ bound, (∀ id, sequences id ≤ bound) → call.env.sequence ≤ bound →
      ∀ id, numbers id ≤ bound) (counted : next.orderCount =
      (bookRun admin calls).orderCount + [call].countP fun call => call.request.places) :
    Tracked names admin (calls ++ [call]) later numbers := by
  constructor
  · rw [serviceRun_concat, bookRun_concat, apply_of_ok _ handled,
      apply_of_ok _ dispatched]
    exact synced
  · exact placed
  · exact stamped
  · intro bound bounded
    obtain ⟨older, newer⟩ := forall_mem_append.mp bounded
    exact placedLe bound (tracked.placedLe bound older) (newer _ mem_cons_self)
  · intro bound bounded
    obtain ⟨older, newer⟩ := forall_mem_append.mp bounded
    exact stampedLe bound (tracked.stampedLe bound older) (newer _ mem_cons_self)
  · rw [bookRun_concat, apply_of_ok _ dispatched, counted, tracked.counted, countP_append]

theorem Tracked.reject {placedAt sequences : Nat → Nat} {rejection : ServiceError}
    {failure : Failure LimitOrderBook.Error}
    (tracked : Tracked names admin calls placedAt sequences)
    (rejected : machine.exec (serviceRun names calls) (call.toService names) = .error rejection)
    (failed : (LimitOrderBook.machine contract).exec (bookRun admin calls) call.toBook =
      .error failure) (unplaced : call.request.places = false) :
    Tracked names admin (calls ++ [call]) placedAt sequences := by
  constructor
  · rw [serviceRun_concat, bookRun_concat, CallMachine.apply_of_error _ rejected,
      CallMachine.apply_of_error _ failed]
    exact tracked.synced
  · exact tracked.placed
  · exact tracked.stamped
  · intro bound bounded
    exact tracked.placedLe bound (forall_mem_append.mp bounded).1
  · intro bound bounded
    exact tracked.stampedLe bound (forall_mem_append.mp bounded).1
  · rw [bookRun_concat, CallMachine.apply_of_error _ failed, tracked.counted, countP_append]
    simp [unplaced]

theorem Tracked.step {placedAt sequences : Nat → Nat}
    (tracked : Tracked names admin calls placedAt sequences) (fair : Fair admin (calls ++ [call])) :
    (∃ placedAt sequences, Tracked names admin (calls ++ [call]) placedAt sequences) ∧
      (machine.exec (serviceRun names calls) (call.toService names)).isOk =
        ((LimitOrderBook.machine contract).exec (bookRun admin calls) call.toBook).isOk := by
  have untrapped := fair.exact calls call [] rfl
  have placedLe := tracked.placedLe call.now fun earlier mem => (fair.before earlier mem).1
  have stampedLe := tracked.stampedLe call.env.sequence
    fun earlier mem => (fair.before earlier mem).2
  have few := fair.few
  rw [countP_append, ← tracked.counted] at few
  obtain ⟨now, env, request⟩ := call
  cases request with
  | place owner side price quantity =>
    obtain ⟨priced, sized⟩ := fair.positive _ (mem_append_right calls mem_cons_self)
    obtain ⟨after, next, handled, dispatched, synced, counted⟩ := tracked.synced.placing few
      tracked.placed tracked.stamped placedLe stampedLe priced sized untrapped
    have accepted : Tracked names admin (calls ++ [⟨now, env, .place owner side price quantity⟩])
        _ _ := tracked.accept handled dispatched synced
      (extend_monotone tracked.placed placedLe) (extend_monotone tracked.stamped stampedLe)
      (fun _ => extend_le) (fun _ => extend_le) counted
    exact ⟨⟨_, _, accepted⟩,
      (congrArg Except.isOk handled).trans (congrArg Except.isOk dispatched).symm⟩
  | cancel owner orderId =>
    rcases tracked.synced.cancelling now untrapped with
      ⟨after, next, handled, dispatched, synced, counted⟩ | ⟨rejection, failure, rejected, failed⟩
    · have accepted : Tracked names admin (calls ++ [⟨now, env, .cancel owner orderId⟩])
          placedAt sequences := tracked.accept handled dispatched synced tracked.placed
        tracked.stamped (fun _ older _ => older) (fun _ older _ => older) counted
      exact ⟨⟨_, _, accepted⟩,
        (congrArg Except.isOk handled).trans (congrArg Except.isOk dispatched).symm⟩
    · have refused : Tracked names admin (calls ++ [⟨now, env, .cancel owner orderId⟩])
          placedAt sequences := tracked.reject rejected failed rfl
      exact ⟨⟨_, _, refused⟩,
        (congrArg Except.isOk rejected).trans (congrArg Except.isOk failed).symm⟩

variable (names) in
theorem exists_tracked (fair : Fair admin calls) :
    ∃ placedAt sequences, Tracked names admin calls placedAt sequences := by
  induction calls using List.reverseRecOn with
  | nil =>
    refine ⟨fun _ => 0, fun _ => 0, ⟨⟨fun _ => rfl, rfl⟩, ⟨?_, ?_, ?_⟩, rfl, rfl, rfl, rfl⟩,
      monotone_const, monotone_const, fun _ _ _ => Nat.zero_le _, fun _ _ _ => Nat.zero_le _, rfl⟩
    · exact fun _ _ got => by cases got
    · exact fun _ _ got => by cases got
    · exact fun _ _ got => by cases got
  | append_singleton _ _ ih =>
    obtain ⟨_, _, tracked⟩ := ih fair.of_append
    exact (tracked.step fair).1

/-- The service and the contract make the same trades in the same order, leave the same of every
order in the same status, and reject the same requests. -/
theorem service_agrees_with_contract (fair : Fair admin calls) :
    (serviceRun names calls).tradeHistory.map Trade.summary =
        (bookRun admin calls).published.map bookSummary ∧
      (∀ id, ((serviceRun names calls).orders.get id).map
          (fun order => (order.remaining, order.status)) =
        ((bookRun admin calls).orders.get id).map fun order => (order.remaining, order.status)) ∧
      ∀ before call after, calls = before ++ call :: after →
        (machine.exec (serviceRun names before) (call.toService names)).isOk =
          ((LimitOrderBook.machine contract).exec (bookRun admin before) call.toBook).isOk := by
  obtain ⟨_, _, tracked⟩ := exists_tracked names fair
  refine ⟨tracked.synced.mirrors.trades, fun id => ?_, fun before call after split => ?_⟩
  · rw [tracked.synced.mirrors.orders, Option.map_map]
    rfl
  · rw [split, append_cons] at fair
    obtain ⟨_, _, earlier⟩ := exists_tracked names fair.of_append.of_append
    exact (earlier.step fair.of_append).2

/-- Names of different lengths. -/
def plainNames : OwnerNames Nat where
  name address := String.ofList (List.replicate (address + 1) 'a')
  distinct first second same := by
    have lengths := congrArg String.length same
    simpa using lengths
  nonempty address empty := by
    have lengths := congrArg String.length empty
    simp at lengths

/-- A call that the owners `1` and `2` authorize. -/
def callAt (now : Nat) (request : BookRequest Nat) : Call Nat 0 where
  now := now
  env :=
    { timestamp := now, auths := [1, 2], contract_silent := zero_notMem_two_signers, sequence := now }
  request := request

/-- Two offers at one price, and a bid that takes the first and a part of the second. -/
def tradingDay : List (Call Nat 0) :=
  [callAt 5 (.place 1 .sell 7 10), callAt 5 (.place 1 .sell 7 10), callAt 6 (.place 2 .buy 8 15)]

theorem service_agrees_on_trading_day :
    (serviceRun plainNames tradingDay).tradeHistory.map Trade.summary =
        (bookRun 1 tradingDay).published.map bookSummary ∧
      (∀ id, ((serviceRun plainNames tradingDay).orders.get id).map
          (fun order => (order.remaining, order.status)) =
        ((bookRun 1 tradingDay).orders.get id).map fun order => (order.remaining, order.status)) ∧
      ∀ before call after, tradingDay = before ++ call :: after →
        (machine.exec (serviceRun plainNames before) (call.toService plainNames)).isOk =
          ((LimitOrderBook.machine 0).exec (bookRun 1 before) call.toBook).isOk := by
  apply service_agrees_with_contract
  constructor
  · simp [tradingDay, callAt, BookRequest.Positive]
  · decide
  · simp [tradingDay, callAt]
  · intro before call after split trapped
    have failed := congrArg Except.isOk trapped
    rcases before with _ | ⟨_, _ | ⟨_, _ | ⟨_, _⟩⟩⟩ <;>
      simp only [tradingDay, nil_append, cons_append, List.cons.injEq, nil_eq,
        append_eq_nil_iff, reduceCtorEq, and_false] at split
    · obtain ⟨rfl, -⟩ := split
      exact absurd failed (by decide)
    · obtain ⟨rfl, rfl, -⟩ := split
      exact absurd failed (by decide)
    · obtain ⟨rfl, rfl, rfl, -⟩ := split
      exact absurd failed (by decide)

end SorobanPlayground.OrderBookService
