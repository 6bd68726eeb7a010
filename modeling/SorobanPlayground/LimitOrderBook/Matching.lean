import Mathlib.Order.Interval.Finset.Nat
import SorobanPlayground.LimitOrderBook.Contract

/-! # What a match does

The scan returns a counterpart of the aggressor if there is one among the orders it
visits. A round of the matching loop that goes on fills the aggressor against such a
counterpart until nothing remains of one of the two, so the rounds never run out.
-/

namespace SorobanPlayground.LimitOrderBook

variable {Address : Type}

/-- An order that the aggressor can be filled against. -/
structure Counterpart (orders : FiniteMap Nat (Order Address)) (aggressorId : Nat)
    (aggressor : Order Address) (restingId : Nat) (resting : Order Address) : Prop where
  different : restingId ≠ aggressorId
  stored : orders.get restingId = some resting
  live : ¬ resting.status.inactive
  opposite : resting.side ≠ aggressor.side
  priced : priceMatches aggressor resting = true

variable {orders : FiniteMap Nat (Order Address)} {aggressorId restingId : Nat}
  {aggressor resting : Order Address} {bestMatch : Option (Nat × Order Address)}

theorem considerResting_of_not
    (unfit : ∀ resting, ¬ Counterpart orders aggressorId aggressor restingId resting) :
    considerResting orders aggressorId aggressor bestMatch restingId = bestMatch := by
  unfold considerResting
  split_ifs with same
  · rfl
  · cases got : orders.get restingId with
    | none => rfl
    | some resting =>
      dsimp only
      split_ifs with inactive sameSide unpriced
      · rfl
      · rfl
      · rfl
      · have priced := Bool.eq_true_of_not_eq_false unpriced
        exact absurd ⟨same, got, inactive, sameSide, priced⟩ (unfit resting)
      · rfl

theorem considerResting_of_counterpart
    (fit : Counterpart orders aggressorId aggressor restingId resting) :
    considerResting orders aggressorId aggressor bestMatch restingId =
      if candidateBetter aggressor.side resting bestMatch = true then some (restingId, resting)
      else bestMatch := by
  unfold considerResting
  rw [if_neg fit.different, fit.stored]
  dsimp only
  rw [if_neg fit.live, if_neg fit.opposite, if_neg (by rw [fit.priced]; nofun)]

variable {found : Nat × Order Address}

theorem considerResting_eq_some
    (considered : considerResting orders aggressorId aggressor bestMatch restingId = some found) :
    bestMatch = some found ∨
      found.1 = restingId ∧ Counterpart orders aggressorId aggressor found.1 found.2 := by
  by_cases fit : ∃ resting, Counterpart orders aggressorId aggressor restingId resting
  · obtain ⟨resting, fit⟩ := fit
    rw [considerResting_of_counterpart fit] at considered
    split_ifs at considered
    · cases considered
      exact .inr ⟨rfl, fit⟩
    · exact .inl considered
  · rw [considerResting_of_not fun resting fits => fit ⟨resting, fits⟩] at considered
    exact .inl considered

theorem considerResting_eq_none
    (considered : considerResting orders aggressorId aggressor bestMatch restingId = none) :
    bestMatch = none ∧ ∀ resting, ¬ Counterpart orders aggressorId aggressor restingId resting := by
  by_cases fit : ∃ resting, Counterpart orders aggressorId aggressor restingId resting
  · obtain ⟨resting, fit⟩ := fit
    rw [considerResting_of_counterpart fit] at considered
    split_ifs at considered with better
    subst considered
    exact absurd rfl better
  · have unfit : ∀ resting, ¬ Counterpart orders aggressorId aggressor restingId resting :=
      fun resting fits => fit ⟨resting, fits⟩
    rw [considerResting_of_not unfit] at considered
    exact ⟨considered, unfit⟩

theorem foldl_considerResting_eq_some {ids : List Nat}
    (scanned : ids.foldl (considerResting orders aggressorId aggressor) bestMatch = some found) :
    bestMatch = some found ∨
      found.1 ∈ ids ∧ Counterpart orders aggressorId aggressor found.1 found.2 := by
  induction ids generalizing bestMatch with
  | nil => exact .inl scanned
  | cons id _ ih =>
    rcases ih scanned with considered | ⟨mem, fit⟩
    · rcases considerResting_eq_some considered with earlier | ⟨same, fit⟩
      · exact .inl earlier
      · exact .inr ⟨same ▸ List.mem_cons_self, fit⟩
    · exact .inr ⟨List.mem_cons_of_mem id mem, fit⟩

theorem foldl_considerResting_eq_none {ids : List Nat}
    (scanned : ids.foldl (considerResting orders aggressorId aggressor) bestMatch = none) :
    bestMatch = none ∧ ∀ id ∈ ids, ∀ resting,
      ¬ Counterpart orders aggressorId aggressor id resting := by
  induction ids generalizing bestMatch with
  | nil => exact ⟨scanned, fun _ mem => absurd mem List.not_mem_nil⟩
  | cons _ _ ih =>
    obtain ⟨considered, later⟩ := ih scanned
    obtain ⟨earlier, unfit⟩ := considerResting_eq_none considered
    exact ⟨earlier, List.forall_mem_cons.mpr ⟨unfit, later⟩⟩

variable {scanLimit : Nat}

theorem mem_scanned {id : Nat} : id ∈ List.range' 1 scanLimit ↔ 1 ≤ id ∧ id ≤ scanLimit := by
  rw [List.mem_range'_1]
  omega

theorem findBest_eq_some {scanLimit : Nat}
    (found : findBest orders scanLimit aggressorId aggressor = some (restingId, resting)) :
    (1 ≤ restingId ∧ restingId ≤ scanLimit) ∧
      Counterpart orders aggressorId aggressor restingId resting := by
  rcases foldl_considerResting_eq_some found with initial | ⟨mem, fit⟩
  · cases initial
  · exact ⟨mem_scanned.mp mem, fit⟩

theorem findBest_eq_none (missed : findBest orders scanLimit aggressorId aggressor = none)
    (id : Nat) (first : 1 ≤ id) (visited : id ≤ scanLimit) (resting : Order Address) :
    ¬ Counterpart orders aggressorId aggressor id resting :=
  (foldl_considerResting_eq_none missed).2 id (mem_scanned.mpr ⟨first, visited⟩) resting

theorem findBest_of_unmatched (unmatched : ∀ id, 1 ≤ id → id ≤ scanLimit →
      ∀ resting, ¬ Counterpart orders aggressorId aggressor id resting) :
    findBest orders scanLimit aggressorId aggressor = none := by
  cases found : findBest orders scanLimit aggressorId aggressor with
  | none => rfl
  | some best =>
    obtain ⟨⟨first, visited⟩, fit⟩ := findBest_eq_some found
    exact absurd fit (unmatched best.1 first visited best.2)

/-- What a round that goes on does: it fills the aggressor against a counterpart among
the scanned orders and publishes the trade. -/
structure Fills (sequence scanLimit aggressorId : Nat) (progress : Progress Address)
    (restingId : Nat) (resting : Order Address) (quantity : Int) (next : Progress Address) :
    Prop where
  unfinished : 0 < progress.aggressor.remaining
  first : 1 ≤ restingId
  visited : restingId ≤ scanLimit
  counterpart : Counterpart progress.state.orders aggressorId progress.aggressor restingId resting
  least : quantity = min progress.aggressor.remaining resting.remaining
  aggressor : next.aggressor = progress.aggressor.filledTo (progress.aggressor.remaining - quantity)
  orders : next.state.orders = (progress.state.orders.set progress.aggressor.id
    next.aggressor).set resting.id (resting.filledTo (resting.remaining - quantity))
  published : next.state.published = progress.state.published ++
    [tradeOf progress.aggressor.side aggressorId restingId resting.price quantity sequence]
  totalVolume : next.state.totalVolume = progress.state.totalVolume + quantity
  orderCount : next.state.orderCount = progress.state.orderCount
  admin : next.state.admin = progress.state.admin

variable {sequence : Nat} {progress next : Progress Address}

theorem fill_fills {restingId : Nat} {resting : Order Address}
    (unfinished : 0 < progress.aggressor.remaining) (first : 1 ≤ restingId)
    (visited : restingId ≤ scanLimit) (counterpart : Counterpart progress.state.orders aggressorId
      progress.aggressor restingId resting)
    (filled : fill sequence aggressorId progress restingId resting = .ok next) :
    Fills sequence scanLimit aggressorId progress restingId resting
      (min progress.aggressor.remaining resting.remaining) next := by
  simp only [fill, addTotalVolume, call_ok, arith_ok] at filled
  obtain ⟨-, -, -, rfl⟩ := filled
  exact ⟨unfinished, first, visited, counterpart, rfl, rfl, rfl, rfl, rfl, rfl, rfl⟩

theorem fill_eq_error {restingId : Nat} {resting : Order Address} {failure : Failure Error}
    (failed : fill sequence aggressorId progress restingId resting = .error failure) :
    failure = .trap := by
  simp only [fill, addTotalVolume, bind_eq_error, checkedSub_eq_error, checkedAdd_eq_error,
    pure_ne_error, and_false, exists_false, or_false] at failed
  obtain ⟨-, same⟩ | ⟨_, -, ⟨-, same⟩ | ⟨_, -, -, same⟩⟩ := failed
  · exact same
  · exact same
  · exact same

section

variable (ran : matchRound sequence scanLimit aggressorId progress = .ok (some next))
include ran

theorem matchRound_fills :
    ∃ restingId resting quantity,
      Fills sequence scanLimit aggressorId progress restingId resting quantity next := by
  unfold matchRound at ran
  split_ifs at ran with unfinished
  · cases found : findBest progress.state.orders scanLimit aggressorId progress.aggressor with
    | none =>
      rw [found] at ran
      cases ran
    | some best =>
      obtain ⟨restingId, resting⟩ := best
      rw [found] at ran
      obtain ⟨⟨first, visited⟩, counterpart⟩ := findBest_eq_some found
      obtain ⟨_, filled, same⟩ := map_eq_ok.mp ran
      cases same
      exact ⟨restingId, resting, _, fill_fills unfinished first visited counterpart filled⟩
  · cases ran

theorem matchRound_frame :
    next.state.orderCount = progress.state.orderCount ∧
      next.state.admin = progress.state.admin ∧ next.state.paused = progress.state.paused := by
  unfold matchRound at ran
  split_ifs at ran
  · cases found : findBest progress.state.orders scanLimit aggressorId progress.aggressor with
    | none =>
      rw [found] at ran
      cases ran
    | some =>
      rw [found] at ran
      obtain ⟨_, filled, same⟩ := map_eq_ok.mp ran
      cases same
      simp only [fill, addTotalVolume, call_ok, arith_ok] at filled
      obtain ⟨-, -, -, rfl⟩ := filled
      exact ⟨rfl, rfl, rfl⟩
  · cases ran

end

theorem matchRound_exits (ran : matchRound sequence scanLimit aggressorId progress = .ok none) :
    progress.aggressor.remaining ≤ 0 ∨ ∀ id, 1 ≤ id → id ≤ scanLimit → ∀ resting,
      ¬ Counterpart progress.state.orders aggressorId progress.aggressor id resting := by
  unfold matchRound at ran
  split_ifs at ran with unfinished
  · cases found : findBest progress.state.orders scanLimit aggressorId progress.aggressor with
    | none => exact .inr (findBest_eq_none found)
    | some =>
      rw [found] at ran
      obtain ⟨_, -, impossible⟩ := map_eq_ok.mp ran
      cases impossible
  · exact .inl (not_lt.mp unfinished)

def liveAt (orders : FiniteMap Nat (Order Address)) (id : Nat) : Bool :=
  (orders.get id).any fun order => decide ¬ order.status.inactive

def liveScanned (orders : FiniteMap Nat (Order Address)) (scanLimit aggressorId : Nat) :
    Finset Nat :=
  {id ∈ Finset.Icc 1 scanLimit | id ≠ aggressorId ∧ liveAt orders id = true}

/-- The rounds left: none when nothing remains of the aggressor, else at most one for
each order that the scan may fill. -/
def roundsLeft (scanLimit aggressorId : Nat) (progress : Progress Address) : Nat :=
  if 0 < progress.aggressor.remaining then
    (liveScanned progress.state.orders scanLimit aggressorId).card
  else 0

def Filed (orders : FiniteMap Nat (Order Address)) : Prop :=
  ∀ id order, orders.get id = some order → order.id = id

variable {quantity : Int}

section

variable (fills : Fills sequence scanLimit aggressorId progress restingId resting quantity next)

include fills

theorem Fills.resting_filled (left : 0 < next.aggressor.remaining) :
    resting.remaining - quantity = 0 := by
  have least := fills.least
  rw [fills.aggressor] at left
  have remaining : 0 < progress.aggressor.remaining - quantity := left
  omega

theorem Fills.filed (filed : Filed progress.state.orders) : Filed next.state.orders := by
  rw [fills.orders]
  refine forall_set (forall_set filed ?_) ?_
  · rw [fills.aggressor]
    rfl
  · rfl

theorem Fills.roundsLeft_lt (filed : Filed progress.state.orders)
    (own : progress.aggressor.id = aggressorId) :
    roundsLeft scanLimit aggressorId next < roundsLeft scanLimit aggressorId progress := by
  have counterpart := fills.counterpart
  have named : resting.id = restingId := filed restingId resting counterpart.stored
  have mem : restingId ∈ liveScanned progress.state.orders scanLimit aggressorId := by
    simp [liveScanned, liveAt, fills.first, fills.visited, counterpart.different,
      counterpart.stored, counterpart.live]
  unfold roundsLeft
  rw [if_pos fills.unfinished]
  by_cases left : 0 < next.aggressor.remaining
  · rw [if_pos left]
    have filled := fills.resting_filled left
    apply Finset.card_lt_card
    refine Finset.ssubset_iff_subset_ne.mpr ⟨fun id live => ?_, fun same => ?_⟩
    · obtain ⟨visited, ne, live⟩ := Finset.mem_filter.mp live
      refine Finset.mem_filter.mpr ⟨visited, ne, ?_⟩
      by_cases current : id = restingId
      · rw [current]
        exact (Finset.mem_filter.mp mem).2.2
      · unfold liveAt at live
        rw [fills.orders, named, own, get_set_of_ne _ _ current, get_set_of_ne _
          _ ne] at live
        exact live
    · rw [← same] at mem
      have live := (Finset.mem_filter.mp mem).2.2
      unfold liveAt at live
      rw [fills.orders, named, get_set_self] at live
      simp [Order.filledTo, filled, fillStatus, OrderStatus.inactive] at live
  · rw [if_neg left]
    exact Finset.card_pos.mpr ⟨restingId, mem⟩

end

theorem roundsLeft_lt (scanLimit aggressorId : Nat) (progress : Progress Address) :
    roundsLeft scanLimit aggressorId progress < scanLimit + 1 := by
  unfold roundsLeft
  split_ifs
  · refine Nat.lt_succ_of_le ((Finset.card_filter_le _ _).trans ?_)
    rw [Nat.card_Icc]
    omega
  · exact Nat.succ_pos _

variable {state : State Address}

theorem matchLoop_ne_none {aggressor : Order Address} (filed : Filed state.orders)
    (own : aggressor.id = aggressorId) : matchLoop sequence aggressorId aggressor state ≠ none := by
  unfold matchLoop
  generalize min state.orderCount maxScanned = scanLimit
  refine WhileLoop.run_ne_none (fun progress : Progress Address =>
    Filed progress.state.orders ∧ progress.aggressor.id = aggressorId)
    (roundsLeft scanLimit aggressorId) ?_ ⟨filed, own⟩ ?_
  · rintro _ _ ⟨filed, own⟩ ran
    obtain ⟨_, _, _, fills⟩ := matchRound_fills ran
    refine ⟨⟨fills.filed filed, ?_⟩, fills.roundsLeft_lt filed own⟩
    rw [fills.aggressor]
    exact own
  · exact roundsLeft_lt _ _ _

theorem matchLoop_frame {aggressor : Order Address} {state : State Address}
    {final : Progress Address}
    (looped : matchLoop sequence aggressorId aggressor state = some (.ok final)) :
    final.state.orderCount = state.orderCount ∧ final.state.admin = state.admin ∧
      final.state.paused = state.paused := by
  apply (WhileLoop.run_invariant (fun progress : Progress Address =>
    progress.state.orderCount = state.orderCount ∧ progress.state.admin = state.admin ∧
      progress.state.paused = state.paused) ?_ ⟨rfl, rfl, rfl⟩ looped).1
  intro progress next kept ran
  obtain ⟨count, admin, paused⟩ := matchRound_frame ran
  exact ⟨count.trans kept.1, admin.trans kept.2.1, paused.trans kept.2.2⟩

/-- A match leaves a book without an active aggressor alone and runs the matching loop
otherwise. -/
theorem tryMatch_eq_ok {state later : State Address} {trades : List Trade}
    (ran : tryMatch sequence aggressorId state = .ok (trades, later)) :
    ∃ aggressor, state.orders.get aggressorId = some aggressor ∧
      (aggressor.status.inactive ∧ later = state ∨
        ¬ aggressor.status.inactive ∧ ∃ final,
          matchLoop sequence aggressorId aggressor state = some (.ok final) ∧
            later = final.state) := by
  simp only [tryMatch, call_ok] at ran
  obtain ⟨aggressor, got, ran⟩ := ran
  refine ⟨aggressor, got, ?_⟩
  split_ifs at ran with inactive
  · cases ran
    exact .inl ⟨inactive, rfl⟩
  · cases looped : matchLoop sequence aggressorId aggressor state with
    | none =>
      rw [looped] at ran
      cases ran
    | some result =>
      rw [looped] at ran
      cases result with
      | error => cases ran
      | ok final =>
        cases ran
        exact .inr ⟨inactive, final, rfl, rfl⟩

theorem tryMatch_of_unmatched {order : Order Address}
    (got : state.orders.get aggressorId = some order) (live : ¬ order.status.inactive)
    (unmatched : ∀ id, 1 ≤ id → id ≤ min state.orderCount maxScanned →
      ∀ resting, ¬ Counterpart state.orders aggressorId order id resting) :
    tryMatch sequence aggressorId state = .ok ([], state) := by
  have missed : findBest state.orders (min state.orderCount maxScanned) aggressorId order =
      none := findBest_of_unmatched unmatched
  have round : matchRound sequence (min state.orderCount maxScanned) aggressorId
      { state, aggressor := order, trades := [] } = .ok none := by
    unfold matchRound
    rw [missed]
    exact ite_self _
  have looped : matchLoop sequence aggressorId order state =
      some (.ok { state, aggressor := order, trades := [] }) := by
    unfold matchLoop WhileLoop.run
    rw [round]
  unfold tryMatch
  rw [got]
  apply (if_neg live).trans
  rw [looped]
  rfl

theorem placeOrder_eq_ok {contract : Address} [DecidableEq Address]
    {env : LedgerEnv Address contract} {owner : Address} {side : Side} {price quantity : Int}
    {id : Nat} {state next : State Address}
    (ran : placeOrder env owner side price quantity state = .ok (id, next)) :
    state.admin.isSome = true ∧ 0 < quantity ∧ ∃ trades,
      tryMatch env.sequence (state.orderCount + 1)
        ((state.withCount (state.orderCount + 1)).setOrder
        (newOrder env owner side price quantity (state.orderCount + 1))) = .ok (trades, next) := by
  simp only [placeOrder, assertNotPaused, call_ok, arith_ok, Prod.exists] at ran
  obtain ⟨⟨live, -⟩, -, sized, -, -, trades, _, matched, -, rfl⟩ := ran
  exact ⟨live, sized, trades, matched⟩

end SorobanPlayground.LimitOrderBook
