import SorobanPlayground.Host
import SorobanPlayground.Library.WhileLoop

/-! # The limit order book

Owners place buy and sell orders with a limit price. A new order is matched at once
against the resting orders of the other side, best price first and then the oldest;
what is left of it rests in the book. Every fill is published as a trade.
-/

namespace SorobanPlayground.LimitOrderBook

inductive Error where
  | alreadyInitialized
  | notInitialized
  | unauthorized
  | orderNotFound
  | zeroAmount
  | zeroPrice
  | notOrderOwner
  | orderInactive
  | contractPaused
  deriving DecidableEq, Repr

inductive Side where
  | buy
  | sell
  deriving DecidableEq, Repr

inductive OrderStatus where
  | opened
  | partiallyFilled
  | filled
  | cancelled
  deriving DecidableEq, Repr

structure Order (Address : Type) where
  id : Nat
  owner : Address
  side : Side
  price : Int
  quantity : Int
  remaining : Int
  status : OrderStatus
  /-- Ledger sequence when the order was placed. -/
  createdAt : Nat
  deriving DecidableEq, Repr

/-- Summary of a match execution. -/
structure Trade where
  buyOrderId : Nat
  sellOrderId : Nat
  price : Int
  quantity : Int
  executedAt : Nat
  deriving DecidableEq, Repr

/-- The contract's storage and the trades it has published, the oldest first. -/
structure State (Address : Type) where
  admin : Option Address := none
  orderCount : Nat := 0
  paused : Bool := false
  totalVolume : Int := 0
  orders : FiniteMap Nat (Order Address) := ∅
  published : List Trade := []

/-- The environment of a call with the number of the ledger. -/
structure LedgerEnv (Address : Type) (contract : Address) extends Env Address contract where
  sequence : Nat

variable {Address : Type} {contract : Address} (state : State Address)

def State.setOrder (order : Order Address) : State Address :=
  { state with orders := state.orders.set order.id order }

def State.withCount (orderCount : Nat) : State Address := { state with orderCount }

/-- The volume after a fill. -/
def addTotalVolume (amount : Int) : Outcome Error Int :=
  checkedAdd .trap state.totalVolume amount

def State.publish (trade : Trade) : State Address :=
  { state with published := state.published ++ [trade] }

def assertNotPaused : Outcome Error Unit := do
  ensure (state.admin.isSome = true) .notInitialized
  ensure (state.paused = false) .contractPaused

/-- Whether an order is filled or cancelled. -/
def OrderStatus.inactive (status : OrderStatus) : Prop := status = .filled ∨ status = .cancelled

instance (status : OrderStatus) : Decidable status.inactive :=
  inferInstanceAs (Decidable (status = .filled ∨ status = .cancelled))

def fillStatus (remaining : Int) : OrderStatus :=
  if remaining = 0 then .filled else .partiallyFilled

def priceMatches (aggressor resting : Order Address) : Bool :=
  match aggressor.side with
  | .buy => decide (resting.price ≤ aggressor.price)
  | .sell => decide (aggressor.price ≤ resting.price)

/-- Whether a resting order comes before the best one found so far. -/
def candidateBetter (side : Side) (resting : Order Address) :
    Option (Nat × Order Address) → Bool
  | none => true
  | some (_, best) =>
      match side with
      | .buy => decide (resting.price < best.price ∨
          (resting.price = best.price ∧ resting.createdAt < best.createdAt))
      | .sell => decide (best.price < resting.price ∨
          (resting.price = best.price ∧ resting.createdAt < best.createdAt))

/-- One step of the scan for the best counterpart. -/
def considerResting (orders : FiniteMap Nat (Order Address)) (aggressorId : Nat)
    (aggressor : Order Address) (bestMatch : Option (Nat × Order Address)) (restingId : Nat) :
    Option (Nat × Order Address) :=
  if restingId = aggressorId then bestMatch
  else match orders.get restingId with
    | none => bestMatch
    | some resting =>
        if resting.status.inactive then bestMatch
        else if resting.side = aggressor.side then bestMatch
        else if priceMatches aggressor resting = false then bestMatch
        else if candidateBetter aggressor.side resting bestMatch = true then
          some (restingId, resting)
        else bestMatch

/-- The scan of the first orders for the best counterpart. -/
def findBest (orders : FiniteMap Nat (Order Address)) (scanLimit aggressorId : Nat)
    (aggressor : Order Address) : Option (Nat × Order Address) :=
  (List.range' 1 scanLimit).foldl (considerResting orders aggressorId aggressor) none

/-- A match in progress: the storage, the aggressor in memory and the trades so far. -/
structure Progress (Address : Type) where
  state : State Address
  aggressor : Order Address
  trades : List Trade

def Order.filledTo (order : Order Address) (remaining : Int) : Order Address :=
  { order with remaining, status := fillStatus remaining }

/-- The trade of a fill at the price of the resting order. -/
def tradeOf (side : Side) (aggressorId restingId : Nat) (price quantity : Int)
    (executedAt : Nat) : Trade :=
  match side with
  | .buy => { buyOrderId := aggressorId, sellOrderId := restingId, price, quantity, executedAt }
  | .sell => { buyOrderId := restingId, sellOrderId := aggressorId, price, quantity, executedAt }

/-- A fill of the aggressor against a resting order. -/
def fill (sequence aggressorId : Nat) (progress : Progress Address) (restingId : Nat)
    (resting : Order Address) : Outcome Error (Progress Address) := do
  let quantity := min progress.aggressor.remaining resting.remaining
  let aggressorLeft ← checkedSub .trap progress.aggressor.remaining quantity
  let restingLeft ← checkedSub .trap resting.remaining quantity
  let aggressor := progress.aggressor.filledTo aggressorLeft
  let totalVolume ← addTotalVolume progress.state quantity
  let trade := tradeOf aggressor.side aggressorId restingId resting.price quantity sequence
  return {
    state := { (((progress.state.setOrder aggressor).setOrder
      (resting.filledTo restingLeft)).publish trade) with totalVolume }
    aggressor
    trades := progress.trades ++ [trade] }

/-- One round of the matching loop: it ends when nothing remains of the aggressor or no
counterpart is left. -/
def matchRound (sequence scanLimit aggressorId : Nat) (progress : Progress Address) :
    Outcome Error (Option (Progress Address)) :=
  if 0 < progress.aggressor.remaining then
    match findBest progress.state.orders scanLimit aggressorId progress.aggressor with
    | none => .ok none
    | some (restingId, resting) => some <$> fill sequence aggressorId progress restingId resting
  else .ok none

def maxScanned : Nat := 200

/-- The matching loop. Every round but the last fills a resting order, so it takes one
round more than there are orders to scan. -/
def matchLoop (sequence aggressorId : Nat) (aggressor : Order Address) (state : State Address) :
    Option (Outcome Error (Progress Address)) :=
  WhileLoop.run (matchRound sequence (min state.orderCount maxScanned) aggressorId)
    (min state.orderCount maxScanned + 1) { state, aggressor, trades := [] }

def matchResult : Option (Outcome Error (Progress Address)) →
    Outcome Error (List Trade × State Address)
  | some (.ok final) => .ok (final.trades, final.state)
  | some (.error failure) => .error failure
  | none => .error .trap

def tryMatch (sequence aggressorId : Nat) (state : State Address) :
    Outcome Error (List Trade × State Address) := do
  let aggressor ← orError (state.orders.get aggressorId) .orderNotFound
  if aggressor.status.inactive then .ok ([], state)
  else matchResult (matchLoop sequence aggressorId aggressor state)

variable [DecidableEq Address] (env : LedgerEnv Address contract)

def initializeBook (admin : Address) (state : State Address) : Outcome Error (State Address) := do
  ensure (state.admin.isSome = false) .alreadyInitialized
  requireAuth env.toEnv admin
  return { state with admin := some admin, orderCount := 0, paused := false }

def assertAdmin (caller : Address) (state : State Address) : Outcome Error Unit := do
  let admin ← orError state.admin .notInitialized
  requireAuth env.toEnv caller
  ensure (admin = caller) .unauthorized

def pause (admin : Address) (state : State Address) : Outcome Error (State Address) := do
  assertAdmin env admin state
  return { state with paused := true }

def unpause (admin : Address) (state : State Address) : Outcome Error (State Address) := do
  assertAdmin env admin state
  return { state with paused := false }

def setAdmin (admin newAdmin : Address) (state : State Address) :
    Outcome Error (State Address) := do
  assertAdmin env admin state
  requireAuth env.toEnv newAdmin
  return { state with admin := some newAdmin }

/-- An order that has just been placed. -/
def newOrder (owner : Address) (side : Side) (price quantity : Int) (id : Nat) : Order Address :=
  { id, owner, side, price, quantity, remaining := quantity, status := .opened,
    createdAt := env.sequence }

/-- Returns the id of the new order. -/
def placeOrder (owner : Address) (side : Side) (price quantity : Int) (state : State Address) :
    Outcome Error (Nat × State Address) := do
  assertNotPaused state
  ensure (0 < price) .zeroPrice
  ensure (0 < quantity) .zeroAmount
  requireAuth env.toEnv owner
  let id ← inUnsigned u64Max .trap (state.orderCount + 1)
  let (_, state) ← tryMatch env.sequence id
    ((state.withCount id).setOrder (newOrder env owner side price quantity id))
  return (id, state)

def cancelOrder (owner : Address) (orderId : Nat) (state : State Address) :
    Outcome Error (State Address) := do
  requireAuth env.toEnv owner
  let order ← orError (state.orders.get orderId) .orderNotFound
  ensure (order.owner = owner) .notOrderOwner
  ensure (¬ order.status.inactive) .orderInactive
  return state.setOrder { order with status := .cancelled }

/-- Returns the trades of the match. -/
def matchOrder (aggressorId : Nat) (state : State Address) :
    Outcome Error (List Trade × State Address) := do
  assertNotPaused state
  tryMatch env.sequence aggressorId state

inductive Operation (Address : Type) where
  | initializeBook (admin : Address)
  | pause (admin : Address)
  | unpause (admin : Address)
  | setAdmin (admin newAdmin : Address)
  | placeOrder (owner : Address) (side : Side) (price quantity : Int)
  | cancelOrder (owner : Address) (orderId : Nat)
  | matchOrder (aggressorId : Nat)

def dispatch (state : State Address) (call : LedgerEnv Address contract × Operation Address) :
    Outcome Error (State Address) :=
  match call.2 with
  | .initializeBook admin => initializeBook call.1 admin state
  | .pause admin => pause call.1 admin state
  | .unpause admin => unpause call.1 admin state
  | .setAdmin admin newAdmin => setAdmin call.1 admin newAdmin state
  | .placeOrder owner side price quantity =>
      Prod.snd <$> placeOrder call.1 owner side price quantity state
  | .cancelOrder owner orderId => cancelOrder call.1 owner orderId state
  | .matchOrder aggressorId => Prod.snd <$> matchOrder call.1 aggressorId state

def machine (contract : Address) :
    CallMachine (State Address) (LedgerEnv Address contract × Operation Address)
      (Failure Error) where
  exec := dispatch

end SorobanPlayground.LimitOrderBook
