import Mathlib.Data.List.Sort
import SorobanPlayground.LimitOrderBook.Contract
import SorobanPlayground.Library.OrderedMap

/-! # The order book service

The backend keeps a limit order book of its own in memory. A new order is matched against the
resting orders of the other side, which are sorted once, by price and then by time.
-/

namespace SorobanPlayground.OrderBookService

open LimitOrderBook (Side OrderStatus fillStatus)

structure Order where
  id : Nat
  owner : String
  side : Side
  price : Int
  quantity : Int
  remaining : Int
  status : OrderStatus
  /-- The time in milliseconds when the order was placed. -/
  createdAt : Nat
  deriving DecidableEq, Repr

structure Trade where
  buyOrderId : Nat
  sellOrderId : Nat
  price : Int
  quantity : Int
  executedAt : Nat
  deriving DecidableEq, Repr

structure State where
  orderIdSeq : Nat := 0
  orders : OrderedMap Nat Order := ∅
  tradeHistory : List Trade := []

/-- An error of a request with its HTTP status. -/
structure ServiceError where
  message : String
  status : Nat
  deriving DecidableEq, Repr

/-- Whether an order is open or partially filled. -/
def Order.active (order : Order) : Bool :=
  order.status = .opened ∨ order.status = .partiallyFilled

/-- Negative when the first order comes before the second: the better price for the aggressor
first, then the older order. -/
def compareResting (side : Side) (first second : Order) : Int :=
  let priceCmp := match side with
    | .buy => first.price - second.price
    | .sell => second.price - first.price
  if priceCmp ≠ 0 then priceCmp else (first.createdAt : Int) - second.createdAt

/-- The resting orders on the other side, in the order in which they are matched. -/
def restingOrders (orders : OrderedMap Nat Order) (aggressorId : Nat) (aggressor : Order) :
    List Order :=
  (orders.values.filter fun order =>
      order.id ≠ aggressorId ∧ order.side ≠ aggressor.side ∧ order.active).insertionSort
    fun first second => compareResting aggressor.side first second ≤ 0

def priceMatches (aggressor rest : Order) : Bool :=
  match aggressor.side with
  | .buy => decide (rest.price ≤ aggressor.price)
  | .sell => decide (aggressor.price ≤ rest.price)

def Order.fillBy (order : Order) (fillQty : Int) : Order :=
  { order with
    remaining := order.remaining - fillQty
    status := fillStatus (order.remaining - fillQty) }

def tradeOf (aggressor : Order) (aggressorId : Nat) (rest : Order) (fillQty : Int) (now : Nat) :
    Trade where
  buyOrderId := if aggressor.side = .buy then aggressorId else rest.id
  sellOrderId := if aggressor.side = .sell then aggressorId else rest.id
  price := rest.price
  quantity := fillQty
  executedAt := now

/-- The loop over the sorted resting orders; returns its trades with the state. -/
def sweep (aggressorId now : Nat) : List Order → Order → State → List Trade × State
  | [], _, state => ([], state)
  | rest :: others, aggressor, state =>
      if aggressor.remaining ≤ 0 then ([], state)
      else if priceMatches aggressor rest = false then ([], state)
      else
        let fillQty := min aggressor.remaining rest.remaining
        let trade := tradeOf aggressor aggressorId rest fillQty now
        let swept := sweep aggressorId now others (aggressor.fillBy fillQty)
          { state with
            orders := (state.orders.set aggressorId (aggressor.fillBy fillQty)).set rest.id
              (rest.fillBy fillQty)
            tradeHistory := state.tradeHistory ++ [trade] }
        (trade :: swept.1, swept.2)

def matchOrders (aggressorId now : Nat) (state : State) : List Trade × State :=
  match state.orders.get aggressorId with
  | none => ([], state)
  | some aggressor =>
      if aggressor.status = .filled ∨ aggressor.status = .cancelled then ([], state)
      else sweep aggressorId now (restingOrders state.orders aggressorId aggressor) aggressor state

/-- `throw Object.assign(new Error(message), { status })` when the condition fails. -/
def require (condition : Prop) [Decidable condition] (message : String) (status : Nat) :
    Except ServiceError Unit :=
  if condition then .ok () else .error { message, status }

def placeOrder (owner : String) (side : Side) (price quantity : Int) (now : Nat) (state : State) :
    Except ServiceError ((Option Order × List Trade) × State) := do
  require (owner ≠ "") "owner required" 400
  require (0 < price) "price must be a positive number" 400
  require (0 < quantity) "quantity must be a positive number" 400
  let id := state.orderIdSeq + 1
  let order : Order :=
    { id, owner, side, price, quantity, remaining := quantity, status := .opened, createdAt := now }
  let matched := matchOrders id now
    { state with orderIdSeq := id, orders := state.orders.set id order }
  return ((matched.2.orders.get id, matched.1), matched.2)

def cancelOrder (id : Nat) (owner : String) (state : State) :
    Except ServiceError (Order × State) :=
  match state.orders.get id with
  | none => .error { message := "Order not found", status := 404 }
  | some order => do
      require (order.owner = owner) "Not order owner" 403
      require (¬ (order.status = .filled ∨ order.status = .cancelled)) "Order is not active" 409
      let cancelled := { order with status := .cancelled }
      return (cancelled, { state with orders := state.orders.set id cancelled })

inductive Request where
  | placeOrder (owner : String) (side : Side) (price quantity : Int)
  | cancelOrder (id : Nat) (owner : String)

/-- The state that a request at a time leaves. -/
def handle (state : State) (request : Nat × Request) : Except ServiceError State :=
  match request.2 with
  | .placeOrder owner side price quantity =>
      Prod.snd <$> placeOrder owner side price quantity request.1 state
  | .cancelOrder id owner => Prod.snd <$> cancelOrder id owner state

def machine : CallMachine State (Nat × Request) ServiceError where
  exec := handle

end SorobanPlayground.OrderBookService
