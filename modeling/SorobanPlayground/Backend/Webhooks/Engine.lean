import SorobanPlayground.Library.CallMachine

/-! # The webhook delivery engine

A run of `processPendingDeliveries` reads a batch of due deliveries and then, for one after the
other, posts the delivery and writes the outcome into the row of the delivery and into that of its
subscription. The timer starts a run whether or not earlier ones have finished.
-/

namespace SorobanPlayground.WebhookService

def maxAttempts : Nat := 5

def circuitBreakerThreshold : Nat := 10

inductive Status where
  | pending
  | retrying
  | success
  | failed
  deriving DecidableEq, Repr

/-- `status IN ('pending', 'retrying')`. -/
def Status.Open (status : Status) : Prop := status = .pending ∨ status = .retrying

instance (status : Status) : Decidable status.Open :=
  inferInstanceAs (Decidable (status = .pending ∨ status = .retrying))

structure Delivery (SubscriptionId : Type) where
  subscription : SubscriptionId
  status : Status := .pending
  attempt : Nat := 0
  deriving DecidableEq, Repr

structure Subscription where
  active : Bool := true
  consecutiveFailures : Nat := 0
  deriving DecidableEq, Repr

/-- What a run reads of a due delivery and of its subscription. -/
structure Row (DeliveryId SubscriptionId : Type) where
  id : DeliveryId
  subscription : SubscriptionId
  attempt : Nat
  consecutiveFailures : Nat
  deriving DecidableEq, Repr

/-- Where a run waits with the first of its rows: before it posts, for the answer, before it writes
the delivery, and before it writes the subscription. -/
inductive Phase where
  | ready
  | posting
  | answered (success : Bool)
  | updated (success : Bool)
  deriving DecidableEq, Repr

structure Run (DeliveryId SubscriptionId : Type) where
  rows : List (Row DeliveryId SubscriptionId)
  phase : Phase := .ready
  deriving DecidableEq, Repr

/-- A post, with what had happened before it. -/
structure Post (DeliveryId : Type) where
  delivery : DeliveryId
  afterSuccess : Bool
  failures : Nat
  deriving DecidableEq, Repr

/-- A status that is written over another. -/
structure StatusChange where
  before : Status
  after : Status
  deriving DecidableEq, Repr

/-- The tables and the runs, with a record of the posts, of the deliveries of which one succeeded,
of the changes of a status, and of the failures that were recorded since the last success. -/
structure State (DeliveryId SubscriptionId : Type) where
  deliveries : DeliveryId → Option (Delivery SubscriptionId) := fun _ => none
  subscriptions : SubscriptionId → Option Subscription := fun _ => none
  runs : Nat → Option (Run DeliveryId SubscriptionId) := fun _ => none
  posts : List (Post DeliveryId) := []
  succeeded : List DeliveryId := []
  changes : List StatusChange := []
  failures : SubscriptionId → Nat := fun _ => 0

variable {DeliveryId SubscriptionId : Type}

/-- A row of the join, if its delivery is open and its subscription takes deliveries. -/
def readDue (state : State DeliveryId SubscriptionId) (id : DeliveryId) :
    Option (Row DeliveryId SubscriptionId) :=
  match state.deliveries id with
  | none => none
  | some delivery =>
      match state.subscriptions delivery.subscription with
      | none => none
      | some subscription =>
          if delivery.status.Open ∧ subscription.active = true ∧
              subscription.consecutiveFailures < circuitBreakerThreshold then
            some { id, subscription := delivery.subscription, attempt := delivery.attempt
                   consecutiveFailures := subscription.consecutiveFailures }
          else none

/-- The answer to a post; a network error has no status. -/
def isSuccess (status : Option Nat) : Bool :=
  match status with
  | none => false
  | some code => 200 ≤ code && code < 300

variable (row : Row DeliveryId SubscriptionId) (success : Bool)

def updateDelivery (delivery : Delivery SubscriptionId) : Delivery SubscriptionId :=
  let attempt := row.attempt + 1
  if success then { delivery with status := .success, attempt }
  else if maxAttempts ≤ attempt then { delivery with status := .failed, attempt }
  else { delivery with status := .retrying, attempt }

def updateSubscription (subscription : Subscription) : Subscription :=
  if success then { subscription with consecutiveFailures := 0 }
  else
    let newConsecutive := row.consecutiveFailures + 1
    if maxAttempts ≤ row.attempt + 1 then
      { consecutiveFailures := newConsecutive
        active := if circuitBreakerThreshold ≤ newConsecutive then false else subscription.active }
    else { subscription with consecutiveFailures := newConsecutive }

/-- `select` starts a run; `ids` are the deliveries whose time has come, in the order of the
database. Each other step of a run ends one of its waits. -/
inductive Event (DeliveryId SubscriptionId : Type) where
  | subscribe (subscription : SubscriptionId)
  | enqueue (delivery : DeliveryId) (subscription : SubscriptionId)
  | select (run : Nat) (ids : List DeliveryId)
  | post (run : Nat)
  | answer (run : Nat) (status : Option Nat)
  | updateDelivery (run : Nat)
  | updateSubscription (run : Nat)
  deriving DecidableEq, Repr

variable [DecidableEq DeliveryId] [DecidableEq SubscriptionId]

namespace State

variable (state : State DeliveryId SubscriptionId) (run : Nat)

def setRun (rows : List (Row DeliveryId SubscriptionId)) (phase : Phase) :
    State DeliveryId SubscriptionId :=
  { state with runs := Function.update state.runs run (some { rows, phase }) }

def select (ids : List DeliveryId) : State DeliveryId SubscriptionId :=
  state.setRun run (ids.filterMap (readDue state)) .ready

variable (row : Row DeliveryId SubscriptionId) (rest : List (Row DeliveryId SubscriptionId))

def post : State DeliveryId SubscriptionId :=
  { state.setRun run (row :: rest) .posting with
    posts := state.posts ++ [{
      delivery := row.id, afterSuccess := decide (row.id ∈ state.succeeded)
      failures := state.failures row.subscription }] }

def answer (success : Bool) : State DeliveryId SubscriptionId :=
  { state.setRun run (row :: rest) (.answered success) with
    succeeded := if success then row.id :: state.succeeded else state.succeeded }

def writeDelivery (success : Bool) : State DeliveryId SubscriptionId :=
  let written := state.setRun run (row :: rest) (.updated success)
  match state.deliveries row.id with
  | none => written
  | some delivery =>
      { written with
        deliveries :=
          Function.update state.deliveries row.id (some (updateDelivery row success delivery))
        changes := state.changes ++ [{
          before := delivery.status, after := (updateDelivery row success delivery).status }] }

def writeSubscription (success : Bool) : State DeliveryId SubscriptionId :=
  { state.setRun run rest .ready with
    subscriptions := Function.update state.subscriptions row.subscription
      ((state.subscriptions row.subscription).map (updateSubscription row success))
    failures := Function.update state.failures row.subscription
      (if success then 0 else state.failures row.subscription + 1) }

end State

def nextRow (state : State DeliveryId SubscriptionId) (run : Nat) :
    Option (Row DeliveryId SubscriptionId × List (Row DeliveryId SubscriptionId) × Phase) :=
  match state.runs run with
  | some { rows := row :: rest, phase } => some (row, rest, phase)
  | _ => none

def step (state : State DeliveryId SubscriptionId) :
    Event DeliveryId SubscriptionId → Option (State DeliveryId SubscriptionId)
  | .subscribe subscription =>
      if state.subscriptions subscription = none then
        some { state with
          subscriptions := Function.update state.subscriptions subscription (some {}) }
      else none
  | .enqueue delivery subscription =>
      if state.deliveries delivery = none ∧ state.subscriptions subscription ≠ none then
        some { state with
          deliveries := Function.update state.deliveries delivery (some { subscription }) }
      else none
  | .select run ids =>
      if (state.runs run).isNone ∧ ids.Nodup ∧ (ids.filterMap (readDue state)).length ≤ 50 then
        some (state.select run ids)
      else none
  | .post run =>
      match nextRow state run with
      | some (row, rest, .ready) => some (state.post run row rest)
      | _ => none
  | .answer run status =>
      match nextRow state run with
      | some (row, rest, .posting) => some (state.answer run row rest (isSuccess status))
      | _ => none
  | .updateDelivery run =>
      match nextRow state run with
      | some (row, rest, .answered success) => some (state.writeDelivery run row rest success)
      | _ => none
  | .updateSubscription run =>
      match nextRow state run with
      | some (row, rest, .updated success) => some (state.writeSubscription run row rest success)
      | _ => none

def machine (DeliveryId SubscriptionId : Type) [DecidableEq DeliveryId]
    [DecidableEq SubscriptionId] :
    CallMachine (State DeliveryId SubscriptionId) (Event DeliveryId SubscriptionId) Unit :=
  CallMachine.ofStep step

/-- A delivery is posted a bounded number of times and never after a post of it has succeeded, a
status that is not open stays, and the failures of a subscription are counted, which takes
deliveries exactly while fewer than the threshold are recorded. -/
structure Lawful (state : State DeliveryId SubscriptionId) : Prop where
  attempts : ∀ delivery, state.posts.countP (·.delivery = delivery) ≤ maxAttempts
  unrepeated : ∀ post ∈ state.posts, post.afterSuccess = false
  stopped : ∀ post ∈ state.posts, post.failures < circuitBreakerThreshold
  closed : ∀ change ∈ state.changes, ¬ change.before.Open → change.after = change.before
  counted : ∀ id subscription, state.subscriptions id = some subscription →
    subscription.consecutiveFailures = state.failures id
  taken : ∀ id subscription, state.subscriptions id = some subscription →
    (subscription.active = true ∧ subscription.consecutiveFailures < circuitBreakerThreshold ↔
      state.failures id < circuitBreakerThreshold)

/-- A run waits for the answer to a post or has not yet written the answer into the delivery. -/
def Phase.flies : Phase → Bool
  | .posting => true
  | .answered _ => true
  | _ => false

/-- The row whose delivery a run has in flight. -/
def flight (state : State DeliveryId SubscriptionId) (run : Nat) :
    Option (Row DeliveryId SubscriptionId) :=
  match nextRow state run with
  | some (row, _, phase) => if phase.flies then some row else none
  | none => none

/-- When a run posts a delivery, the rows are as the run read them, and no other run has the
delivery in flight; when it writes a subscription, the counter is as the run read it. -/
def Current (state : State DeliveryId SubscriptionId) :
    Event DeliveryId SubscriptionId → Prop
  | .post run => ∀ row rest, nextRow state run = some (row, rest, .ready) →
      (∃ delivery, state.deliveries row.id = some delivery ∧ delivery.status.Open ∧
        delivery.attempt = row.attempt) ∧
      (∃ subscription, state.subscriptions row.subscription = some subscription ∧
        subscription.consecutiveFailures = row.consecutiveFailures) ∧
      ∀ other otherRow, flight state other = some otherRow → otherRow.id ≠ row.id
  | .updateSubscription run => ∀ row rest success,
      nextRow state run = some (row, rest, .updated success) →
      ∀ subscription, state.subscriptions row.subscription = some subscription →
        subscription.consecutiveFailures = row.consecutiveFailures
  | _ => True

end SorobanPlayground.WebhookService
