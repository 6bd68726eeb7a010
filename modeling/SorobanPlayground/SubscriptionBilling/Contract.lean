import SorobanPlayground.Host

/-! # Subscription billing

A subscriber consents to a plan with an end and a number of cycles, and approves the contract as a
spender. Anyone may then pull one due payment at a time.
-/

namespace SorobanPlayground.SubscriptionBilling

inductive Error where
  | alreadyInitialized
  | notInitialized
  | unauthorized
  | paused
  | invalidConfig
  | planNotFound
  | planInactive
  | subscriptionNotFound
  | alreadySubscribed
  | subscriptionCancelled
  | notDue
  | authorizationNotStarted
  | authorizationExpired
  | cycleLimitReached
  | insufficientAllowance
  | insufficientBalance
  | overflow
  deriving DecidableEq, Repr

def maxNameLen : Nat := 128

/-- Ten years. -/
def maxInterval : Nat := 315360000

def maxAuthWindow : Nat := 315360000

structure Plan (Address : Type) where
  id : Nat
  merchant : Address
  name : String
  token : Address
  amount : Int
  interval : Nat
  active : Bool
  deriving DecidableEq, Repr

inductive SubscriptionStatus where
  | active
  | cancelled
  deriving DecidableEq, Repr

structure Authorization where
  /-- The first time at which a keeper may pull a payment. -/
  startsAt : Nat
  /-- The last time at which a payment may be pulled. -/
  endsAt : Nat
  maxCycles : Nat
  deriving DecidableEq, Repr

structure Subscription (Address : Type) where
  id : Nat
  planId : Nat
  subscriber : Address
  nextChargeAt : Nat
  endsAt : Nat
  maxCycles : Nat
  cyclesCharged : Nat
  totalCharged : Int
  status : SubscriptionStatus
  deriving DecidableEq, Repr

/-- The token contracts with allowances: a `transfer_from` that succeeds moves exactly the
requested amount. -/
structure AllowanceHost (Address Tokens : Type) [DecidableEq Address] where
  balance : Tokens → (token holder : Address) → Int
  allowance : Tokens → (token owner spender : Address) → Int
  transferFrom : Tokens → (token spender source destination : Address) → Int → Option Tokens
  moves_exactly : ∀ {tokens next token spender source destination amount},
    transferFrom tokens token spender source destination amount = some next →
      ∀ read holder, balance next read holder =
        balance tokens read holder + transferDelta token source destination amount read holder

/-- The standard token keeps balances and allowances; a transfer needs enough of both. -/
def standardAllowances {Address : Type} [DecidableEq Address] :
    AllowanceHost Address ((Address → Address → Int) × (Address → Address → Address → Int)) where
  balance tokens := tokens.1
  allowance tokens := tokens.2
  transferFrom tokens token spender source destination amount :=
    if 0 ≤ amount ∧ amount ≤ tokens.1 token source ∧ amount ≤ tokens.2 token source spender then
      some (fun read holder => tokens.1 read holder +
          transferDelta token source destination amount read holder,
        fun read owner reader => tokens.2 read owner reader -
          if read = token ∧ owner = source ∧ reader = spender then amount else 0)
    else none
  moves_exactly := by
    intro tokens next token spender source destination amount succeeded read holder
    split at succeeded
    · cases succeeded
      rfl
    · cases succeeded

structure State (Address Tokens : Type) [DecidableEq Address] where
  admin : Option Address := none
  paused : Option Bool := none
  planCounter : Option Nat := none
  subscriptionCounter : Option Nat := none
  plans : FiniteMap Nat (Plan Address) := ∅
  subscriptions : FiniteMap Nat (Subscription Address) := ∅
  subscriberPlans : FiniteMap (Address × Nat) Nat := ∅
  tokens : Tokens

variable {Address Tokens : Type} [DecidableEq Address] {contract : Address}
  (state : State Address Tokens)

def requireInitialized : Outcome Error Address := orError state.admin .notInitialized

def requireRunning : Outcome Error Unit := do
  let _ ← requireInitialized state
  ensure (¬ state.paused.getD false = true) .paused

def getPlan (id : Nat) : Outcome Error (Plan Address) := orError (state.plans.get id) .planNotFound

def setPlan (plan : Plan Address) : State Address Tokens :=
  { state with plans := state.plans.set plan.id plan }

def getSubscription (id : Nat) : Outcome Error (Subscription Address) :=
  orError (state.subscriptions.get id) .subscriptionNotFound

def setSubscription (subscription : Subscription Address) : State Address Tokens :=
  { state with subscriptions := state.subscriptions.set subscription.id subscription }

/-- The id that a counter gives out, and the counter's next value. -/
def nextId (counter : Option Nat) : Outcome Error (Nat × Nat) := do
  let id := counter.getD 1
  let next ← inUnsigned u64Max (.error .overflow) (id + 1)
  return (id, next)

variable (host : AllowanceHost Address Tokens) (env : Env Address contract)

def initializeBilling (admin : Address) (state : State Address Tokens) :
    Outcome Error (State Address Tokens) := do
  ensure (¬ state.admin.isSome = true) .alreadyInitialized
  requireAuth env admin
  return { state with admin := some admin, paused := some false }

def setPaused (paused : Bool) (state : State Address Tokens) :
    Outcome Error (State Address Tokens) := do
  let admin ← requireInitialized state
  requireAuth env admin
  return { state with paused := some paused }

/-- Create a plan of a merchant; returns its id. -/
def createPlan (merchant : Address) (name : String) (token : Address) (amount : Int)
    (interval : Nat) (state : State Address Tokens) :
    Outcome Error (Nat × State Address Tokens) := do
  requireRunning state
  requireAuth env merchant
  ensure (¬ (name.utf8ByteSize = 0 ∨ maxNameLen < name.utf8ByteSize ∨ amount ≤ 0 ∨ interval = 0 ∨
    maxInterval < interval)) .invalidConfig
  let issued ← nextId state.planCounter
  return (issued.1, setPlan { state with planCounter := some issued.2 }
    { id := issued.1, merchant, name, token, amount, interval, active := true })

def setPlanActive (planId : Nat) (active : Bool) (state : State Address Tokens) :
    Outcome Error (State Address Tokens) := do
  requireRunning state
  let plan ← getPlan state planId
  requireAuth env plan.merchant
  return setPlan state { plan with active }

/-- A subscription that can no longer be charged. -/
def Subscription.terminal (subscription : Subscription Address) (now : Nat) : Prop :=
  subscription.status = .cancelled ∨ subscription.endsAt < now ∨
    subscription.maxCycles ≤ subscription.cyclesCharged

instance (subscription : Subscription Address) (now : Nat) :
    Decidable (subscription.terminal now) :=
  inferInstanceAs (Decidable (_ ∨ _ ∨ _))

/-- An earlier subscription to the same plan must be over. -/
def ensureTerminal (state : State Address Tokens) (now : Nat) (existingId : Option Nat) :
    Outcome Error Unit :=
  match existingId with
  | none => .ok ()
  | some existingId => do
      let existing ← getSubscription state existingId
      ensure (existing.terminal now) .alreadySubscribed

/-- Record the consent of a subscriber; returns the id of the subscription. -/
def subscribe (subscriber : Address) (planId : Nat) (authorization : Authorization)
    (state : State Address Tokens) : Outcome Error (Nat × State Address Tokens) := do
  requireRunning state
  requireAuth env subscriber
  let plan ← getPlan state planId
  ensure (plan.active = true) .planInactive
  let now := env.timestamp
  ensure (¬ (authorization.maxCycles = 0 ∨ authorization.endsAt < authorization.startsAt ∨
    authorization.endsAt < now ∨ maxAuthWindow < authorization.endsAt - now)) .invalidConfig
  let _ ← checkedMul (.error .overflow) plan.amount authorization.maxCycles
  ensureTerminal state now (state.subscriberPlans.get (subscriber, planId))
  ensure (plan.amount ≤ host.allowance state.tokens plan.token subscriber contract)
    .insufficientAllowance
  let issued ← nextId state.subscriptionCounter
  let nextChargeAt := if authorization.startsAt < now then now else authorization.startsAt
  let recorded := setSubscription { state with subscriptionCounter := some issued.2 }
    { id := issued.1, planId, subscriber, nextChargeAt, endsAt := authorization.endsAt,
      maxCycles := authorization.maxCycles, cyclesCharged := 0, totalCharged := 0,
      status := .active }
  return (issued.1, { recorded with
    subscriberPlans := state.subscriberPlans.set (subscriber, planId) issued.1 })

/-- `token_client.transfer_from(&vault, &source, &destination, &amount)`. -/
def pull (vault token source destination : Address) (amount : Int) (tokens : Tokens) :
    Outcome Error Tokens :=
  orTrap (host.transferFrom tokens token vault source destination amount)

/-- Pull one payment that is due; returns its amount. -/
def charge (subscriptionId : Nat) (state : State Address Tokens) :
    Outcome Error (Int × State Address Tokens) := do
  requireRunning state
  let subscription ← getSubscription state subscriptionId
  ensure (subscription.status ≠ .cancelled) .subscriptionCancelled
  ensure (state.subscriberPlans.get (subscription.subscriber, subscription.planId) =
    some subscriptionId) .alreadySubscribed
  let now := env.timestamp
  ensure (¬ now < subscription.nextChargeAt)
    (if subscription.cyclesCharged = 0 then .authorizationNotStarted else .notDue)
  ensure (¬ subscription.endsAt < now) .authorizationExpired
  ensure (¬ subscription.maxCycles ≤ subscription.cyclesCharged) .cycleLimitReached
  let plan ← getPlan state subscription.planId
  ensure (plan.amount ≤ host.allowance state.tokens plan.token subscription.subscriber contract)
    .insufficientAllowance
  ensure (plan.amount ≤ host.balance state.tokens plan.token subscription.subscriber)
    .insufficientBalance
  let cyclesCharged ← inUnsigned u32Max (.error .overflow) (subscription.cyclesCharged + 1)
  let totalCharged ← checkedAdd (.error .overflow) subscription.totalCharged plan.amount
  let nextChargeAt ← inUnsigned u64Max (.error .overflow) (now + plan.interval)
  let charged := setSubscription state
    { subscription with cyclesCharged, totalCharged, nextChargeAt }
  let tokens ← pull host contract plan.token subscription.subscriber plan.merchant plan.amount
    state.tokens
  return (plan.amount, { charged with tokens })

/-- Renew or reduce the consent of a subscriber. -/
def updateAuthorization (subscriptionId endsAt maxCycles : Nat) (state : State Address Tokens) :
    Outcome Error (State Address Tokens) := do
  requireRunning state
  let subscription ← getSubscription state subscriptionId
  requireAuth env subscription.subscriber
  ensure (subscription.status ≠ .cancelled) .subscriptionCancelled
  ensure (state.subscriberPlans.get (subscription.subscriber, subscription.planId) =
    some subscriptionId) .alreadySubscribed
  let now := env.timestamp
  ensure (¬ (endsAt < now ∨ maxAuthWindow < endsAt - now ∨ maxCycles < subscription.cyclesCharged))
    .invalidConfig
  let plan ← getPlan state subscription.planId
  let _ ← checkedMul (.error .overflow) plan.amount maxCycles
  return setSubscription state { subscription with endsAt, maxCycles }

/-- A cancelled subscription leaves the index, if the index holds it. -/
def unindex (subscription : Subscription Address) (subscriptionId : Nat)
    (state : State Address Tokens) : State Address Tokens :=
  if state.subscriberPlans.get (subscription.subscriber, subscription.planId) =
      some subscriptionId then
    { state with subscriberPlans :=
        state.subscriberPlans.remove (subscription.subscriber, subscription.planId) }
  else state

/-- The subscriber or the merchant ends a subscription for good. -/
def cancel (caller : Address) (subscriptionId : Nat) (state : State Address Tokens) :
    Outcome Error (State Address Tokens) := do
  let _ ← requireInitialized state
  requireAuth env caller
  let subscription ← getSubscription state subscriptionId
  let plan ← getPlan state subscription.planId
  ensure (¬ (caller ≠ subscription.subscriber ∧ caller ≠ plan.merchant)) .unauthorized
  ensure (subscription.status ≠ .cancelled) .subscriptionCancelled
  let cancelled := { subscription with status := .cancelled }
  return unindex cancelled subscriptionId (setSubscription state cancelled)

/-- The calls of the contract, and what happens at the token contracts between them. -/
inductive Operation (Address Tokens : Type) where
  | initializeBilling (admin : Address)
  | setPaused (paused : Bool)
  | createPlan (merchant : Address) (name : String) (token : Address) (amount : Int)
      (interval : Nat)
  | setPlanActive (planId : Nat) (active : Bool)
  | subscribe (subscriber : Address) (planId : Nat) (authorization : Authorization)
  | charge (subscriptionId : Nat)
  | updateAuthorization (subscriptionId endsAt maxCycles : Nat)
  | cancel (caller : Address) (subscriptionId : Nat)
  | tokens (next : Tokens)

/-- The state that a call leaves. -/
def dispatch (state : State Address Tokens)
    (call : Env Address contract × Operation Address Tokens) :
    Outcome Error (State Address Tokens) :=
  match call.2 with
  | .initializeBilling admin => initializeBilling call.1 admin state
  | .setPaused paused => setPaused call.1 paused state
  | .createPlan merchant name token amount interval =>
      Prod.snd <$> createPlan call.1 merchant name token amount interval state
  | .setPlanActive planId active => setPlanActive call.1 planId active state
  | .subscribe subscriber planId authorization =>
      Prod.snd <$> subscribe host call.1 subscriber planId authorization state
  | .charge subscriptionId => Prod.snd <$> charge host call.1 subscriptionId state
  | .updateAuthorization subscriptionId endsAt maxCycles =>
      updateAuthorization call.1 subscriptionId endsAt maxCycles state
  | .cancel caller subscriptionId => cancel call.1 caller subscriptionId state
  | .tokens next => .ok { state with tokens := next }

def machine (contract : Address) :
    CallMachine (State Address Tokens) (Env Address contract × Operation Address Tokens)
      (Failure Error) where
  exec := dispatch host

end SorobanPlayground.SubscriptionBilling
