import SorobanPlayground.SubscriptionBilling.Contract

/-! # The consent of subscribers

What a subscriber authorized is recorded beside the contract, with every payment pulled under it.
The payments stay within the consent, and only the subscription that the index of its subscriber
and plan names can be charged again.
-/

namespace SorobanPlayground.SubscriptionBilling

open Function

/-- A payment that was pulled, with the end of the authorization in force at that time. -/
structure Charge where
  time : Nat
  amount : Int
  endsAt : Nat
  deriving DecidableEq, Repr

/-- What a subscriber authorized last, and the payments so far, the last one first. -/
structure Consent where
  startsAt : Nat := 0
  endsAt : Nat := 0
  maxCycles : Nat := 0
  charges : List Charge := []
  /-- The number of payments at the time of the cancellation. -/
  chargedAtCancel : Option Nat := none
  deriving DecidableEq, Repr

variable {Address Tokens : Type} [DecidableEq Address] {contract : Address}

/-- A payment under a consent. -/
def Consent.pay (consent : Consent) (time : Nat) (amount : Int) : Consent :=
  { consent with charges := { time, amount, endsAt := consent.endsAt } :: consent.charges }

/-- The amount that a payment returns. -/
def chargedAmount (host : AllowanceHost Address Tokens) (env : Env Address contract) (id : Nat)
    (state : State Address Tokens) : Int :=
  match charge host env id state with
  | .ok (amount, _) => amount
  | .error _ => 0

/-- The consents of the subscriptions follow the calls. What a subscriber did not authorize is
not recorded. -/
def follow (host : AllowanceHost Address Tokens) (state : State Address Tokens)
    (call : Env Address contract × Operation Address Tokens) (_next : State Address Tokens)
    (consents : Nat → Consent) : Nat → Consent :=
  match call.2 with
  | .subscribe subscriber _ authorization =>
      if subscriber ∈ call.1.auths then
        Function.update consents (state.subscriptionCounter.getD 1)
          { startsAt := authorization.startsAt, endsAt := authorization.endsAt,
            maxCycles := authorization.maxCycles }
      else consents
  | .updateAuthorization id endsAt maxCycles =>
      match state.subscriptions.get id with
      | some subscription =>
          if subscription.subscriber ∈ call.1.auths then
            Function.update consents id { consents id with endsAt, maxCycles }
          else consents
      | none => consents
  | .charge id =>
      Function.update consents id
        ((consents id).pay call.1.timestamp (chargedAmount host call.1 id state))
  | .cancel _ id =>
      Function.update consents id
        { consents id with chargedAtCancel := some (consents id).charges.length }
  | _ => consents

/-- The payments of a subscription are within the consent of its subscriber. -/
structure Honoured (plan : Plan Address) (subscription : Subscription Address)
    (consent : Consent) : Prop where
  pulled : (consent.charges.map Charge.amount).sum = subscription.cyclesCharged * plan.amount
  bounded : subscription.cyclesCharged ≤ consent.maxCycles
  spaced : consent.charges.IsChain fun later earlier => earlier.time + plan.interval ≤ later.time
  started : ∀ charge ∈ consent.charges, consent.startsAt ≤ charge.time
  ended : ∀ charge ∈ consent.charges, charge.time ≤ charge.endsAt
  stopped : ∀ count, consent.chargedAtCancel = some count → consent.charges.length = count

variable {host : AllowanceHost Address Tokens} {env : Env Address contract}
  {state next : State Address Tokens}

theorem createPlan_eq_ok {merchant : Address} {name : String} {token : Address} {amount : Int}
    {interval id : Nat}
    (ran : createPlan env merchant name token amount interval state = .ok (id, next)) :
    id = state.planCounter.getD 1 ∧
      next = setPlan { state with planCounter := some (id + 1) }
        { id, merchant, name, token, amount, interval, active := true } := by
  simp only [createPlan, nextId, call_ok, arith_ok] at ran
  obtain ⟨-, -, _, -, _, ⟨-, rfl⟩, rfl, rfl⟩ := ran
  exact ⟨rfl, rfl⟩

theorem setPlanActive_eq_ok {planId : Nat} {active : Bool}
    (ran : setPlanActive env planId active state = .ok next) :
    ∃ plan, state.plans.get planId = some plan ∧ next = setPlan state { plan with active } := by
  simp only [setPlanActive, getPlan, call_ok] at ran
  obtain ⟨_, -, plan, got, _, -, rfl⟩ := ran
  exact ⟨plan, got, rfl⟩

/-- The subscription that `subscribe` records. -/
def subscribed (env : Env Address contract) (subscriber : Address) (planId id : Nat)
    (authorization : Authorization) : Subscription Address where
  id := id
  planId := planId
  subscriber := subscriber
  nextChargeAt := if authorization.startsAt < env.timestamp then env.timestamp
    else authorization.startsAt
  endsAt := authorization.endsAt
  maxCycles := authorization.maxCycles
  cyclesCharged := 0
  totalCharged := 0
  status := .active

variable {authorization : Authorization}

theorem subscribe_eq_ok {subscriber : Address} {planId id : Nat}
    (ran : subscribe host env subscriber planId authorization state = .ok (id, next)) :
    subscriber ∈ env.auths ∧ id = state.subscriptionCounter.getD 1 ∧
      (∃ plan, state.plans.get planId = some plan) ∧
      next = { state with
        subscriptionCounter := some (id + 1)
        subscriptions := state.subscriptions.set id
          (subscribed env subscriber planId id authorization)
        subscriberPlans := state.subscriberPlans.set (subscriber, planId) id } := by
  simp only [subscribe, nextId, getPlan, bind_eq_ok, requireAuth_eq_ok, exists_const, orError_eq_ok,
    arith_ok, pure_eq_ok, Prod.mk.injEq] at ran
  obtain ⟨_, -, signed, plan, got, _, -, _, -, -, _, -, _, -, -, rfl, rfl⟩ := ran
  exact ⟨signed, rfl, ⟨plan, got⟩, rfl⟩

/-- The subscription that a payment at a time leaves. -/
def Subscription.charged (subscription : Subscription Address) (plan : Plan Address) (now : Nat) :
    Subscription Address :=
  { subscription with
    cyclesCharged := subscription.cyclesCharged + 1
    totalCharged := subscription.totalCharged + plan.amount
    nextChargeAt := now + plan.interval }

/-- What a payment finds. -/
structure Due (now id : Nat) (state : State Address Tokens) (subscription : Subscription Address)
    (plan : Plan Address) : Prop where
  stored : state.subscriptions.get id = some subscription
  active : subscription.status ≠ .cancelled
  indexed : state.subscriberPlans.get (subscription.subscriber, subscription.planId) = some id
  due : subscription.nextChargeAt ≤ now
  unexpired : now ≤ subscription.endsAt
  below : subscription.cyclesCharged < subscription.maxCycles
  planned : state.plans.get subscription.planId = some plan

theorem charge_eq_ok {id : Nat} {amount : Int}
    (ran : charge host env id state = .ok (amount, next)) :
    ∃ subscription plan tokens, Due env.timestamp id state subscription plan ∧
      amount = plan.amount ∧
      host.transferFrom state.tokens plan.token contract subscription.subscriber plan.merchant
        plan.amount = some tokens ∧
      next = { setSubscription state (subscription.charged plan env.timestamp) with tokens } := by
  simp only [charge, pull, getSubscription, getPlan, call_ok, orTrap_eq_ok, arith_ok,
    not_lt, not_le] at ran
  obtain ⟨_, -, subscription, got, active, indexed, due, unexpired, below, plan, planned, -, -,
    -, -, -, tokens, transferred, rfl, rfl⟩ := ran
  exact ⟨subscription, plan, tokens, ⟨got, active, indexed, due, unexpired, below, planned⟩, rfl,
    transferred, rfl⟩

theorem updateAuthorization_eq_ok {id endsAt maxCycles : Nat}
    (ran : updateAuthorization env id endsAt maxCycles state = .ok next) :
    ∃ subscription, state.subscriptions.get id = some subscription ∧
      subscription.subscriber ∈ env.auths ∧ subscription.status ≠ .cancelled ∧
      subscription.cyclesCharged ≤ maxCycles ∧
      next = setSubscription state { subscription with endsAt, maxCycles } := by
  simp only [updateAuthorization, getSubscription, getPlan, call_ok] at ran
  obtain ⟨_, -, subscription, got, signed, active, -, _, _, -, _, -, rfl⟩ := ran
  exact ⟨subscription, got, signed, active, by omega, rfl⟩

theorem cancel_eq_ok {caller : Address} {id : Nat} (ran : cancel env caller id state = .ok next) :
    ∃ subscription, state.subscriptions.get id = some subscription ∧
      next = unindex { subscription with status := .cancelled } id
        (setSubscription state { subscription with status := .cancelled }) := by
  simp only [cancel, getSubscription, getPlan, call_ok] at ran
  obtain ⟨-, _, -, subscription, got, _, -, _, -, _, -, rfl⟩ := ran
  exact ⟨subscription, got, rfl⟩

/-- What a subscription stores agrees with the consent of its subscriber. -/
structure Agrees (amount : Int) (interval : Nat) (subscription : Subscription Address)
    (consent : Consent) : Prop where
  endsAt_eq : subscription.endsAt = consent.endsAt
  maxCycles_eq : subscription.maxCycles = consent.maxCycles
  counted : consent.charges.length = subscription.cyclesCharged
  below : subscription.cyclesCharged ≤ subscription.maxCycles
  pulled : (consent.charges.map Charge.amount).sum = subscription.cyclesCharged * amount
  startsAt_le : consent.startsAt ≤ subscription.nextChargeAt
  spaced : consent.charges.Pairwise fun later earlier => earlier.time + interval ≤ later.time
  next_le : ∀ charge ∈ consent.charges, charge.time + interval ≤ subscription.nextChargeAt
  started : ∀ charge ∈ consent.charges, consent.startsAt ≤ charge.time
  ended : ∀ charge ∈ consent.charges, charge.time ≤ charge.endsAt
  stopped : ∀ count, consent.chargedAtCancel = some count →
    subscription.status = .cancelled ∧ consent.charges.length = count

variable {plan : Plan Address}

namespace Agrees

variable {amount : Int} {interval : Nat} {subscription : Subscription Address} {consent : Consent}

section

omit [DecidableEq Address]

theorem honoured (agrees : Agrees plan.amount plan.interval subscription consent) :
    Honoured plan subscription consent where
  pulled := agrees.pulled
  bounded := agrees.below.trans agrees.maxCycles_eq.le
  spaced := agrees.spaced.isChain
  started := agrees.started
  ended := agrees.ended
  stopped count cancelled := (agrees.stopped count cancelled).2

theorem start (env : Env Address contract) (subscriber : Address) (planId id : Nat)
    (authorization : Authorization) :
    Agrees amount interval (subscribed env subscriber planId id authorization)
      { startsAt := authorization.startsAt, endsAt := authorization.endsAt,
        maxCycles := authorization.maxCycles } where
  endsAt_eq := rfl
  maxCycles_eq := rfl
  counted := rfl
  below := Nat.zero_le _
  pulled := by simp [subscribed]
  startsAt_le := by
    simp only [subscribed]
    split <;> omega
  spaced := List.Pairwise.nil
  next_le := by simp
  started := by simp
  ended := by simp
  stopped := by simp

end

theorem charge {now id : Nat} {state : State Address Tokens}
    (agrees : Agrees plan.amount plan.interval subscription consent)
    (due : Due now id state subscription plan) :
    Agrees plan.amount plan.interval (subscription.charged plan now)
      (consent.pay now plan.amount) where
  endsAt_eq := agrees.endsAt_eq
  maxCycles_eq := agrees.maxCycles_eq
  counted := by simp [Consent.pay, Subscription.charged, agrees.counted]
  below := due.below
  pulled := by
    simp only [Consent.pay, Subscription.charged, List.map_cons, List.sum_cons, agrees.pulled]
    push_cast
    rw [Int.add_mul, Int.one_mul, Int.add_comm]
  startsAt_le := by
    have started := agrees.startsAt_le.trans due.due
    simp only [Consent.pay, Subscription.charged]
    omega
  spaced := by
    apply List.Pairwise.cons _ agrees.spaced
    intro earlier mem
    exact (agrees.next_le earlier mem).trans due.due
  next_le := by
    have later := due.due
    simp only [Consent.pay, Subscription.charged, List.forall_mem_cons]
    refine ⟨le_rfl, fun earlier mem => ?_⟩
    have spaced := agrees.next_le earlier mem
    omega
  started := by
    simp only [Consent.pay, List.forall_mem_cons]
    exact ⟨agrees.startsAt_le.trans due.due, agrees.started⟩
  ended := by
    simp only [Consent.pay, List.forall_mem_cons]
    exact ⟨due.unexpired.trans agrees.endsAt_eq.le, agrees.ended⟩
  stopped count cancelled := absurd (agrees.stopped count cancelled).1 due.active

omit [DecidableEq Address]

theorem authorize {endsAt maxCycles : Nat} (agrees : Agrees amount interval subscription consent)
    (covered : subscription.cyclesCharged ≤ maxCycles) :
    Agrees amount interval { subscription with endsAt, maxCycles }
      { consent with endsAt, maxCycles } :=
  { agrees with
    endsAt_eq := rfl
    maxCycles_eq := rfl
    below := covered }

theorem cancel (agrees : Agrees amount interval subscription consent) :
    Agrees amount interval { subscription with status := .cancelled }
      { consent with chargedAtCancel := some consent.charges.length } :=
  { agrees with
    stopped := by
      intro count cancelled
      exact ⟨rfl, Option.some.inj cancelled⟩ }

end Agrees

/-- Plans and subscriptions are stored under their ids, which the counters have given out, and
what is stored agrees with the consents. -/
structure Sound (run : State Address Tokens × (Nat → Consent)) : Prop where
  plan_named : ∀ id plan, run.1.plans.get id = some plan →
    plan.id = id ∧ id < run.1.planCounter.getD 1
  named : ∀ id subscription, run.1.subscriptions.get id = some subscription →
    subscription.id = id ∧ id < run.1.subscriptionCounter.getD 1
  agrees : ∀ id subscription, run.1.subscriptions.get id = some subscription →
    ∃ plan, run.1.plans.get subscription.planId = some plan ∧
      Agrees plan.amount plan.interval subscription (run.2 id)

variable {call : Env Address contract × Operation Address Tokens}

namespace Sound

variable {consents : Nat → Consent}

theorem initial (tokens : Tokens) :
    Sound (({ tokens } : State Address Tokens), fun _ => ({} : Consent)) where
  plan_named _ _ got := by cases got
  named _ _ got := by cases got
  agrees _ _ got := by cases got

variable (sound : Sound (state, consents))
include sound

theorem of_same (plans : next.plans = state.plans)
    (planCounter : next.planCounter = state.planCounter)
    (subscriptions : next.subscriptions = state.subscriptions)
    (subscriptionCounter : next.subscriptionCounter = state.subscriptionCounter) :
    Sound (next, consents) where
  plan_named := by
    simp only [plans, planCounter]
    exact sound.plan_named
  named := by
    simp only [subscriptions, subscriptionCounter]
    exact sound.named
  agrees := by
    simp only [plans, subscriptions]
    exact sound.agrees

theorem setPlan {planCounter : Option Nat} (grows : state.planCounter.getD 1 ≤ planCounter.getD 1)
    (named : plan.id < planCounter.getD 1) (terms : ∀ got, state.plans.get plan.id = some got →
      got.amount = plan.amount ∧ got.interval = plan.interval) :
    Sound (SubscriptionBilling.setPlan { state with planCounter } plan, consents) where
  plan_named := by
    apply forall_set
    · intro id got found
      obtain ⟨same, below⟩ := sound.plan_named id got found
      exact ⟨same, below.trans_le grows⟩
    · exact ⟨rfl, named⟩
  named := sound.named
  agrees id subscription got := by
    obtain ⟨found, planned, agrees⟩ := sound.agrees id subscription got
    change ∃ found, (state.plans.set plan.id plan).get subscription.planId = some found ∧ _
    rw [get_set]
    split
    · next same =>
      obtain ⟨amount, interval⟩ := terms found (same ▸ planned)
      rw [amount, interval] at agrees
      exact ⟨plan, rfl, agrees⟩
    · exact ⟨found, planned, agrees⟩

theorem revise {id : Nat} {subscription updated : Subscription Address} {consent : Consent}
    {tokens : Tokens} (got : state.subscriptions.get id = some subscription)
    (same : updated.id = subscription.id) (planId : updated.planId = subscription.planId)
    (agrees : ∀ plan, state.plans.get subscription.planId = some plan →
      Agrees plan.amount plan.interval subscription (consents id) →
        Agrees plan.amount plan.interval updated consent) :
    Sound ({ setSubscription state updated with tokens }, update consents id consent) := by
  obtain ⟨own, below⟩ := sound.named id subscription got
  have key : updated.id = id := same.trans own
  obtain ⟨plan, planned, before⟩ := sound.agrees id subscription got
  refine ⟨sound.plan_named, ?_, ?_⟩
  · apply forall_set
    · exact sound.named
    · rw [key]
      exact ⟨rfl, below⟩
  · intro other found
    change (state.subscriptions.set updated.id updated).get other = some found → _
    rw [key, get_set]
    by_cases here : other = id
    · subst here
      simp only [↓reduceIte, Option.some.injEq, update_self]
      rintro rfl
      exact ⟨plan, planId ▸ planned, agrees plan planned before⟩
    · simp only [here, ↓reduceIte, update_of_ne (Ne.intro here)]
      exact sound.agrees other found

theorem subscribe {env : Env Address contract}
    {subscriber : Address} {planId : Nat} (planned : ∃ plan, state.plans.get planId = some plan)
    {subscriberPlans : FiniteMap (Address × Nat) Nat} :
    Sound ({ state with
        subscriptionCounter := some (state.subscriptionCounter.getD 1 + 1)
        subscriptions := state.subscriptions.set (state.subscriptionCounter.getD 1)
          (subscribed env subscriber planId (state.subscriptionCounter.getD 1) authorization)
        subscriberPlans },
      update consents (state.subscriptionCounter.getD 1)
        { startsAt := authorization.startsAt, endsAt := authorization.endsAt,
          maxCycles := authorization.maxCycles }) := by
  refine ⟨sound.plan_named, ?_, ?_⟩
  · apply forall_set
    · intro id subscription got
      obtain ⟨same, below⟩ := sound.named id subscription got
      exact ⟨same, below.trans (Nat.lt_succ_self _)⟩
    · exact ⟨rfl, Nat.lt_succ_self _⟩
  · apply forall_set
    · intro id subscription got
      have ne : id ≠ state.subscriptionCounter.getD 1 :=
        (sound.named id subscription got).2.ne
      simp only [update_of_ne ne]
      exact sound.agrees id subscription got
    · obtain ⟨plan, planned⟩ := planned
      simp only [update_self]
      exact ⟨plan, planned, .start env subscriber planId _ authorization⟩

theorem step {host : AllowanceHost Address Tokens} (ran : dispatch host state call = .ok next) :
    Sound (next, follow host state call next consents) := by
  obtain ⟨env, op⟩ := call
  cases op with
  | initializeBilling =>
    simp only [dispatch, initializeBilling, call_ok] at ran
    obtain ⟨_, -, _, -, rfl⟩ := ran
    exact sound.of_same rfl rfl rfl rfl
  | setPaused =>
    simp only [dispatch, SubscriptionBilling.setPaused, call_ok] at ran
    obtain ⟨_, -, _, -, rfl⟩ := ran
    exact sound.of_same rfl rfl rfl rfl
  | createPlan =>
    obtain ⟨⟨id, after⟩, created, rfl⟩ := map_eq_ok.mp ran
    obtain ⟨rfl, rfl⟩ := createPlan_eq_ok created
    apply sound.setPlan (Nat.le_succ _) (Nat.lt_succ_self _)
    intro got found
    exact absurd (sound.plan_named _ got found).2 (Nat.lt_irrefl _)
  | setPlanActive planId =>
    obtain ⟨plan, got, rfl⟩ := setPlanActive_eq_ok ran
    obtain ⟨own, below⟩ := sound.plan_named planId plan got
    apply sound.setPlan le_rfl (own ▸ below)
    intro found same
    rw [own, got] at same
    cases same
    exact ⟨rfl, rfl⟩
  | subscribe =>
    obtain ⟨⟨id, after⟩, noted, rfl⟩ := map_eq_ok.mp ran
    obtain ⟨signed, rfl, planned, rfl⟩ := subscribe_eq_ok noted
    simp only [follow, signed, ↓reduceIte]
    exact sound.subscribe planned
  | charge id =>
    obtain ⟨⟨amount, _⟩, charged, rfl⟩ := map_eq_ok.mp ran
    have returned : chargedAmount host env id state = amount := by
      rw [chargedAmount, charged]
    obtain ⟨subscription, plan, tokens, due, rfl, -, rfl⟩ := charge_eq_ok charged
    simp only [follow, returned]
    have same : (subscription.charged plan env.timestamp).id = subscription.id := rfl
    apply sound.revise due.stored same rfl
    intro got planned agrees
    obtain rfl := Option.mem_unique due.planned planned
    exact agrees.charge due
  | updateAuthorization _ endsAt maxCycles =>
    obtain ⟨subscription, got, signed, -, covered, rfl⟩ :=
      updateAuthorization_eq_ok ran
    simp only [follow, got, signed, ↓reduceIte]
    have same : ({ subscription with endsAt, maxCycles } : Subscription Address).id =
        subscription.id := rfl
    exact sound.revise got same rfl fun _ _ agrees => agrees.authorize covered
  | cancel =>
    obtain ⟨subscription, got, rfl⟩ := cancel_eq_ok ran
    have same : ({ subscription with status := .cancelled } : Subscription Address).id =
        subscription.id := rfl
    have revised : Sound ({ setSubscription state { subscription with status := .cancelled } with
        tokens := state.tokens }, _) :=
      sound.revise got same rfl fun _ _ agrees => agrees.cancel
    unfold unindex
    split
    · exact revised.of_same rfl rfl rfl rfl
    · exact revised
  | tokens =>
    cases ran
    exact sound.of_same rfl rfl rfl rfl

end Sound

/-- A subscription of a subscriber to a plan that their index does not name. -/
structure Superseded (id : Nat) (pair : Address × Nat) (state : State Address Tokens) : Prop where
  stored : ∃ subscription, state.subscriptions.get id = some subscription ∧
    (subscription.subscriber, subscription.planId) = pair
  unindexed : state.subscriberPlans.get pair ≠ some id

namespace Superseded

variable {id : Nat} {pair : Address × Nat} (superseded : Superseded id pair state)
include superseded

theorem of_same (subscriptions : next.subscriptions = state.subscriptions)
    (subscriberPlans : next.subscriberPlans = state.subscriberPlans) : Superseded id pair next where
  stored := by
    rw [subscriptions]
    exact superseded.stored
  unindexed := by
    rw [subscriberPlans]
    exact superseded.unindexed

theorem revise {other : Nat} {subscription updated : Subscription Address}
    (stored : state.subscriptions.get other = some subscription) (key : updated.id = other)
    (same : (updated.subscriber, updated.planId) = (subscription.subscriber, subscription.planId)) :
    Superseded id pair (setSubscription state updated) where
  stored := by
    obtain ⟨own, found, names⟩ := superseded.stored
    change ∃ own, (state.subscriptions.set updated.id updated).get id = some own ∧ _
    rw [key, get_set]
    by_cases here : id = other
    · subst here
      cases found.symm.trans stored
      simp only [↓reduceIte, Option.some.injEq, exists_eq_left']
      exact same.trans names
    · simp only [here, ↓reduceIte]
      exact ⟨own, found, names⟩
  unindexed := superseded.unindexed

theorem step {host : AllowanceHost Address Tokens} {consents : Nat → Consent}
    (sound : Sound (state, consents))
    (ran : dispatch host state call = .ok next) : Superseded id pair next := by
  obtain ⟨env, op⟩ := call
  cases op with
  | initializeBilling =>
    simp only [dispatch, initializeBilling, call_ok] at ran
    obtain ⟨_, -, _, -, rfl⟩ := ran
    exact superseded.of_same rfl rfl
  | setPaused =>
    simp only [dispatch, SubscriptionBilling.setPaused, call_ok] at ran
    obtain ⟨_, -, _, -, rfl⟩ := ran
    exact superseded.of_same rfl rfl
  | createPlan =>
    obtain ⟨⟨id, after⟩, created, rfl⟩ := map_eq_ok.mp ran
    obtain ⟨rfl, rfl⟩ := createPlan_eq_ok created
    exact superseded.of_same rfl rfl
  | setPlanActive =>
    obtain ⟨plan, got, rfl⟩ := setPlanActive_eq_ok ran
    exact superseded.of_same rfl rfl
  | subscribe =>
    obtain ⟨⟨_, after⟩, noted, rfl⟩ := map_eq_ok.mp ran
    obtain ⟨-, rfl, -, rfl⟩ := subscribe_eq_ok noted
    obtain ⟨own, found, names⟩ := superseded.stored
    have older : id ≠ state.subscriptionCounter.getD 1 := (sound.named id own found).2.ne
    refine ⟨⟨own, ?_, names⟩, ?_⟩
    · exact (get_set_of_ne _ _ older).trans found
    · rw [get_set]
      split
      · intro named
        exact older (Option.some.inj named).symm
      · exact superseded.unindexed
  | charge other =>
    obtain ⟨⟨_, _⟩, charged, rfl⟩ := map_eq_ok.mp ran
    obtain ⟨subscription, plan, tokens, due, rfl, -, rfl⟩ := charge_eq_ok charged
    have key := (sound.named other subscription due.stored).1
    have revised : Superseded id pair
        (setSubscription state (subscription.charged plan env.timestamp)) :=
      superseded.revise due.stored key rfl
    exact revised.of_same rfl rfl
  | updateAuthorization other =>
    obtain ⟨subscription, got, -, -, -, rfl⟩ := updateAuthorization_eq_ok ran
    exact superseded.revise got (sound.named other subscription got).1 rfl
  | cancel _ other =>
    obtain ⟨subscription, got, rfl⟩ := cancel_eq_ok ran
    have revised : Superseded id pair
        (setSubscription state { subscription with status := .cancelled }) :=
      superseded.revise got (sound.named other subscription got).1 rfl
    unfold unindex
    split
    · refine ⟨revised.stored, ?_⟩
      rw [get_remove]
      split
      · simp
      · exact revised.unindexed
    · exact revised
  | tokens =>
    cases ran
    exact superseded.of_same rfl rfl

end Superseded

variable (host : AllowanceHost Address Tokens) (contract)

def CanCharge (state : State Address Tokens) (id : Nat) : Prop :=
  ∃ (calls : List (Env Address contract × Operation Address Tokens)) (env : Env Address contract)
    (amount : Int) (next : State Address Tokens),
    charge host env id ((machine host contract).run state calls) = .ok (amount, next)

/-- A payment moves its amount of the plan's token from the subscriber to the merchant, and
nothing else. -/
def PaymentMoves (state : State Address Tokens)
    (call : Env Address contract × Operation Address Tokens) : Prop :=
  ∀ id amount next, call.2 = .charge id → charge host call.1 id state = .ok (amount, next) →
    ∃ subscription plan, state.subscriptions.get id = some subscription ∧
      state.plans.get subscription.planId = some plan ∧ amount = plan.amount ∧
      ∀ read holder, host.balance next.tokens read holder =
        host.balance state.tokens read holder +
          transferDelta plan.token subscription.subscriber plan.merchant amount read holder

variable {host contract}

theorem paymentMoves (state : State Address Tokens)
    (call : Env Address contract × Operation Address Tokens) :
    PaymentMoves contract host state call := by
  intro id amount next _ charged
  obtain ⟨subscription, plan, _, due, rfl, transferred, rfl⟩ := charge_eq_ok charged
  exact ⟨subscription, plan, due.stored, due.planned, rfl, host.moves_exactly transferred⟩

theorem CanCharge.indexed {state : State Address Tokens} {consents : Nat → Consent} {id : Nat}
    {subscription : Subscription Address} (can : CanCharge contract host state id)
    (sound : Sound (state, consents)) (got : state.subscriptions.get id = some subscription) :
    state.subscriberPlans.get (subscription.subscriber, subscription.planId) = some id := by
  by_contra unindexed
  obtain ⟨calls, _, _, next, charged⟩ := can
  have superseded : (∃ consents, Sound ((machine host contract).run state calls, consents)) ∧
      Superseded id (subscription.subscriber, subscription.planId)
        ((machine host contract).run state calls) := by
    have kept : ∀ (state : State Address Tokens) call next,
        ((∃ consents, Sound (state, consents)) ∧
          Superseded id (subscription.subscriber, subscription.planId) state) →
        (machine host contract).exec state call = .ok next →
        (∃ consents, Sound (next, consents)) ∧
          Superseded id (subscription.subscriber, subscription.planId) next := by
      intro state call next held ran
      obtain ⟨⟨consents, sound⟩, superseded⟩ := held
      exact ⟨⟨_, sound.step ran⟩, superseded.step sound ran⟩
    apply run_invariant kept
    exact ⟨⟨consents, sound⟩, ⟨subscription, got, rfl⟩, unindexed⟩
  obtain ⟨_, _, _, due, -⟩ := charge_eq_ok charged
  obtain ⟨-, ⟨_, names, same⟩, off⟩ := superseded
  obtain rfl := Option.mem_unique due.stored names
  rw [← same] at off
  exact off due.indexed

/-- In every state that a run reaches, the payments of every subscription are within the consent
of its subscriber, and at most one subscription of a subscriber to a plan can be charged again.
Every payment of the run moves the amount of the plan. -/
theorem billing_within_consent (tokens : Tokens)
    (calls : List (Env Address contract × Operation Address Tokens)) :
    let run := ((machine host contract).withGhost (follow host)).run
      (({ tokens } : State Address Tokens), fun _ => {}) calls
    (∀ id subscription, run.1.subscriptions.get id = some subscription →
      ∃ plan, run.1.plans.get subscription.planId = some plan ∧
        Honoured plan subscription (run.2 id)) ∧
    (∀ first second one other, run.1.subscriptions.get first = some one →
      run.1.subscriptions.get second = some other → one.subscriber = other.subscriber →
      one.planId = other.planId → CanCharge contract host run.1 first →
      CanCharge contract host run.1 second → first = second) ∧
    (machine host contract).Meets (PaymentMoves contract host) { tokens } calls := by
  intro run
  have sound : Sound run := run_invariant
    (fun state call next held ran => by
      obtain ⟨stepped, followed⟩ := withGhost_exec_eq_ok.mp ran
      have before : Sound (state.1, state.2) := held
      have kept := before.step stepped
      rwa [← followed] at kept)
    (Sound.initial tokens) calls
  refine ⟨?_, ?_, meets_of_mem (fun call _ state => paymentMoves state call) _⟩
  · intro id subscription got
    obtain ⟨plan, planned, agrees⟩ := sound.agrees id subscription got
    exact ⟨plan, planned, agrees.honoured⟩
  · intro first second one other got found subscriber planId canFirst canSecond
    have named := canFirst.indexed sound got
    rw [subscriber, planId, canSecond.indexed sound found] at named
    exact (Option.some.inj named).symm

/-- A subscriber who authorizes two payments at most pays twice, and not a third time. -/
example :
    let env (now : Nat) : Env Nat 0 :=
      { timestamp := now, auths := [1, 2], contract_silent := zero_notMem_two_signers }
    let run := (machine (standardAllowances : AllowanceHost Nat _) 0).run
      { tokens := (fun _ _ => 100, fun _ _ _ => 100) }
      [(env 0, .initializeBilling 1), (env 0, .createPlan 1 "news" 9 20 30),
        (env 5, .subscribe 2 1 { startsAt := 10, endsAt := 90, maxCycles := 2 }),
        (env 9, .charge 1), (env 10, .charge 1), (env 39, .charge 1), (env 40, .charge 1),
        (env 70, .charge 1)]
    (run.subscriptions.get 1).map (fun subscription => subscription.cyclesCharged) = some 2 ∧
      run.tokens.1 9 2 = 60 := by
  decide

end SorobanPlayground.SubscriptionBilling
