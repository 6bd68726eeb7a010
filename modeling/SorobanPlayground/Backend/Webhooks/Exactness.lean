import SorobanPlayground.Backend.Webhooks.Engine

/-! # Exactness of the webhook delivery engine

While every run acts on rows that are as it read them, a delivery has at most one post in flight,
its attempts count its posts, and the counter of a subscription counts its recorded failures.
-/

namespace SorobanPlayground.WebhookService

open Function List Option

variable {DeliveryId SubscriptionId : Type} {event : Event DeliveryId SubscriptionId}

section Steps

variable [DecidableEq DeliveryId] [DecidableEq SubscriptionId]

inductive Effect (state : State DeliveryId SubscriptionId) :
    Event DeliveryId SubscriptionId → State DeliveryId SubscriptionId → Prop
  | subscribe {subscription : SubscriptionId} (absent : state.subscriptions subscription = none) :
      Effect state (.subscribe subscription) { state with
        subscriptions := Function.update state.subscriptions subscription (some {}) }
  | enqueue {delivery : DeliveryId} {subscription : SubscriptionId}
      (absent : state.deliveries delivery = none) :
      Effect state (.enqueue delivery subscription) { state with
        deliveries := Function.update state.deliveries delivery (some { subscription }) }
  | select {run : Nat} {ids : List DeliveryId} (absent : state.runs run = none) :
      Effect state (.select run ids) (state.select run ids)
  | post {run : Nat} {row : Row DeliveryId SubscriptionId}
      {rest : List (Row DeliveryId SubscriptionId)}
      (waiting : nextRow state run = some (row, rest, .ready)) :
      Effect state (.post run) (state.post run row rest)
  | answer {run : Nat} {row : Row DeliveryId SubscriptionId}
      {rest : List (Row DeliveryId SubscriptionId)} {status : Option Nat}
      (waiting : nextRow state run = some (row, rest, .posting)) :
      Effect state (.answer run status) (state.answer run row rest (isSuccess status))
  | updateDelivery {run : Nat} {row : Row DeliveryId SubscriptionId}
      {rest : List (Row DeliveryId SubscriptionId)} {success : Bool}
      (waiting : nextRow state run = some (row, rest, .answered success)) :
      Effect state (.updateDelivery run) (state.writeDelivery run row rest success)
  | updateSubscription {run : Nat} {row : Row DeliveryId SubscriptionId}
      {rest : List (Row DeliveryId SubscriptionId)} {success : Bool}
      (waiting : nextRow state run = some (row, rest, .updated success)) :
      Effect state (.updateSubscription run) (state.writeSubscription run row rest success)

theorem Effect.of_exec {state next : State DeliveryId SubscriptionId}
    (ran : (machine DeliveryId SubscriptionId).exec state event = .ok next) :
    Effect state event next := by
  rw [machine, ofStep_exec_eq_ok] at ran
  cases event with
  | subscribe =>
    simp only [step, ite_none_right_eq_some, Option.some.injEq] at ran
    obtain ⟨gone, rfl⟩ := ran
    exact .subscribe gone
  | enqueue =>
    simp only [step, ite_none_right_eq_some, Option.some.injEq] at ran
    obtain ⟨⟨gone, -⟩, rfl⟩ := ran
    exact .enqueue gone
  | select =>
    simp only [step, ite_none_right_eq_some, Option.some.injEq] at ran
    obtain ⟨⟨gone, -, -⟩, rfl⟩ := ran
    exact .select (isNone_iff_eq_none.mp gone)
  | post =>
    simp only [step] at ran
    split at ran
    · rename_i waiting
      cases ran
      exact .post waiting
    · cases ran
  | answer =>
    simp only [step] at ran
    split at ran
    · rename_i waiting
      cases ran
      exact .answer waiting
    · cases ran
  | updateDelivery =>
    simp only [step] at ran
    split at ran
    · rename_i waiting
      cases ran
      exact .updateDelivery waiting
    · cases ran
  | updateSubscription =>
    simp only [step] at ran
    split at ran
    · rename_i waiting
      cases ran
      exact .updateSubscription waiting
    · cases ran

end Steps

variable {state next : State DeliveryId SubscriptionId} {run : Nat}
  {row : Row DeliveryId SubscriptionId} {rest : List (Row DeliveryId SubscriptionId)}
  {phase : Phase} {success : Bool}

theorem flight_of_nextRow (waiting : nextRow state run = some (row, rest, phase)) :
    flight state run = if phase.flies then some row else none := by
  simp only [flight, waiting]

variable {rows : List (Row DeliveryId SubscriptionId)}

theorem nextRow_setRun : nextRow (state.setRun run rows phase) = update (nextRow state) run
    (rows.head?.map fun row => (row, rows.tail, phase)) := by
  funext other
  by_cases same : other = run
  · subst same
    cases rows with
    | nil => simp [nextRow, State.setRun]
    | cons => simp [nextRow, State.setRun]
  · simp only [nextRow, State.setRun, update_of_ne same]

theorem flight_setRun : flight (state.setRun run rows phase) = update (flight state) run
    (if phase.flies then rows.head? else none) := by
  funext other
  unfold flight
  rw [nextRow_setRun]
  by_cases same : other = run
  · subst same
    cases rows with
    | nil => simp
    | cons => simp
  · rw [update_of_ne same, update_of_ne same]

theorem nextRow_eq_some : nextRow state run = some (row, rest, phase) ↔
    state.runs run = some { rows := row :: rest, phase } := by
  unfold nextRow
  rcases state.runs run with - | ⟨- | ⟨_, _⟩, _⟩
  · simp
  · simp
  · simp [and_assoc]

/-- The counters agree with the failures that were recorded, and runs read counters below the
threshold. -/
structure Counted (state : State DeliveryId SubscriptionId) : Prop where
  counter : ∀ id subscription, state.subscriptions id = some subscription →
    subscription.consecutiveFailures = state.failures id ∧
      (subscription.active = true ∨ circuitBreakerThreshold ≤ subscription.consecutiveFailures)
  unsubscribed : ∀ id, state.subscriptions id = none → state.failures id = 0
  read : ∀ run progress, state.runs run = some progress → ∀ row ∈ progress.rows,
    row.consecutiveFailures < circuitBreakerThreshold ∧ state.subscriptions row.subscription ≠ none
  stopped : ∀ post ∈ state.posts, post.failures < circuitBreakerThreshold

theorem readDue_eq_some {id : DeliveryId} (due : readDue state id = some row) :
    row.consecutiveFailures < circuitBreakerThreshold ∧
      state.subscriptions row.subscription ≠ none := by
  unfold readDue at due
  split at due
  · cases due
  · split at due
    · cases due
    · rename_i subscription got
      split at due
      · rename_i open'
        cases due
        exact ⟨open'.2.2, by simp [got]⟩
      · cases due

namespace Counted

theorem start : Counted ({} : State DeliveryId SubscriptionId) where
  counter := by simp
  unsubscribed := by simp
  read := by simp
  stopped := by simp

variable (counted : Counted state)
include counted

theorem setRun (read : ∀ row ∈ rows, row.consecutiveFailures < circuitBreakerThreshold ∧
      state.subscriptions row.subscription ≠ none) : Counted (state.setRun run rows phase) where
  counter := counted.counter
  unsubscribed := counted.unsubscribed
  read := by
    intro other progress got
    simp only [State.setRun, update_apply] at got
    split at got
    · cases got
      exact read
    · exact counted.read other progress got
  stopped := counted.stopped

section

variable (waiting : nextRow state run = some (row, rest, phase))
include waiting

theorem mem_read :
    ∀ other ∈ row :: rest, other.consecutiveFailures < circuitBreakerThreshold ∧
      state.subscriptions other.subscription ≠ none :=
  counted.read run _ (nextRow_eq_some.mp waiting)

theorem post [DecidableEq DeliveryId]
    (current : ∃ subscription, state.subscriptions row.subscription = some subscription ∧
      subscription.consecutiveFailures = row.consecutiveFailures) :
    Counted (state.post run row rest) := by
  have kept : Counted (state.setRun run (row :: rest) .posting) :=
    counted.setRun (counted.mem_read waiting)
  refine ⟨kept.counter, kept.unsubscribed, kept.read, ?_⟩
  simp only [State.post, mem_append, mem_singleton]
  intro post mem
  rcases mem with mem | rfl
  · exact counted.stopped post mem
  · obtain ⟨_, got, same⟩ := current
    rw [← (counted.counter _ _ got).1, same]
    exact (counted.mem_read waiting row mem_cons_self).1

theorem writeSubscription [DecidableEq SubscriptionId]
    (current : ∀ subscription, state.subscriptions row.subscription = some subscription →
      subscription.consecutiveFailures = row.consecutiveFailures) :
    Counted (state.writeSubscription run row rest success) := by
  have readAll := counted.mem_read waiting
  have kept : Counted (state.setRun run rest .ready) :=
    counted.setRun fun other mem => readAll other (mem_cons_of_mem row mem)
  obtain ⟨_, -⟩ := readAll row mem_cons_self
  refine ⟨?_, ?_, ?_, kept.stopped⟩
  · intro id subscription got
    by_cases same : id = row.subscription
    · subst same
      simp only [State.writeSubscription, update_self, map_eq_some_iff] at got ⊢
      obtain ⟨before, here, rfl⟩ := got
      obtain ⟨counter, active⟩ := counted.counter _ _ here
      have grown : row.consecutiveFailures + 1 = state.failures row.subscription + 1 := by
        rw [← current before here, counter]
      have running : before.active = true := by
        rcases active with active | _
        · exact active
        · omega
      unfold updateSubscription
      cases success with
      | true => exact ⟨rfl, .inl running⟩
      | false =>
        simp only [Bool.false_eq_true, ↓reduceIte]
        split
        · refine ⟨grown, ?_⟩
          by_cases trips : circuitBreakerThreshold ≤ row.consecutiveFailures + 1
          · exact .inr trips
          · simp only [trips, ↓reduceIte]
            exact .inl running
        · exact ⟨grown, .inl running⟩
    · simp only [State.writeSubscription, update_of_ne same] at got ⊢
      exact counted.counter id subscription got
  · intro id gone
    have ne : id ≠ row.subscription := by
      rintro rfl
      simp only [State.writeSubscription, update_self, map_eq_none_iff] at gone
      exact (readAll row mem_cons_self).2 gone
    simp only [State.writeSubscription, update_of_ne ne] at gone ⊢
    exact counted.unsubscribed id gone
  · intro other progress got later mem
    obtain ⟨low, known⟩ := kept.read other progress got later mem
    refine ⟨low, ?_⟩
    simp only [State.writeSubscription, update_apply]
    split
    · rename_i same
      rw [same] at known
      simpa [State.setRun] using known
    · exact known

end

theorem step [DecidableEq DeliveryId] [DecidableEq SubscriptionId] (current : Current state event)
    (effect : Effect state event next) : Counted next := by
  cases effect with
  | @subscribe subscription gone =>
    refine ⟨?_, ?_, ?_, counted.stopped⟩
    · intro id got lookup
      by_cases same : id = subscription
      · subst same
        simp only [update_self, Option.some.injEq] at lookup
        subst lookup
        exact ⟨(counted.unsubscribed id gone).symm, .inl rfl⟩
      · simp only [update_of_ne same] at lookup
        exact counted.counter id got lookup
    · intro id lookup
      by_cases same : id = subscription
      · subst same
        simp at lookup
      · simp only [update_of_ne same] at lookup
        exact counted.unsubscribed id lookup
    · intro run progress got row mem
      obtain ⟨low, known⟩ := counted.read run progress got row mem
      refine ⟨low, ?_⟩
      simp only [update_apply]
      split
      · simp
      · exact known
  | enqueue =>
    exact ⟨counted.counter, counted.unsubscribed, counted.read, counted.stopped⟩
  | select =>
    apply counted.setRun
    intro row mem
    obtain ⟨_, -, due⟩ := mem_filterMap.mp mem
    exact readDue_eq_some due
  | post waiting => exact counted.post waiting (current _ _ waiting).2.1
  | @answer run row rest status waiting =>
    have kept : Counted (state.setRun run (row :: rest) (.answered (isSuccess status))) :=
      counted.setRun (counted.mem_read waiting)
    exact ⟨kept.counter, kept.unsubscribed, kept.read, kept.stopped⟩
  | @updateDelivery run row rest success waiting =>
    have kept : Counted (state.setRun run (row :: rest) (.updated success)) :=
      counted.setRun (counted.mem_read waiting)
    unfold State.writeDelivery
    split
    · exact kept
    · exact ⟨kept.counter, kept.unsubscribed, kept.read, kept.stopped⟩
  | updateSubscription waiting =>
    exact counted.writeSubscription waiting (current _ _ _ waiting)

end Counted

theorem updateDelivery_attempt (delivery : Delivery SubscriptionId) :
    (updateDelivery row success delivery).attempt = row.attempt + 1 := by
  unfold updateDelivery
  dsimp only
  split
  · rfl
  · split <;> rfl

section Posts

variable [DecidableEq DeliveryId]

/-- How often a delivery was posted. -/
def State.posted (state : State DeliveryId SubscriptionId) (id : DeliveryId) : Nat :=
  state.posts.countP (·.delivery = id)

/-- The attempts of a delivery count its posts, apart from one in flight, and it is open until one
has succeeded. -/
structure Exact (state : State DeliveryId SubscriptionId) : Prop where
  unknown : ∀ id, state.deliveries id = none → state.posted id = 0 ∧ id ∉ state.succeeded
  opened : ∀ id delivery, state.deliveries id = some delivery → delivery.status.Open →
    delivery.attempt < maxAttempts
  settled : ∀ id delivery, state.deliveries id = some delivery →
    (∀ run row, flight state run = some row → row.id ≠ id) →
      state.posted id = delivery.attempt ∧ delivery.attempt ≤ maxAttempts ∧
        (id ∈ state.succeeded → ¬ delivery.status.Open)
  flying : ∀ run row, flight state run = some row → ∃ delivery,
    state.deliveries row.id = some delivery ∧ delivery.status.Open ∧
      delivery.attempt = row.attempt ∧ state.posted row.id = row.attempt + 1
  alone : ∀ first second row other, flight state first = some row →
    flight state second = some other → row.id = other.id → first = second
  unanswered : ∀ run row rest phase, nextRow state run = some (row, rest, phase) →
    phase = .posting ∨ phase = .answered false → row.id ∉ state.succeeded
  unrepeated : ∀ post ∈ state.posts, post.afterSuccess = false
  closed : ∀ change ∈ state.changes, ¬ change.before.Open → change.after = change.before

namespace Exact

theorem start : Exact ({} : State DeliveryId SubscriptionId) where
  unknown := by simp [State.posted]
  opened := by simp
  settled := by simp
  flying := by simp [flight, nextRow]
  alone := by simp [flight, nextRow]
  unanswered := by simp [nextRow]
  unrepeated := by simp
  closed := by simp

variable (exact : Exact state)
include exact

theorem setRun (landed : flight state run = none)
    (lands : phase.flies = false) : Exact (state.setRun run rows phase) := by
  have same : flight (state.setRun run rows phase) = flight state := by
    rw [flight_setRun, lands, ← landed]
    simp
  refine ⟨exact.unknown, exact.opened, ?_, ?_, ?_, ?_, exact.unrepeated, exact.closed⟩
  · intro id delivery got others
    rw [same] at others
    exact exact.settled id delivery got others
  · intro other row flies
    rw [same] at flies
    exact exact.flying other row flies
  · intro first second row other one two
    rw [same] at one two
    exact exact.alone first second row other one two
  · intro other row rest later waiting unanswered
    rw [nextRow_setRun] at waiting
    by_cases own : other = run
    · subst own
      rw [update_self, map_eq_some_iff] at waiting
      obtain ⟨first, -, entry⟩ := waiting
      obtain ⟨-, -, rfl⟩ : first = row ∧ rows.tail = rest ∧ phase = later := by simpa using entry
      rcases unanswered with rfl | rfl
      · cases lands
      · cases lands
    · rw [update_of_ne own] at waiting
      exact exact.unanswered other row rest later waiting unanswered

theorem posted_le (id : DeliveryId) : state.posted id ≤ maxAttempts := by
  cases got : state.deliveries id with
  | none =>
    rw [(exact.unknown id got).1]
    exact Nat.zero_le maxAttempts
  | some delivery =>
    by_cases others : ∀ run row, flight state run = some row → row.id ≠ id
    · obtain ⟨posted, bound, -⟩ := exact.settled id delivery got others
      omega
    · push Not at others
      obtain ⟨run, row, flies, rfl⟩ := others
      obtain ⟨delivery, here, opened, _⟩ := exact.flying run row flies
      have bound := exact.opened row.id delivery here opened
      omega

theorem post (waiting : nextRow state run = some (row, rest, .ready))
    {delivery : Delivery SubscriptionId} (got : state.deliveries row.id = some delivery)
    (opened : delivery.status.Open) (attempt : delivery.attempt = row.attempt)
    (others : ∀ other otherRow, flight state other = some otherRow → otherRow.id ≠ row.id) :
    Exact (state.post run row rest) := by
  have flights : flight (state.post run row rest) =
      update (flight state) run (some row) := flight_setRun
  have nexts : nextRow (state.post run row rest) =
      update (nextRow state) run (some (row, rest, .posting)) := nextRow_setRun
  obtain ⟨posted, -, unsucceeded⟩ := exact.settled row.id delivery got others
  have fresh : row.id ∉ state.succeeded := fun succeeded => unsucceeded succeeded opened
  have counts : ∀ id, (state.post run row rest).posted id =
      state.posted id + if row.id = id then 1 else 0 := by
    simp [State.posted, State.post, countP_append, countP_cons]
  refine ⟨?_, exact.opened, ?_, ?_, ?_, ?_, ?_, exact.closed⟩
  · intro id gone
    have ne : row.id ≠ id := by
      rintro rfl
      cases got.symm.trans gone
    rw [counts, if_neg ne]
    exact exact.unknown id gone
  · intro id other here landed
    rw [flights] at landed
    have ne : row.id ≠ id := landed run row (update_self ..)
    rw [counts, if_neg ne]
    apply exact.settled id other here
    intro otherRun otherRow flies
    by_cases own : otherRun = run
    · subst own
      rw [flight_of_nextRow waiting] at flies
      cases flies
    · exact landed otherRun otherRow (by rwa [update_of_ne own])
  · intro otherRun otherRow flies
    rw [flights] at flies
    by_cases own : otherRun = run
    · subst own
      rw [update_self] at flies
      cases flies
      rw [counts, if_pos rfl]
      exact ⟨delivery, got, opened, attempt, by omega⟩
    · rw [update_of_ne own] at flies
      rw [counts, if_neg (others otherRun otherRow flies).symm]
      exact exact.flying otherRun otherRow flies
  · intro first second one other oneFlies otherFlies same
    rw [flights] at oneFlies otherFlies
    by_cases firstOwn : first = run
    · by_cases secondOwn : second = run
      · rw [firstOwn, secondOwn]
      · subst firstOwn
        rw [update_self] at oneFlies
        rw [update_of_ne secondOwn] at otherFlies
        cases oneFlies
        exact absurd same.symm (others second other otherFlies)
    · rw [update_of_ne firstOwn] at oneFlies
      by_cases secondOwn : second = run
      · subst secondOwn
        rw [update_self] at otherFlies
        cases otherFlies
        exact absurd same (others first one oneFlies)
      · rw [update_of_ne secondOwn] at otherFlies
        exact exact.alone first second one other oneFlies otherFlies same
  · intro other otherRow later phase next unanswered
    rw [nexts] at next
    by_cases own : other = run
    · subst own
      rw [update_self] at next
      cases next
      exact fresh
    · rw [update_of_ne own] at next
      exact exact.unanswered other otherRow later phase next unanswered
  · simp only [State.post, mem_append, mem_singleton]
    intro post mem
    rcases mem with mem | rfl
    · exact exact.unrepeated post mem
    · exact decide_eq_false fresh

theorem answer (waiting : nextRow state run = some (row, rest, .posting)) :
    Exact (state.answer run row rest success) := by
  have flies : flight state run = some row := flight_of_nextRow waiting
  have flights : flight (state.answer run row rest success) = flight state := by
    rw [show flight (state.answer run row rest success) = _ from flight_setRun]
    simp [Phase.flies, ← flies]
  have nexts : nextRow (state.answer run row rest success) =
      update (nextRow state) run (some (row, rest, .answered success)) := nextRow_setRun
  obtain ⟨_, got, -⟩ := exact.flying run row flies
  have succeeded : ∀ id, id ≠ row.id →
      id ∈ (state.answer run row rest success).succeeded → id ∈ state.succeeded := by
    intro id ne mem
    cases success with
    | false => exact mem
    | true => exact (mem_cons.mp mem).resolve_left ne
  refine ⟨?_, exact.opened, ?_, ?_, ?_, ?_, exact.unrepeated, exact.closed⟩
  · intro id gone
    have ne : id ≠ row.id := by
      rintro rfl
      cases got.symm.trans gone
    obtain ⟨posted, never⟩ := exact.unknown id gone
    exact ⟨posted, fun mem => never (succeeded id ne mem)⟩
  · intro id other here landed
    rw [flights] at landed
    obtain ⟨posted, bound, ended⟩ := exact.settled id other here landed
    exact ⟨posted, bound, fun mem => ended (succeeded id (landed run row flies).symm mem)⟩
  · rw [flights]
    exact exact.flying
  · rw [flights]
    exact exact.alone
  · intro other otherRow later phase next unanswered
    rw [nexts] at next
    by_cases own : other = run
    · subst own
      rw [update_self] at next
      cases next
      rcases unanswered with posting | failed
      · cases posting
      · cases failed
        exact exact.unanswered other row rest .posting waiting (.inl rfl)
    · rw [update_of_ne own] at next
      have otherFlies : flight state other = some otherRow := by
        rw [flight_of_nextRow next]
        rcases unanswered with rfl | rfl
        · rfl
        · rfl
      have ne : otherRow.id ≠ row.id :=
        fun same => own (exact.alone other run otherRow row otherFlies flies same)
      intro mem
      exact exact.unanswered other otherRow later phase next unanswered
        (succeeded otherRow.id ne mem)

theorem writeDelivery (waiting : nextRow state run = some (row, rest, .answered success)) :
    Exact (state.writeDelivery run row rest success) := by
  have flies : flight state run = some row := flight_of_nextRow waiting
  obtain ⟨delivery, got, opened, attempt, posted⟩ := exact.flying run row flies
  have bound := exact.opened row.id delivery got opened
  have wrote : state.writeDelivery run row rest success =
      { state.setRun run (row :: rest) (.updated success) with
        deliveries :=
          update state.deliveries row.id (some (updateDelivery row success delivery))
        changes := state.changes ++ [{
          before := delivery.status
          after := (updateDelivery row success delivery).status }] } := by
    simp only [State.writeDelivery, got]
  have flights : flight (state.writeDelivery run row rest success) =
      update (flight state) run none := by
    rw [wrote]
    exact flight_setRun
  have nexts : nextRow (state.writeDelivery run row rest success) =
      update (nextRow state) run (some (row, rest, .updated success)) := by
    rw [wrote]
    exact nextRow_setRun
  have posts : (state.writeDelivery run row rest success).posts = state.posts := by
    rw [wrote]
    rfl
  have succeededs : (state.writeDelivery run row rest success).succeeded = state.succeeded := by
    rw [wrote]
    rfl
  have deliveries : (state.writeDelivery run row rest success).deliveries =
      update state.deliveries row.id (some (updateDelivery row success delivery)) := by
    rw [wrote]
  have changes : (state.writeDelivery run row rest success).changes = state.changes ++ [{
      before := delivery.status, after := (updateDelivery row success delivery).status }] := by
    rw [wrote]
  have posteds : ∀ id, (state.writeDelivery run row rest success).posted id = state.posted id := by
    intro id
    unfold State.posted
    rw [posts]
  have others : ∀ other otherRow, other ≠ run → flight state other = some otherRow →
      otherRow.id ≠ row.id := by
    intro other otherRow ne otherFlies same
    exact ne (exact.alone other run otherRow row otherFlies flies same)
  refine ⟨?_, ?_, ?_, ?_, ?_, ?_, by rw [posts]; exact exact.unrepeated, ?_⟩
  · intro id gone
    rw [deliveries] at gone
    rw [posteds, succeededs]
    by_cases own : id = row.id
    · subst own
      simp at gone
    · simp only [update_of_ne own] at gone
      exact exact.unknown id gone
  · intro id other here reopened
    rw [deliveries] at here
    by_cases own : id = row.id
    · subst own
      simp only [update_self, Option.some.injEq] at here
      subst here
      rw [updateDelivery_attempt]
      by_contra exhausted
      have full : maxAttempts ≤ row.attempt + 1 := by omega
      cases success <;> simp [updateDelivery, full, Status.Open] at reopened
    · simp only [update_of_ne own] at here
      exact exact.opened id other here reopened
  · intro id other here landed
    rw [deliveries] at here
    rw [posteds, succeededs]
    by_cases own : id = row.id
    · subst own
      simp only [update_self, Option.some.injEq] at here
      subst here
      rw [updateDelivery_attempt]
      refine ⟨posted, by omega, ?_⟩
      intro succeeded
      cases success with
      | true => simp [updateDelivery, Status.Open]
      | false =>
        exact absurd succeeded (exact.unanswered run row rest (.answered false) waiting (.inr rfl))
    · simp only [update_of_ne own] at here
      apply exact.settled id other here
      intro otherRun otherRow otherFlies
      by_cases ownRun : otherRun = run
      · subst ownRun
        cases flies.symm.trans otherFlies
        exact fun same => own same.symm
      · apply landed otherRun otherRow
        rw [flights, update_of_ne ownRun]
        exact otherFlies
  · intro other otherRow otherFlies
    rw [flights] at otherFlies
    rw [posteds, deliveries]
    by_cases own : other = run
    · subst own
      simp at otherFlies
    · rw [update_of_ne own] at otherFlies
      simp only [update_of_ne (others other otherRow own otherFlies)]
      exact exact.flying other otherRow otherFlies
  · intro first second one other oneFlies otherFlies same
    rw [flights] at oneFlies otherFlies
    by_cases firstOwn : first = run
    · subst firstOwn
      simp at oneFlies
    · by_cases secondOwn : second = run
      · subst secondOwn
        simp at otherFlies
      · rw [update_of_ne firstOwn] at oneFlies
        rw [update_of_ne secondOwn] at otherFlies
        exact exact.alone first second one other oneFlies otherFlies same
  · intro other otherRow later phase next unanswered
    rw [nexts] at next
    rw [succeededs]
    by_cases own : other = run
    · subst own
      rw [update_self] at next
      cases next
      rcases unanswered with posting | failed
      · cases posting
      · cases failed
    · rw [update_of_ne own] at next
      exact exact.unanswered other otherRow later phase next unanswered
  · simp only [changes, mem_append, mem_singleton]
    intro change mem
    rcases mem with mem | rfl
    · exact exact.closed change mem
    · exact fun shut => absurd opened shut

theorem enqueue {id : DeliveryId} {subscription : SubscriptionId}
    (gone : state.deliveries id = none) : Exact { state with
      deliveries := update state.deliveries id (some { subscription }) } := by
  obtain ⟨posted, never⟩ := exact.unknown id gone
  refine ⟨?_, ?_, ?_, ?_, exact.alone, exact.unanswered, exact.unrepeated, exact.closed⟩
  · intro other lookup
    by_cases own : other = id
    · subst own
      simp at lookup
    · simp only [update_of_ne own] at lookup
      exact exact.unknown other lookup
  · intro other delivery lookup opened
    by_cases own : other = id
    · subst own
      simp only [update_self, Option.some.injEq] at lookup
      subst lookup
      exact Nat.succ_pos 4
    · simp only [update_of_ne own] at lookup
      exact exact.opened other delivery lookup opened
  · intro other delivery lookup landed
    by_cases own : other = id
    · subst own
      simp only [update_self, Option.some.injEq] at lookup
      subst lookup
      exact ⟨posted, Nat.zero_le maxAttempts, fun succeeded => absurd succeeded never⟩
    · simp only [update_of_ne own] at lookup
      exact exact.settled other delivery lookup landed
  · intro run row flies
    obtain ⟨delivery, got, known⟩ := exact.flying run row flies
    have ne : row.id ≠ id := by
      rintro rfl
      cases got.symm.trans gone
    refine ⟨delivery, ?_, known⟩
    simp only [update_of_ne ne]
    exact got

theorem step [DecidableEq SubscriptionId] (current : Current state event)
    (effect : Effect state event next) : Exact next := by
  cases effect with
  | subscribe =>
    exact ⟨exact.unknown, exact.opened, exact.settled, exact.flying, exact.alone,
      exact.unanswered, exact.unrepeated, exact.closed⟩
  | enqueue gone => exact exact.enqueue gone
  | select gone =>
    apply exact.setRun _ rfl
    simp only [flight, nextRow, gone]
  | post waiting =>
    obtain ⟨⟨_, got, opened, attempt⟩, -, others⟩ := current _ _ waiting
    exact exact.post waiting got opened attempt others
  | answer waiting => exact exact.answer waiting
  | updateDelivery waiting => exact exact.writeDelivery waiting
  | @updateSubscription run row rest success waiting =>
    have landed : Exact (state.setRun run rest .ready) :=
      exact.setRun (flight_of_nextRow waiting) rfl
    exact ⟨landed.unknown, landed.opened, landed.settled, landed.flying, landed.alone,
      landed.unanswered, landed.unrepeated, landed.closed⟩

end Exact

end Posts

theorem Exact.lawful [DecidableEq DeliveryId] (exact : Exact state) (counted : Counted state) :
    Lawful state where
  attempts := exact.posted_le
  unrepeated := exact.unrepeated
  stopped := counted.stopped
  closed := exact.closed
  counted := fun id subscription got => (counted.counter id subscription got).1
  taken := by
    intro id subscription got
    obtain ⟨counter, active⟩ := counted.counter id subscription got
    rw [← counter]
    constructor
    · exact And.right
    · intro below
      rcases active with active | tripped
      · exact ⟨active, below⟩
      · exact absurd below (Nat.not_lt.mpr tripped)

/-- One run posts one delivery of one subscription. -/
def oneDelivery : List (Event Nat Nat) :=
  [.subscribe 0, .enqueue 0 0, .select 0 [0], .post 0, .answer 0 (some 200), .updateDelivery 0,
    .updateSubscription 0]

/-- Two runs read one delivery, and the second posts it after the first has succeeded. -/
def overlappingRuns : List (Event Nat Nat) :=
  [.subscribe 0, .enqueue 0 0, .select 0 [0], .select 1 [0], .post 0, .answer 0 (some 200),
    .updateDelivery 0, .updateSubscription 0, .post 1]

/-- A run posts two deliveries of one subscription, and both fail. -/
def sharedBatch : List (Event Nat Nat) :=
  [.subscribe 0, .enqueue 0 0, .enqueue 1 0, .select 0 [0, 1], .post 0, .answer 0 (some 500),
    .updateDelivery 0, .updateSubscription 0, .post 0, .answer 0 (some 500), .updateDelivery 0,
    .updateSubscription 0]

end SorobanPlayground.WebhookService
