import SorobanPlayground.Backend.CircuitBreaker.Breaker

/-! # Periods of the circuit breaker

In a half-open period every request is admitted, outstanding or recorded. Late results are counted
with the results of the period, so a period may end on results of requests that it never admitted.
-/

namespace SorobanPlayground.CircuitBreaker

open List

variable {config : Config} {now : Int} {world next : World} {breaker : Breaker}

theorem World.observe_of_eq (same : breaker.state = world.breaker.state) :
    world.observe breaker = { world with breaker } := by
  simp only [World.observe, same, ↓reduceIte]

theorem World.observe_of_ne (changed : breaker.state ≠ world.breaker.state) :
    world.observe breaker = world.turn breaker := by
  simp only [World.observe, changed, ↓reduceIte]

theorem World.observe_breaker : (world.observe breaker).breaker = breaker := by
  unfold World.observe
  split <;> rfl

theorem World.observe_congr {other : Breaker} (same : breaker.state = other.state) :
    world.observe breaker = { world.observe other with breaker } := by
  simp only [World.observe, World.turn, same]
  split <;> rfl

theorem World.request_cases (config : Config) (now : Int) (world : World) :
    (world.poll config now).breaker.state = .closed ∧
        world.request config now = (world.poll config now).enter ∨
      ((world.poll config now).breaker.state = .halfOpen ∧
        ((world.poll config now).breaker.halfOpenRequests : Int) < config.halfOpenMaxRequests ∧
        world.request config now = World.enter { world.poll config now with
          breaker := { (world.poll config now).breaker with
            halfOpenRequests := (world.poll config now).breaker.halfOpenRequests + 1 } }) ∨
      ((world.poll config now).breaker.state = .closed → False) ∧
        ((world.poll config now).breaker.state = .halfOpen →
          config.halfOpenMaxRequests ≤ (world.poll config now).breaker.halfOpenRequests) ∧
        world.request config now = world.poll config now := by
  unfold World.request World.poll canExecute
  simp only [World.observe_breaker]
  cases current : (getState config now world.breaker).state with
  | closed => exact .inl ⟨rfl, rfl⟩
  | opened =>
    refine .inr (.inr ⟨?_, ?_, rfl⟩)
    · intro closed
      cases closed
    · intro halfOpen
      cases halfOpen
  | halfOpen =>
    by_cases room : ((getState config now world.breaker).halfOpenRequests : Int) <
        config.halfOpenMaxRequests
    · refine .inr (.inl ⟨rfl, room, ?_⟩)
      simp only [room, ↓reduceIte]
      exact congrArg World.enter (World.observe_congr current.symm)
    · refine .inr (.inr ⟨?_, fun _ => by omega, ?_⟩)
      · intro closed
        cases closed
      · simp only [room, ↓reduceIte, Bool.false_eq_true]

theorem World.poll_cases (config : Config) (now : Int) (world : World) :
    (world.breaker.state = .opened ∧ world.breaker.nextAttempt ≤ now ∧
      world.poll config now =
        (world.wait now).turn (transitionTo config now world.breaker .halfOpen)) ∨
      (world.breaker.state = .opened → now < world.breaker.nextAttempt) ∧
        world.poll config now = world.wait now := by
  by_cases due : world.breaker.state = .opened ∧ world.breaker.nextAttempt ≤ now
  · refine .inl ⟨due.1, due.2, ?_⟩
    simp only [World.poll, getState, due, and_self, ↓reduceIte]
    apply World.observe_of_ne
    simp [transitionTo, World.wait, due.1]
  · refine .inr ⟨by grind, ?_⟩
    simp only [World.poll, getState, due, ↓reduceIte]
    exact World.observe_of_eq rfl

/-- A success either closes a half-open breaker or leaves the state, and the breaker counts it
while it is half open. -/
theorem World.succeed_cases (config : Config) (now : Int) (world : World) (admittedIn : Nat) :
    ∃ breaker,
      (world.breaker.state = .halfOpen ∧
        config.successThreshold ≤ (world.breaker.successCount + 1 : Nat) ∧
        breaker.state = .closed ∧
        world.succeed config now admittedIn = (world.succeeded now admittedIn).turn breaker) ∨
      breaker.state = world.breaker.state ∧
        (world.breaker.state = .halfOpen →
          breaker.halfOpenRequests = world.breaker.halfOpenRequests ∧
          breaker.successCount = world.breaker.successCount + 1 ∧
          (breaker.successCount : Int) < config.successThreshold) ∧
        world.succeed config now admittedIn =
          { world.succeeded now admittedIn with breaker } := by
  refine ⟨recordSuccess config now world.breaker, ?_⟩
  cases state : world.breaker.state with
  | closed =>
    have same : (recordSuccess config now world.breaker).state = .closed := by
      simp only [recordSuccess, state]
    refine .inr ⟨same, ?_, World.observe_of_eq (same.trans state.symm)⟩
    intro halfOpen
    cases halfOpen
  | opened =>
    have same : (recordSuccess config now world.breaker).state = .opened := by
      simp only [recordSuccess, state]
    refine .inr ⟨same, ?_, World.observe_of_eq (same.trans state.symm)⟩
    intro halfOpen
    cases halfOpen
  | halfOpen =>
    by_cases reached : config.successThreshold ≤ (world.breaker.successCount + 1 : Nat)
    · have closed : (recordSuccess config now world.breaker).state = .closed := by
        simp only [recordSuccess, state, reached, ↓reduceIte, transitionTo]
      refine .inl ⟨rfl, reached, closed, World.observe_of_ne ?_⟩
      rw [closed, show (world.succeeded now admittedIn).breaker.state = .halfOpen from state]
      decide
    · have counted : recordSuccess config now world.breaker = { world.breaker with
          totalRequests := world.breaker.totalRequests + 1
          successCount := world.breaker.successCount + 1 } := by
        simp only [recordSuccess, state, reached, ↓reduceIte]
      have same : (recordSuccess config now world.breaker).state = .halfOpen := by
        rw [counted, state]
      refine .inr ⟨same, fun _ => ?_, World.observe_of_eq (same.trans state.symm)⟩
      rw [counted]
      exact ⟨rfl, rfl, Int.not_le.mp reached⟩

theorem World.fail_cases (config : Config) (now : Int) (world : World) (admittedIn : Nat) :
    ∃ breaker,
      (breaker.state = .opened ∧
        world.fail config now admittedIn = (world.failed now admittedIn).turn breaker) ∨
      breaker.state = world.breaker.state ∧ world.breaker.state ≠ .halfOpen ∧
        (world.breaker.state = .closed →
          breaker.failureCount = world.breaker.failureCount + 1 ∧
          (breaker.failureCount : Int) < config.failureThreshold) ∧
        world.fail config now admittedIn = { world.failed now admittedIn with breaker } := by
  refine ⟨recordFailure config now world.breaker, ?_⟩
  cases state : world.breaker.state with
  | opened =>
    have same : (recordFailure config now world.breaker).state = .opened := by
      simp only [recordFailure, state]
    refine .inr ⟨same, ?_, ?_, World.observe_of_eq (same.trans state.symm)⟩
    · intro halfOpen
      cases halfOpen
    · intro closed
      cases closed
  | halfOpen =>
    have opened : (recordFailure config now world.breaker).state = .opened := by
      simp only [recordFailure, state, transitionTo]
    refine .inl ⟨opened, World.observe_of_ne ?_⟩
    rw [opened, show (world.failed now admittedIn).breaker.state = .halfOpen from state]
    decide
  | closed =>
    by_cases reached :
        config.failureThreshold ≤ (world.breaker.failureCount + 1 : Nat) ∨
          5 ≤ world.breaker.totalRequests + 1 ∧
            config.rateReached (world.breaker.failureCount + 1)
              (world.breaker.totalRequests + 1) = true
    · have opened : (recordFailure config now world.breaker).state = .opened := by
        simp only [recordFailure, state, reached, ↓reduceIte, transitionTo]
      refine .inl ⟨opened, World.observe_of_ne ?_⟩
      rw [opened, show (world.failed now admittedIn).breaker.state = .closed from state]
      decide
    · have counted : recordFailure config now world.breaker = { world.breaker with
          totalRequests := world.breaker.totalRequests + 1
          failureCount := world.breaker.failureCount + 1 } := by
        simp only [recordFailure, state, reached, ↓reduceIte]
      have same : (recordFailure config now world.breaker).state = .closed := by
        rw [counted, state]
      refine .inr ⟨same, ?_, fun _ => ?_, World.observe_of_eq (same.trans state.symm)⟩
      · intro halfOpen
        cases halfOpen
      · rw [counted]
        exact ⟨rfl, Int.not_le.mp fun enough => reached (.inl enough)⟩

/-- The breaker's counters and the requests of the current period. -/
structure Tracked (config : Config) (world : World) : Prop where
  requested : world.breaker.state = .halfOpen →
    world.breaker.halfOpenRequests = world.admissions ∧
      (world.admissions : Int) ≤ max 0 config.halfOpenMaxRequests
  succeeded : world.breaker.state = .halfOpen →
    world.breaker.successCount = world.successes.length ∧
      (world.successes = [] ∨ (world.successes.length : Int) < config.successThreshold)
  unfailed : world.breaker.state = .halfOpen → world.failures = []
  accounted : world.admissions = world.outstanding.count world.period +
    world.successes.count world.period + world.failures.count world.period
  known : ∀ admittedIn ∈ world.outstanding, admittedIn ≤ world.period

theorem tracked_start (config : Config) (now : Int) : Tracked config { clock := now } where
  requested := by intro halfOpen; cases halfOpen
  succeeded := by intro halfOpen; cases halfOpen
  unfailed := by intro halfOpen; cases halfOpen
  accounted := rfl
  known := by simp

variable {admittedIn : Nat}

namespace Tracked

theorem wait (tracked : Tracked config world) (now : Int) : Tracked config (world.wait now) :=
  ⟨tracked.requested, tracked.succeeded, tracked.unfailed, tracked.accounted, tracked.known⟩

theorem turn (known : ∀ admittedIn ∈ world.outstanding, admittedIn ≤ world.period)
    (fresh : breaker.state = .halfOpen → breaker.halfOpenRequests = 0 ∧ breaker.successCount = 0) :
    Tracked config (world.turn breaker) where
  requested := by
    intro halfOpen
    refine ⟨(fresh halfOpen).1, ?_⟩
    simp only [World.turn]
    omega
  succeeded := by
    intro halfOpen
    exact ⟨(fresh halfOpen).2, .inl rfl⟩
  unfailed := fun _ => rfl
  accounted := by
    have gone : world.period + 1 ∉ world.outstanding := by
      intro mem
      have := known _ mem
      omega
    simp [World.turn, count_eq_zero.mpr gone]
  known := by
    intro admittedIn mem
    have := known admittedIn mem
    simp only [World.turn]
    omega

variable (tracked : Tracked config world)
include tracked

theorem poll (now : Int) : Tracked config (world.poll config now) := by
  rcases World.poll_cases config now world with ⟨_, _, polled⟩ | ⟨_, polled⟩
  · rw [polled]
    exact turn tracked.known fun _ => ⟨rfl, rfl⟩
  · rw [polled]
    exact tracked.wait now

theorem enter (same : breaker.state = world.breaker.state)
    (counts : breaker.successCount = world.breaker.successCount)
    (room : world.breaker.state = .halfOpen →
      breaker.halfOpenRequests = world.breaker.halfOpenRequests + 1 ∧
        (world.breaker.halfOpenRequests : Int) < config.halfOpenMaxRequests) :
    Tracked config (World.enter { world with breaker }) where
  requested := by
    intro halfOpen
    rw [show (World.enter { world with breaker }).breaker = breaker from rfl, same] at halfOpen
    obtain ⟨_, _⟩ := tracked.requested halfOpen
    obtain ⟨_, _⟩ := room halfOpen
    simp only [World.enter]
    omega
  succeeded := by
    intro halfOpen
    rw [show (World.enter { world with breaker }).breaker = breaker from rfl, same] at halfOpen
    simpa only [World.enter, counts] using tracked.succeeded halfOpen
  unfailed := by
    intro halfOpen
    rw [show (World.enter { world with breaker }).breaker = breaker from rfl, same] at halfOpen
    exact tracked.unfailed halfOpen
  accounted := by
    simp only [World.enter, count_cons_self, tracked.accounted]
    omega
  known := by
    simpa [World.enter] using tracked.known

theorem request (now : Int) : Tracked config (world.request config now) := by
  have polled := tracked.poll now
  rcases World.request_cases config now world with
    ⟨closed, requested⟩ | ⟨halfOpen, room, requested⟩ | ⟨unclosed, full, requested⟩
  · rw [requested]
    refine polled.enter rfl rfl ?_
    intro halfOpen
    rw [closed] at halfOpen
    cases halfOpen
  · rw [requested]
    exact polled.enter rfl rfl fun _ => ⟨rfl, room⟩
  · rw [requested]
    exact polled

theorem erase (mem : admittedIn ∈ world.outstanding) :
    (∀ other ∈ world.outstanding.erase admittedIn, other ≤ world.period) ∧
      world.outstanding.count world.period =
        (world.outstanding.erase admittedIn).count world.period +
          [admittedIn].count world.period := by
  constructor
  · intro other remaining
    exact tracked.known other (mem_of_mem_erase remaining)
  · rw [← count_append]
    apply List.Perm.count_eq
    exact (perm_cons_erase mem).trans (perm_append_singleton admittedIn _).symm

theorem succeed (mem : admittedIn ∈ world.outstanding) (now : Int) :
    Tracked config (world.succeed config now admittedIn) := by
  obtain ⟨known, counted⟩ := tracked.erase mem
  obtain ⟨_, ⟨-, -, closed, succeeded⟩ | ⟨same, counts, succeeded⟩⟩ :=
    World.succeed_cases config now world admittedIn
  · rw [succeeded]
    apply turn known
    intro halfOpen
    rw [closed] at halfOpen
    cases halfOpen
  · rw [succeeded]
    refine ⟨?_, ?_, ?_, ?_, known⟩
    · intro halfOpen
      replace halfOpen := same.symm.trans halfOpen
      obtain ⟨requests, -⟩ := counts halfOpen
      exact ⟨requests.trans (tracked.requested halfOpen).1, (tracked.requested halfOpen).2⟩
    · intro halfOpen
      replace halfOpen := same.symm.trans halfOpen
      obtain ⟨-, _⟩ := counts halfOpen
      have length := (tracked.succeeded halfOpen).1
      simp only [World.succeeded, length_cons]
      omega
    · intro halfOpen
      exact tracked.unfailed (same.symm.trans halfOpen)
    · have accounted := tracked.accounted
      rw [counted] at accounted
      simp only [World.succeeded, World.wait, count_cons, count_nil] at accounted ⊢
      omega

theorem fail (mem : admittedIn ∈ world.outstanding) (now : Int) :
    Tracked config (world.fail config now admittedIn) := by
  obtain ⟨known, counted⟩ := tracked.erase mem
  obtain ⟨_, ⟨opened, failed⟩ | ⟨same, settled, -, failed⟩⟩ :=
    World.fail_cases config now world admittedIn
  · rw [failed]
    apply turn known
    intro halfOpen
    rw [opened] at halfOpen
    cases halfOpen
  · rw [failed]
    refine ⟨?_, ?_, ?_, ?_, known⟩
    · intro halfOpen
      exact absurd (same.symm.trans halfOpen) settled
    · intro halfOpen
      exact absurd (same.symm.trans halfOpen) settled
    · intro halfOpen
      exact absurd (same.symm.trans halfOpen) settled
    · have accounted := tracked.accounted
      rw [counted] at accounted
      simp only [World.failed, World.wait, count_cons, count_nil] at accounted ⊢
      omega

end Tracked

theorem exec_eq_ok {event : Int × Action} :
    (machine config).exec world event = .ok next ↔
      world.clock ≤ event.1 ∧
        match event.2 with
        | .canExecute => next = world.request config event.1
        | .getState => next = world.poll config event.1
        | .succeed admittedIn =>
          admittedIn ∈ world.outstanding ∧ next = world.succeed config event.1 admittedIn
        | .fail admittedIn =>
          admittedIn ∈ world.outstanding ∧ next = world.fail config event.1 admittedIn := by
  obtain ⟨_, action⟩ := event
  rw [machine, ofStep_exec_eq_ok]
  simp only [step, Option.ite_none_right_eq_some]
  cases action <;> simp only [Option.ite_none_right_eq_some, Option.some.injEq, eq_comm (b := next)]

theorem Tracked.step (world : World) (event : Int × Action) (next : World)
    (tracked : Tracked config world) (ran : (machine config).exec world event = .ok next) :
    Tracked config next := by
  obtain ⟨now, action⟩ := event
  obtain ⟨-, effect⟩ := exec_eq_ok.mp ran
  cases action with
  | canExecute =>
    obtain rfl := effect
    exact tracked.request now
  | getState =>
    obtain rfl := effect
    exact tracked.poll now
  | succeed =>
    obtain ⟨mem, rfl⟩ := effect
    exact tracked.succeed mem now
  | fail =>
    obtain ⟨mem, rfl⟩ := effect
    exact tracked.fail mem now

/-- The results that decide how the period ends are of its own requests. -/
structure Punctual (config : Config) (world : World) : Prop where
  tracked : Tracked config world
  successes : world.breaker.state = .halfOpen →
    ∀ admittedIn ∈ world.successes, admittedIn = world.period
  failures : world.breaker.state = .closed →
    ∀ admittedIn ∈ world.failures, admittedIn = world.period
  earned : ∀ transition ∈ world.transitions, transition.Earned config

theorem punctual_start (config : Config) (now : Int) : Punctual config { clock := now } where
  tracked := tracked_start config now
  successes := by simp
  failures := by simp
  earned := by simp

namespace Punctual

theorem turn (earned : ∀ transition ∈ world.transitions, transition.Earned config)
    (ends : Transition.Earned config {
      source := world.breaker.state, target := breaker.state, period := world.period
      successes := world.successes, failures := world.failures })
    (tracked : Tracked config (world.turn breaker)) : Punctual config (world.turn breaker) where
  tracked := tracked
  successes := by simp [World.turn]
  failures := by simp [World.turn]
  earned := by
    simp only [World.turn, mem_append, mem_singleton]
    intro transition mem
    rcases mem with mem | rfl
    · exact earned transition mem
    · exact ends

section

variable (punctual : Punctual config world)

include punctual

theorem poll (now : Int) : Punctual config (world.poll config now) := by
  have tracked := punctual.tracked.poll now
  rcases World.poll_cases config now world with ⟨opened, _, polled⟩ | ⟨_, polled⟩
  · rw [polled] at tracked ⊢
    refine turn punctual.earned ⟨?_, ?_⟩ tracked
    · intro halfOpen
      exact absurd (opened.symm.trans halfOpen) (by decide)
    · intro closed
      exact absurd (opened.symm.trans closed) (by decide)
  · rw [polled] at tracked ⊢
    exact ⟨tracked, punctual.successes, punctual.failures, punctual.earned⟩

theorem request (now : Int) : Punctual config (world.request config now) := by
  have polled := punctual.poll now
  have tracked := punctual.tracked.request now
  rcases World.request_cases config now world with
    ⟨closed, requested⟩ | ⟨halfOpen, room, requested⟩ | ⟨unclosed, full, requested⟩
  · rw [requested] at tracked ⊢
    exact ⟨tracked, polled.successes, polled.failures, polled.earned⟩
  · rw [requested] at tracked ⊢
    exact ⟨tracked, polled.successes, polled.failures, polled.earned⟩
  · rw [requested]
    exact polled

theorem succeed (mem : admittedIn ∈ world.outstanding)
    (timely : world.breaker.state = .halfOpen → admittedIn = world.period) (now : Int) :
    Punctual config (world.succeed config now admittedIn) := by
  have tracked := punctual.tracked.succeed mem now
  have own : world.breaker.state = .halfOpen →
      ∀ other ∈ admittedIn :: world.successes, other = world.period := by
    intro halfOpen other listed
    rcases mem_cons.mp listed with rfl | listed
    · exact timely halfOpen
    · exact punctual.successes halfOpen other listed
  obtain ⟨_, ⟨halfOpen, _, closed, succeeded⟩ | ⟨same, -, succeeded⟩⟩ :=
    World.succeed_cases config now world admittedIn
  · rw [succeeded] at tracked ⊢
    refine turn punctual.earned ⟨?_, ?_⟩ tracked
    · have all := count_eq_length.mpr fun other listed => (own halfOpen other listed).symm
      have length := (punctual.tracked.succeeded halfOpen).1
      simp only [World.succeeded, World.wait, all, length_cons]
      omega
    · intro closed
      exact absurd (halfOpen.symm.trans closed) (by decide)
  · rw [succeeded] at tracked ⊢
    refine ⟨tracked, ?_, ?_, punctual.earned⟩
    · intro halfOpen
      exact own (same.symm.trans halfOpen)
    · intro closed
      exact punctual.failures (same.symm.trans closed)

theorem fail (mem : admittedIn ∈ world.outstanding)
    (timely : world.breaker.state = .closed → admittedIn = world.period) (now : Int) :
    Punctual config (world.fail config now admittedIn) := by
  have tracked := punctual.tracked.fail mem now
  have own : world.breaker.state = .closed →
      ∀ other ∈ admittedIn :: world.failures, other = world.period := by
    intro closed other listed
    rcases mem_cons.mp listed with rfl | listed
    · exact timely closed
    · exact punctual.failures closed other listed
  obtain ⟨_, ⟨opened, failed⟩ | ⟨same, settled, -, failed⟩⟩ :=
    World.fail_cases config now world admittedIn
  · rw [failed] at tracked ⊢
    refine turn punctual.earned ⟨?_, ?_⟩ tracked
    · intro _ closed
      exact absurd (opened.symm.trans closed) (by decide)
    · intro closed _
      exact ⟨cons_ne_nil admittedIn world.failures, own closed⟩
  · rw [failed] at tracked ⊢
    refine ⟨tracked, ?_, ?_, punctual.earned⟩
    · intro halfOpen
      exact absurd (same.symm.trans halfOpen) settled
    · intro closed
      exact own (same.symm.trans closed)

end

theorem step (world : World) (event : Int × Action) (next : World)
    (punctual : Punctual config world) (timely : Timely world event)
    (ran : (machine config).exec world event = .ok next) : Punctual config next := by
  obtain ⟨now, action⟩ := event
  obtain ⟨-, effect⟩ := exec_eq_ok.mp ran
  cases action with
  | canExecute =>
    obtain rfl := effect
    exact punctual.request now
  | getState =>
    obtain rfl := effect
    exact punctual.poll now
  | succeed =>
    obtain ⟨mem, rfl⟩ := effect
    exact punctual.succeed mem timely now
  | fail =>
    obtain ⟨mem, rfl⟩ := effect
    exact punctual.fail mem timely now

theorem lawful (punctual : Punctual config world) : Lawful config world where
  earned := punctual.earned
  admits := fun halfOpen => (punctual.tracked.requested halfOpen).2

end Punctual

theorem always_lawful {events : List (Int × Action)} (timely :
    (machine config).Meets Timely { clock := now } events) :
    (machine config).Always (Lawful config) { clock := now } events :=
  (always_of_meets Punctual.step (punctual_start config now) timely).mono
    fun _ => Punctual.lawful

end SorobanPlayground.CircuitBreaker
