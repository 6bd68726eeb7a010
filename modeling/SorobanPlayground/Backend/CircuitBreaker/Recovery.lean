import SorobanPlayground.Backend.CircuitBreaker.Soundness

/-! # Recovery of the circuit breaker

A half-open period whose requests have all succeeded has either closed the breaker or has room for
another request, unless it admits fewer requests than the breaker needs successes. Then nothing
takes the breaker out of the period.
-/

namespace SorobanPlayground.CircuitBreaker

variable {config : Config} {now : Int} {world next : World} {admittedIn : Nat}

@[simp] theorem exec_succeed (mem : admittedIn ∈ world.outstanding) :
    (machine config).exec world (world.clock, .succeed admittedIn) =
      .ok (world.succeed config world.clock admittedIn) :=
  exec_eq_ok.mpr ⟨Int.le_refl _, mem, rfl⟩

@[simp] theorem exec_fail (mem : admittedIn ∈ world.outstanding) :
    (machine config).exec world (world.clock, .fail admittedIn) =
      .ok (world.fail config world.clock admittedIn) :=
  exec_eq_ok.mpr ⟨Int.le_refl _, mem, rfl⟩

theorem exec_canExecute (later : world.clock ≤ now) :
    (machine config).exec world (now, .canExecute) = .ok (world.request config now) :=
  exec_eq_ok.mpr ⟨later, rfl⟩

theorem succeed_outstanding (config : Config) (now : Int) (world : World) (admittedIn : Nat) :
    (world.succeed config now admittedIn).outstanding = world.outstanding.erase admittedIn := by
  obtain ⟨_, ⟨-, -, -, succeeded⟩ | ⟨-, -, succeeded⟩⟩ :=
    World.succeed_cases config now world admittedIn
  · rw [succeeded]
    rfl
  · rw [succeeded]
    rfl

theorem fail_outstanding (config : Config) (now : Int) (world : World) (admittedIn : Nat) :
    (world.fail config now admittedIn).outstanding = world.outstanding.erase admittedIn := by
  obtain ⟨_, ⟨-, failed⟩ | ⟨-, -, -, failed⟩⟩ := World.fail_cases config now world admittedIn
  · rw [failed]
    rfl
  · rw [failed]
    rfl

theorem request_state (config : Config) (now : Int) (world : World) :
    (world.request config now).breaker.state = (world.poll config now).breaker.state := by
  rcases World.request_cases config now world with
    ⟨-, requested⟩ | ⟨-, -, requested⟩ | ⟨-, -, requested⟩
  · rw [requested]
    rfl
  · rw [requested]
    rfl
  · rw [requested]

theorem poll_of_not_opened (settled : world.breaker.state ≠ .opened) (now : Int) :
    world.poll config now = world.wait now := by
  rcases World.poll_cases config now world with ⟨opened, -, -⟩ | ⟨-, polled⟩
  · exact absurd opened settled
  · exact polled

theorem Recoverable.of_step {event : Int × Action} (fair : ∀ admittedIn, event.2 ≠ .fail admittedIn)
    (ran : (machine config).exec world event = .ok next)
    (recoverable : Recoverable config next) : Recoverable config world := by
  obtain ⟨events, successful, finished, closed⟩ := recoverable
  refine ⟨event :: events, ?_, ?_⟩
  · intro other mem
    rcases List.mem_cons.mp mem with rfl | mem
    · exact fair
    · exact successful other mem
  · rw [run_cons, apply_of_ok _ ran]
    exact ⟨finished, closed⟩

theorem recoverable_closed (closed : world.breaker.state = .closed) : Recoverable config world := by
  induction requests : world.outstanding generalizing world with
  | nil => exact ⟨[], by simp, requests, closed⟩
  | cons admittedIn _ ih =>
    have mem : admittedIn ∈ world.outstanding := by simp [requests]
    refine .of_step (fun other => by simp) (exec_succeed mem) (ih ?_ ?_)
    · obtain ⟨_, ⟨halfOpen, -, -, -⟩ | ⟨same, -, succeeded⟩⟩ :=
        World.succeed_cases config world.clock world admittedIn
      · exact absurd (closed.symm.trans halfOpen) (by decide)
      · rw [succeeded]
        exact same.trans closed
    · rw [succeed_outstanding, requests, List.erase_cons_head]

theorem recoverable_success {needed : Nat} (tracked : Tracked config world)
    (halfOpen : world.breaker.state = .halfOpen)
    (bound : (config.successThreshold - world.breaker.successCount).toNat = needed)
    (mem : admittedIn ∈ world.outstanding)
    (later : ∀ {world : World}, Tracked config world → world.breaker.state = .halfOpen →
      (config.successThreshold - world.breaker.successCount).toNat < needed →
      Recoverable config world) : Recoverable config world := by
  refine .of_step (fun other => by simp) (exec_succeed mem) ?_
  have kept := tracked.succeed mem world.clock
  obtain ⟨breaker, ⟨-, -, closed, succeeded⟩ | ⟨same, counts, succeeded⟩⟩ :=
    World.succeed_cases config world.clock world admittedIn
  · rw [succeeded]
    exact recoverable_closed closed
  · rw [succeeded] at kept ⊢
    obtain ⟨-, _⟩ := counts halfOpen
    apply later kept (same.trans halfOpen)
    show (config.successThreshold - breaker.successCount).toNat < needed
    omega

theorem recoverable_halfOpen (wide : Wide config) (tracked : Tracked config world)
    (halfOpen : world.breaker.state = .halfOpen) : Recoverable config world := by
  induction bound : (config.successThreshold - world.breaker.successCount).toNat
    using Nat.strongRecOn generalizing world with
  | ind needed ih =>
    have later : ∀ {world : World}, Tracked config world → world.breaker.state = .halfOpen →
        (config.successThreshold - world.breaker.successCount).toNat < needed →
        Recoverable config world := by
      intro world tracked halfOpen fewer
      exact ih _ fewer tracked halfOpen rfl
    by_cases finished : world.outstanding = []
    · -- every request of the period has succeeded, so there is room for another
      have accounted := tracked.accounted
      simp only [finished, tracked.unfailed halfOpen, List.count_nil] at accounted
      have counted := List.count_le_length (a := world.period) (l := world.successes)
      obtain ⟨_, -⟩ := tracked.requested halfOpen
      obtain ⟨_, below⟩ := tracked.succeeded halfOpen
      have room : (world.breaker.halfOpenRequests : Int) < config.halfOpenMaxRequests := by
        unfold Wide at wide
        rcases below with none | _
        · rw [none, List.count_nil] at accounted
          omega
        · omega
      have kept := tracked.request world.clock
      have polled : world.poll config world.clock = world :=
        poll_of_not_opened (by simp [halfOpen]) world.clock
      refine .of_step (fun other => by simp) (exec_canExecute (Int.le_refl _)) ?_
      rcases World.request_cases config world.clock world with
        ⟨closed, -⟩ | ⟨-, -, requested⟩ | ⟨-, full, -⟩
      · rw [polled] at closed
        exact absurd (closed.symm.trans halfOpen) (by decide)
      · rw [polled] at requested
        rw [requested] at kept ⊢
        have mem : world.period ∈ (World.enter _).outstanding := List.mem_cons_self
        exact recoverable_success kept halfOpen bound mem later
      · rw [polled] at full
        have := full halfOpen
        omega
    · obtain ⟨_, mem⟩ := List.exists_mem_of_ne_nil _ finished
      exact recoverable_success tracked halfOpen bound mem later

theorem Tracked.recoverable (tracked : Tracked config world) (wide : Wide config) :
    Recoverable config world := by
  cases state : world.breaker.state with
  | closed => exact recoverable_closed state
  | halfOpen => exact recoverable_halfOpen wide tracked state
  | opened =>
    have later : world.clock ≤ max world.clock world.breaker.nextAttempt := by omega
    refine .of_step (fun other => by simp) (exec_canExecute later) ?_
    apply recoverable_halfOpen wide (tracked.request _)
    rw [request_state]
    rcases World.poll_cases config (max world.clock world.breaker.nextAttempt) world with
      ⟨-, -, polled⟩ | ⟨early, -⟩
    · rw [polled]
      rfl
    · have := early state
      omega

/-- A half-open period that is full, with every request finished. -/
structure Stuck (config : Config) (world : World) : Prop where
  halfOpen : world.breaker.state = .halfOpen
  finished : world.outstanding = []
  full : config.halfOpenMaxRequests ≤ world.breaker.halfOpenRequests

theorem Stuck.step (world : World) (event : Int × Action) (next : World)
    (stuck : Stuck config world) (ran : (machine config).exec world event = .ok next) :
    Stuck config next := by
  obtain ⟨now, action⟩ := event
  obtain ⟨-, effect⟩ := exec_eq_ok.mp ran
  have polled : world.poll config now = world.wait now :=
    poll_of_not_opened (by simp [stuck.halfOpen]) now
  cases action with
  | canExecute =>
    obtain rfl := effect
    rcases World.request_cases config now world with ⟨closed, -⟩ | ⟨-, room, -⟩ | ⟨-, -, requested⟩
    · rw [polled] at closed
      exact absurd (closed.symm.trans stuck.halfOpen) (by decide)
    · rw [polled] at room
      exact absurd room (Int.not_lt.mpr stuck.full)
    · rw [requested, polled]
      exact ⟨stuck.halfOpen, stuck.finished, stuck.full⟩
  | getState =>
    obtain rfl := effect
    rw [polled]
    exact ⟨stuck.halfOpen, stuck.finished, stuck.full⟩
  | succeed => simp [stuck.finished] at effect
  | fail => simp [stuck.finished] at effect

theorem Stuck.not_recoverable (stuck : Stuck config world) : ¬ Recoverable config world := by
  rintro ⟨events, -, -, closed⟩
  have later := (run_invariant Stuck.step stuck events).halfOpen
  exact absurd (closed.symm.trans later) (by decide)

theorem reach_opened (closed : world.breaker.state = .closed) (finished : world.outstanding = []) :
    ∃ next, (machine config).Reachable world next ∧ next.breaker.state = .opened ∧
      next.outstanding = [] := by
  induction bound : (config.failureThreshold - world.breaker.failureCount).toNat
    using Nat.strongRecOn generalizing world with
  | ind left ih =>
    have polled : world.poll config world.clock = world :=
      poll_of_not_opened (by simp [closed]) world.clock
    have requested : world.request config world.clock = world.enter := by
      rcases World.request_cases config world.clock world with
        ⟨-, requested⟩ | ⟨halfOpen, -⟩ | ⟨unclosed, -⟩
      · rw [requested, polled]
      · rw [polled] at halfOpen
        exact absurd (closed.symm.trans halfOpen) (by decide)
      · rw [polled] at unclosed
        exact absurd closed unclosed
    have ran : (machine config).exec world (world.clock, .canExecute) = .ok _ :=
      exec_canExecute (Int.le_refl _)
    rw [requested] at ran
    have mem : world.period ∈ world.enter.outstanding := by simp [World.enter]
    have emptied : (world.enter.fail config world.enter.clock world.period).outstanding = [] := by
      simp [fail_outstanding, World.enter, finished]
    obtain ⟨breaker, ⟨opened, failed⟩ | ⟨same, -, counts, failed⟩⟩ :=
      World.fail_cases config world.enter.clock world.enter world.period
    · refine ⟨_, .head _ ran (.head _ (exec_fail mem) (.refl _ _)), ?_, emptied⟩
      rw [failed]
      exact opened
    · obtain ⟨counted, _⟩ := counts closed
      have still : (world.enter.fail config world.enter.clock world.period).breaker.state =
          .closed := by
        rw [failed]
        exact same.trans closed
      have fewer : (config.failureThreshold - breaker.failureCount).toNat < left := by
        simp only [World.enter] at counted
        omega
      obtain ⟨next, reached, opened, done⟩ := ih _ fewer still emptied (by rw [failed])
      exact ⟨next, .head _ ran (.head _ (exec_fail mem) reached), opened, done⟩

theorem reach_stuck (narrow : ¬ Wide config) (halfOpen : world.breaker.state = .halfOpen)
    (finished : world.outstanding = [])
    (counted : world.breaker.successCount = world.breaker.halfOpenRequests) :
    ∃ next, (machine config).Reachable world next ∧ Stuck config next := by
  induction bound : (config.halfOpenMaxRequests - world.breaker.halfOpenRequests).toNat
    using Nat.strongRecOn generalizing world with
  | ind room ih =>
    by_cases full : config.halfOpenMaxRequests ≤ world.breaker.halfOpenRequests
    · exact ⟨world, .refl _ _, halfOpen, finished, full⟩
    · have polled : world.poll config world.clock = world :=
        poll_of_not_opened (by simp [halfOpen]) world.clock
      have ran : (machine config).exec world (world.clock, .canExecute) = .ok _ :=
        exec_canExecute (Int.le_refl _)
      rcases World.request_cases config world.clock world with
        ⟨closed, -⟩ | ⟨-, -, requested⟩ | ⟨-, filled, -⟩
      · rw [polled] at closed
        exact absurd (closed.symm.trans halfOpen) (by decide)
      · rw [polled] at requested
        generalize world.request config world.clock = entered at ran requested
        have mem : world.period ∈ entered.outstanding := by simp [requested, World.enter]
        have asked : entered.breaker.halfOpenRequests = world.breaker.halfOpenRequests + 1 := by
          rw [requested]
          rfl
        have waiting : entered.breaker.successCount = world.breaker.successCount := by
          rw [requested]
          rfl
        have still : entered.breaker.state = .halfOpen := by
          rw [requested]
          exact halfOpen
        have emptied : (entered.succeed config entered.clock world.period).outstanding = [] := by
          simp [succeed_outstanding, requested, World.enter, finished]
        unfold Wide at narrow
        obtain ⟨breaker, ⟨-, reached, -⟩ | ⟨same, counts, succeeded⟩⟩ :=
          World.succeed_cases config entered.clock entered world.period
        · omega
        · obtain ⟨_, _, -⟩ := counts still
          have fewer : (config.halfOpenMaxRequests - breaker.halfOpenRequests).toNat < room := by
            omega
          have equal : breaker.successCount = breaker.halfOpenRequests := by omega
          rw [succeeded] at emptied
          obtain ⟨next, reached, stuck⟩ := ih _ fewer (same.trans still) emptied equal rfl
          rw [← succeeded] at reached
          exact ⟨next, .head _ ran (.head _ (exec_succeed mem) reached), stuck⟩
      · rw [polled] at filled
        exact absurd (filled halfOpen) full

theorem exists_stuck (narrow : ¬ Wide config) (now : Int) :
    ∃ next, (machine config).Reachable { clock := now } next ∧ Stuck config next := by
  obtain ⟨opened, reached, state, finished⟩ : ∃ opened,
      (machine config).Reachable { clock := now } opened ∧ opened.breaker.state = .opened ∧
        opened.outstanding = [] :=
    reach_opened rfl rfl
  have later : opened.clock ≤ max opened.clock opened.breaker.nextAttempt := by omega
  have ran : (machine config).exec opened
      (max opened.clock opened.breaker.nextAttempt, .getState) =
        .ok (opened.poll config (max opened.clock opened.breaker.nextAttempt)) :=
    exec_eq_ok.mpr ⟨later, rfl⟩
  rcases World.poll_cases config (max opened.clock opened.breaker.nextAttempt) opened with
    ⟨-, -, polled⟩ | ⟨early, -⟩
  · rw [polled] at ran
    generalize half : (opened.wait _).turn (transitionTo config _ opened.breaker .halfOpen) = fresh
      at ran
    obtain ⟨next, filled, stuck⟩ : ∃ next, (machine config).Reachable fresh next ∧
        Stuck config next := by
      rw [← half]
      exact reach_stuck narrow rfl finished rfl
    exact ⟨next, reached.trans _ (.head _ ran filled), stuck⟩
  · have := early state
    omega

/-- Half-open periods never admit too many requests. Where results are timely every transition is
earned, and the breaker recovers from every state exactly when its half-open periods are wide. -/
theorem breaker_sound_iff (config : Config) (now : Int) :
    (∀ events, (machine config).Always
      (fun world => world.breaker.state = .halfOpen →
        (world.admissions : Int) ≤ max 0 config.halfOpenMaxRequests) { clock := now } events) ∧
    (∀ events, (machine config).Meets Timely { clock := now } events →
      (machine config).Always (Lawful config) { clock := now } events) ∧
    ((∀ world, (machine config).Reachable { clock := now } world → Recoverable config world) ↔
      Wide config) := by
  refine ⟨?_, ?_, ?_, ?_⟩
  · intro events
    apply (always_invariant Tracked.step (tracked_start config now) events).mono
    intro world tracked halfOpen
    exact (tracked.requested halfOpen).2
  · intro events timely
    exact always_lawful timely
  · intro recovers
    by_contra narrow
    obtain ⟨world, reached, stuck⟩ := exists_stuck narrow now
    exact stuck.not_recoverable (recovers world reached)
  · intro wide world reached
    obtain ⟨events, rfl⟩ := reached
    exact (run_invariant Tracked.step (tracked_start config now) events).recoverable wide

def halfFailed (failures total : Nat) : Bool := total ≤ 2 * failures

/-- Seven requests are admitted, five fail, and two succeed in the next half-open period. -/
def lateSuccesses : List (Int × Action) :=
  List.replicate 7 (0, .canExecute) ++ List.replicate 5 (0, .fail 0) ++
    [(30000, .canExecute), (30000, .succeed 0), (30000, .succeed 0)]

/-- Five requests fail and the only one of the next half-open period succeeds. -/
def onlyRequest : List (Int × Action) :=
  List.replicate 5 (0, .canExecute) ++ List.replicate 5 (0, .fail 0) ++
    [(30000, .canExecute), (30000, .succeed 2)]

/-- Successes of earlier requests close a half-open breaker, and a breaker that admits one request
at a time never sees the two successes that it waits for. -/
theorem late_successes_close :
    ¬ (∀ (options : Options) (rateReached : Nat → Nat → Bool) (now : Int) events,
        (machine (options.config rateReached)).Always (Lawful (options.config rateReached))
          { clock := now } events) ∧
    ¬ (∀ (options : Options) (rateReached : Nat → Nat → Bool) (now : Int) (world : World),
        (machine (options.config rateReached)).Reachable { clock := now } world →
          Recoverable (options.config rateReached) world) := by
  constructor
  · intro lawful
    have final := (lawful {} halfFailed 0 lateSuccesses).final
    have earned := final.earned
      { source := .halfOpen, target := .closed, period := 2, successes := [0, 0], failures := [] }
      (by decide)
    exact absurd (earned.closes rfl rfl) (by decide)
  · intro recovers
    have stuck : Stuck (Options.config { halfOpenMaxRequests := some 1 } halfFailed)
        ((machine (Options.config { halfOpenMaxRequests := some 1 } halfFailed)).run { clock := 0 }
          onlyRequest) :=
      ⟨by decide, by decide, by decide⟩
    exact stuck.not_recoverable (recovers _ _ 0 _ ⟨onlyRequest, rfl⟩)

end SorobanPlayground.CircuitBreaker
