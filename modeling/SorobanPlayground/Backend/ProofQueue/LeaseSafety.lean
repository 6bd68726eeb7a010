import SorobanPlayground.Backend.ProofQueue.MemoryQueue
import SorobanPlayground.Backend.ProofQueue.RedisQueue

/-! # Lease safety

Both backends keep the law of the leases while no worker, recovery, shutdown or manual requeue acts
on a task that has moved on.
-/

namespace SorobanPlayground.Backend.ProofQueue

namespace MemoryQueue

/-- A run of the memory backend in which no worker finishes late. -/
def Timely (config : Config) (events : List Event) : Prop :=
  (recording (step config) (act config)).Meets (fun state event => Undisturbed state.1 event)
    ({}, {}) events

theorem timely_upholds {config : Config} {events : List Event} (timely : Timely config events) :
    Upholds (step config) view (act config) {} events :=
  upholds_of_legal
    (fun _ _ _ wf undisturbed ran => (step_sound wf undisturbed ran).1)
    (fun _ _ _ wf undisturbed ran => (step_sound wf undisturbed ran).2)
    wellFormed_empty (kept_empty 0) timely

/-- A task is recovered from a stalled worker and completed by another one. -/
def takenOver : List Event :=
  [.enqueue "t" 50 3 0 0 none, .processNextTask 0 "w1", .clock 30000, .recover "t",
    .clock 31000, .processNextTask 1 "w2", .verified 1 true]

/-- The stalled worker completes the task of the other one. -/
def late : List Event :=
  [.enqueue "t" 50 3 0 0 none, .processNextTask 0 "w1", .clock 30000, .recover "t",
    .clock 31000, .processNextTask 1 "w2", .verified 0 true, .verified 1 false]

end MemoryQueue

namespace RedisQueue

/-- A run of the Redis backend in which no call acts on a task that has moved on. -/
def Timely (config : Config) (events : List Event) : Prop :=
  (recording (step config) (act config)).Meets
    (fun state event => Undisturbed config state.1 event) ({}, {}) events

theorem timely_upholds {config : Config} {events : List Event} (timely : Timely config events) :
    Upholds (step config) view (act config) {} events :=
  upholds_of_legal
    (fun _ _ _ wf undisturbed ran => (step_sound wf undisturbed ran).1)
    (fun _ _ _ wf undisturbed ran => (step_sound wf undisturbed ran).2)
    wellFormed_empty (kept_empty 0) timely

/-- A stalled task is recovered. -/
def recovery : List Event :=
  [.enqueue "t" 50 3 0 0 none, .processNextTask 0 "w1", .resume 0, .clock 30000,
    .recoverStalledTasks 1, .resume 1, .resume 1, .resume 1, .resume 1]

/-- The worker renews its lease between the scan and the script of the recovery. -/
def renewed : List Event :=
  [.enqueue "t" 50 3 0 0 none, .processNextTask 0 "w1", .resume 0, .clock 30000,
    .recoverStalledTasks 1, .resume 1, .resume 1, .resume 1, .heartbeat 2 "t" "w1", .resume 2,
    .resume 1]

end RedisQueue

/-- In timely runs of both backends, tasks leave `processing` as the law says, completed tasks stay
so, no task has two unexpired leases, and none is claimed too often. -/
theorem leases_upheld (config : Config) (memoryEvents : List MemoryQueue.Event)
    (redisEvents : List RedisQueue.Event) (memory : MemoryQueue.Timely config memoryEvents)
    (redis : RedisQueue.Timely config redisEvents) :
    Upholds (MemoryQueue.step config) MemoryQueue.view (MemoryQueue.act config) {} memoryEvents ∧
      Upholds (RedisQueue.step config) RedisQueue.view (RedisQueue.act config) {} redisEvents :=
  ⟨MemoryQueue.timely_upholds memory, RedisQueue.timely_upholds redis⟩

theorem leases_upheld_recovery :
    Upholds (MemoryQueue.step {}) MemoryQueue.view (MemoryQueue.act {}) {} MemoryQueue.takenOver ∧
      Upholds (RedisQueue.step {}) RedisQueue.view (RedisQueue.act {}) {} RedisQueue.recovery := by
  refine leases_upheld {} _ _
    ⟨fun _ => trivial, fun _ => trivial, fun _ => ?_, fun _ => trivial, fun _ => ?_,
      fun _ => trivial, fun _ => ?_, trivial⟩
    ⟨fun _ => trivial, fun _ => trivial, fun _ => trivial, fun _ => ?_, fun _ => trivial,
      fun _ => trivial, fun _ => trivial, fun _ => trivial, fun _ => ?_, trivial⟩
  · exact (by decide : (0 : Int) ≤ 30000)
  · exact (by decide : (30000 : Int) ≤ 31000)
  · intro task got
    cases got
    exact ⟨fun _ => rfl, nofun⟩
  · exact (by decide : (0 : Int) ≤ 30000)
  · intro task running
    cases running
    exact ⟨⟨30000, rfl, le_rfl⟩, fun _ => by decide⟩

/-- A late worker completes the task of another one, and a recovery takes a renewed task. -/
theorem late_breaks :
    ¬ Upholds (MemoryQueue.step {}) MemoryQueue.view (MemoryQueue.act {}) {} MemoryQueue.late ∧
      ¬ Upholds (RedisQueue.step {}) RedisQueue.view (RedisQueue.act {}) {} RedisQueue.renewed := by
  constructor
  · rintro ⟨-, respects⟩
    obtain ⟨-, -, -, -, -, -, completes, -⟩ := respects
    have lawful := completes ⟨_, rfl⟩ _ rfl
    rcases lawful.leaves "t" _ rfl rfl with
      ⟨changed, got, running⟩ | ⟨workerId, finished, own⟩ | ⟨recovered, -⟩ | ⟨workerId, requeued⟩
    · cases got
      cases running
    · cases finished
      exact absurd own (by decide)
    · cases recovered
    · cases requeued
  · rintro ⟨-, respects⟩
    obtain ⟨-, -, -, -, -, -, -, -, -, -, recovers, -⟩ := respects
    have lawful := recovers ⟨_, rfl⟩ _ rfl
    rcases lawful.leaves "t" _ rfl rfl with
      ⟨changed, got, running⟩ | ⟨workerId, finished, own⟩ | ⟨-, expired⟩ | ⟨workerId, requeued⟩
    · cases got
      cases running
    · cases finished
    · exact absurd expired (by decide)
    · cases requeued

end SorobanPlayground.Backend.ProofQueue
