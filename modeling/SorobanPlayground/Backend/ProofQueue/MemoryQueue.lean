import Mathlib.Data.List.Sort
import SorobanPlayground.Backend.ProofQueue.LeaseLaw
import SorobanPlayground.Library.OrderedMap

/-! # The memory backend

Workers hold the task objects of the map. No method of this backend waits between its tests and its
writes, so that every event is one turn of the loop over tasks, active tasks or workers.
-/

namespace SorobanPlayground.Backend.ProofQueue

open Leases OrderedMap

namespace MemoryQueue

/-- A call of `processNextTask`. -/
inductive Run where
  | idle
  /-- `verifyProofTask` of a claimed task. -/
  | executing (id workerId : String)
  | finished
  deriving DecidableEq, Repr

structure State where
  now : Int := 0
  tasks : OrderedMap String Task := ∅
  /-- The worker of each task in `activeLocalTasks`. -/
  activeLocalTasks : OrderedMap String String := ∅
  run : Nat → Run := fun _ => .idle

inductive Event where
  | clock (now : Int)
  /-- A task with a new id. -/
  | enqueue (id : String) (priority : Int) (maxRetries : Nat) (createdAt scheduledAt : Int)
      (deadlineAt : Option Int)
  | processNextTask (run : Nat) (workerId : String)
  | heartbeat (id workerId : String)
  /-- `verifyProofTask` returns or throws. -/
  | verified (run : Nat) (valid : Bool)
  /-- The turn of `recoverStalledTasks` for a task. -/
  | recover (id : String)
  /-- The turn of `stopWorkers` for an active task. -/
  | requeue (id : String)
  /-- The end of `stopWorkers`. -/
  | stopped
  | requeueDeadLetter (id : String)
  deriving DecidableEq

namespace State

variable (state : State)

def withTask (task : Task) : State := { state with tasks := state.tasks.set task.id task }

def withRun (run : Nat) (phase : Run) : State :=
  { state with run := Function.update state.run run phase }

def inactive (id : String) : State :=
  { state with activeLocalTasks := state.activeLocalTasks.remove id }

end State

/-- The order of due tasks. -/
def Before (first second : Task) : Prop :=
  first.scheduledAt < second.scheduledAt ∨
    (first.scheduledAt = second.scheduledAt ∧
      (second.priority < first.priority ∨
        (first.priority = second.priority ∧ first.createdAt ≤ second.createdAt)))

instance : DecidableRel Before := fun _ _ => inferInstanceAs (Decidable (_ ∨ _))

def due (state : State) : List Task :=
  (state.tasks.values.filter fun task => task.Open ∧ task.scheduledAt ≤ state.now).insertionSort
    Before

variable (config : Config) (state : State)

def claimMemoryTask (workerId : String) : Option (State × Task) :=
  (due state).head?.map fun task =>
    let claimed := task.claimed workerId (state.now + config.lockMs)
    ({ state.withTask claimed with
      activeLocalTasks := state.activeLocalTasks.set task.id workerId }, claimed)

def heartbeat (id workerId : String) : State :=
  match state.tasks.get id with
  | none => state
  | some task =>
      if task.workerId = some workerId ∧ task.status = .processing then
        state.withTask { task with leaseExpiresAt := some (state.now + config.lockMs) }
      else state

def completeTask (task : Task) (workerId : String) : State :=
  (state.withTask { task with workerId := some workerId, status := .completed }).inactive task.id

def failTask (task : Task) : State :=
  (state.withTask (task.failed config state.now)).inactive task.id

def step : Event → Option State
  | .clock now => some { state with now }
  | .enqueue id priority maxRetries createdAt scheduledAt deadlineAt =>
      match state.tasks.get id with
      | some _ => none
      | none =>
          some (state.withTask { id, priority, maxRetries, createdAt, scheduledAt, deadlineAt })
  | .processNextTask run workerId =>
      match state.run run with
      | .idle =>
          match claimMemoryTask config state workerId with
          | none => some (state.withRun run .finished)
          | some (claimed, task) => some (claimed.withRun run (.executing task.id workerId))
      | _ => none
  | .heartbeat id workerId => some (heartbeat config state id workerId)
  | .verified run valid =>
      match state.run run with
      | .executing id workerId =>
          match state.tasks.get id with
          | none => none
          | some task =>
              if valid then some ((completeTask state task workerId).withRun run .finished)
              else some ((failTask config state task).withRun run .finished)
      | _ => none
  | .recover id =>
      match state.tasks.get id with
      | none => none
      | some task =>
          if task.status = .processing ∧ Expired task.leaseExpiresAt state.now then
            some (failTask config state task)
          else none
  | .requeue id =>
      match state.activeLocalTasks.get id, state.tasks.get id with
      | some _, some task => some (state.withTask (task.requeued state.now))
      | _, _ => none
  | .stopped => some { state with activeLocalTasks := ∅ }
  | .requeueDeadLetter id =>
      match state.tasks.get id with
      | none => none
      | some task =>
          if task.status = .deadLetter then some (state.withTask (task.revived state.now)) else none

def view : View := ⟨state.now, state.tasks.get⟩

/-- What an event does. -/
def act (event : Event) (next : State) : Action :=
  match event with
  | .processNextTask run _ =>
      match next.run run with
      | .executing id workerId => .claim id workerId (state.now + config.lockMs)
      | _ => .other
  | .heartbeat id workerId =>
      match state.tasks.get id with
      | none => .other
      | some task =>
          if task.workerId = some workerId ∧ task.status = .processing then
            .heartbeat id workerId (state.now + config.lockMs)
          else .other
  | .verified run _ =>
      match state.run run with
      | .executing id workerId => .finish id workerId
      | _ => .other
  | .recover id => .recover id
  | .requeue id =>
      match state.activeLocalTasks.get id with
      | some workerId => .shutdown id workerId
      | none => .other
  | .requeueDeadLetter id => .manual id
  | _ => .other

/-- The clock does not run backwards, no worker finishes a task that is processed by another one,
and none fails a task that is completed. -/
def Undisturbed : Event → Prop
  | .clock now => state.now ≤ now
  | .verified run valid =>
      match state.run run with
      | .executing id workerId => ∀ task, state.tasks.get id = some task →
          (task.status = .processing → task.workerId = some workerId) ∧
            (valid = false → task.status ≠ .completed)
      | _ => True
  | _ => True

/-- Tasks are stored at their ids, and an active task is processed by its worker or was requeued. -/
structure WellFormed (state : State) : Prop where
  keyed : ∀ id task, state.tasks.get id = some task → task.id = id
  active : ∀ id workerId, state.activeLocalTasks.get id = some workerId →
    ∃ task, state.tasks.get id = some task ∧
      (task.status = .processing ∧ task.workerId = some workerId ∨ task.status = .retrying)

theorem wellFormed_empty : WellFormed {} where
  keyed _ _ got := by cases got
  active _ _ held := by cases held

variable {config} {state next : State}

theorem due_head {task : Task} (first : (due state).head? = some task) :
    (∃ id, state.tasks.get id = some task) ∧ task.Open := by
  have mem : task ∈ due state := List.mem_of_head? first
  unfold due at mem
  rw [List.mem_insertionSort] at mem
  obtain ⟨got, chosen⟩ := List.mem_filter.mp mem
  obtain ⟨entry, here, rfl⟩ := List.mem_map.mp got
  exact ⟨⟨entry.1, get_eq_some.mpr here⟩, (of_decide_eq_true chosen).1⟩

theorem WellFormed.write {activeLocalTasks : OrderedMap String String}
    (wellFormed : WellFormed state) (task : Task)
    (tasks : next.tasks = state.tasks.set task.id task)
    (active : next.activeLocalTasks = activeLocalTasks)
    (others : ∀ id workerId, id ≠ task.id → activeLocalTasks.get id = some workerId →
      state.activeLocalTasks.get id = some workerId)
    (own : ∀ workerId, activeLocalTasks.get task.id = some workerId →
      task.status = .processing ∧ task.workerId = some workerId ∨ task.status = .retrying) :
    WellFormed next := by
  constructor
  · intro id found here
    rw [tasks, OrderedMap.get_set] at here
    split at here
    · next same =>
      cases here
      exact same.symm
    · exact wellFormed.keyed id found here
  · intro id workerId here
    rw [active] at here
    by_cases same : id = task.id
    · subst same
      exact ⟨task, by rw [tasks, OrderedMap.get_set_self], own workerId here⟩
    · obtain ⟨found, got, running⟩ :=
        wellFormed.active id workerId (others id workerId same here)
      exact ⟨found, by rw [tasks, OrderedMap.get_set_of_ne _ _ same]; exact got, running⟩

variable {id : String}

theorem legal_write {task : Task} {action : Action}
    (wellFormed : WellFormed state) (changed : Task) (got : state.tasks.get id = some task)
    (named : changed.id = task.id) (limit : changed.maxRetries = task.maxRetries)
    (now : next.now = state.now) (tasks : next.tasks = state.tasks.set changed.id changed)
    (changes : Changes state.now id task changed action) :
    Legal (view state) (view next) action := by
  have own : changed.id = id := named.trans (wellFormed.keyed id task got)
  refine .change id task changed action now got ?_ (fun other ne => ?_) limit changes
  · change next.tasks.get id = _
    rw [tasks, own, OrderedMap.get_set_self]
  · change next.tasks.get other = _
    rw [tasks, own, OrderedMap.get_set_of_ne _ _ ne]
    rfl

theorem legal_other (now : state.now ≤ next.now) (tasks : next.tasks = state.tasks) :
    Legal (view state) (view next) .other := by
  have same : (view next).task = (view state).task := congrArg OrderedMap.get tasks
  refine .other now (fun id task got => ?_) (fun id task gone got => ?_)
  · rw [same]
    exact got
  · rw [same, gone] at got
    cases got

theorem get_remove_ne {map : OrderedMap String String} {id other workerId : String}
    (ne : other ≠ id) (here : (map.remove id).get other = some workerId) :
    map.get other = some workerId := by
  rwa [OrderedMap.get_remove_of_ne _ ne] at here

/-- A step is legal and keeps the maps in order. -/
def Sound (config : Config) (state : State) (event : Event) (next : State) : Prop :=
  WellFormed next ∧ Legal (view state) (view next) (act config state event next)

section

variable (wellFormed : WellFormed state)

include wellFormed

theorem sound_enqueue {priority : Int} {maxRetries : Nat} {createdAt scheduledAt : Int}
    {deadlineAt : Option Int} (ran :
      step config state (.enqueue id priority maxRetries createdAt scheduledAt deadlineAt) =
      some next) :
    Sound config state (.enqueue id priority maxRetries createdAt scheduledAt deadlineAt) next := by
  unfold step at ran
  dsimp only at ran
  split at ran
  · cases ran
  · next gone =>
    cases ran
    constructor
    · refine wellFormed.write _ rfl rfl (fun _ _ _ here => here) fun workerId here => ?_
      obtain ⟨task, got, -⟩ := wellFormed.active id workerId here
      rw [gone] at got
      cases got
    · refine .other le_rfl (fun other task got => ?_) fun other task absent got => ?_
      · refine (OrderedMap.get_set_of_ne _ _ ?_).trans got
        rintro rfl
        exact absurd (gone.symm.trans got) nofun
      · change (state.tasks.set _ _).get other = _ at got
        rw [OrderedMap.get_set] at got
        split at got
        · cases got
          exact ⟨rfl, rfl⟩
        · exact absurd (absent.symm.trans got) nofun

theorem sound_processNextTask {run : Nat} {workerId : String}
    (ran : step config state (.processNextTask run workerId) = some next) :
    Sound config state (.processNextTask run workerId) next := by
  unfold step claimMemoryTask at ran
  dsimp only at ran
  split at ran
  · cases first : (due state).head? with
    | none =>
      rw [first] at ran
      cases ran
      refine ⟨⟨wellFormed.keyed, wellFormed.active⟩, ?_⟩
      unfold act
      dsimp only [State.withRun]
      rw [Function.update_self]
      exact legal_other le_rfl rfl
    | some task =>
      rw [first] at ran
      cases ran
      obtain ⟨⟨id, got⟩, available⟩ := due_head first
      have named := wellFormed.keyed id task got
      subst named
      constructor
      · refine wellFormed.write (task.claimed workerId (state.now + config.lockMs))
          rfl rfl (fun other holder ne here => ?_) fun holder here => ?_
        · exact (OrderedMap.get_set_of_ne _ _ ne).symm.trans here
        · refine .inl ⟨rfl, ?_⟩
          exact (OrderedMap.get_set_self _ _ _).symm.trans here
      · unfold act
        dsimp only [State.withRun]
        rw [Function.update_self]
        exact legal_write wellFormed (task.claimed workerId (state.now + config.lockMs)) got
          rfl rfl rfl rfl (.claim available rfl)
  · cases ran

theorem sound_heartbeat {id workerId : String} :
    Sound config state (.heartbeat id workerId) (heartbeat config state id workerId) := by
  unfold Sound act heartbeat
  dsimp only
  cases got : state.tasks.get id with
  | none => exact ⟨wellFormed, legal_other le_rfl rfl⟩
  | some task =>
    dsimp only
    split
    · next own =>
      constructor
      · refine wellFormed.write _ rfl rfl (fun _ _ _ here => here)
          fun holder here => ?_
        obtain ⟨_, kept, running⟩ := wellFormed.active _ holder here
        have named := wellFormed.keyed id task got
        rw [named, got] at kept
        cases kept
        exact running
      · exact legal_write wellFormed
          { task with leaseExpiresAt := some (state.now + config.lockMs) } got
          rfl rfl rfl rfl (.heartbeat own.2 own.1 rfl)
    · exact ⟨wellFormed, legal_other le_rfl rfl⟩

theorem WellFormed.inactive (task : Task) (tasks : next.tasks = state.tasks.set task.id task)
    (active : next.activeLocalTasks = state.activeLocalTasks.remove task.id) : WellFormed next := by
  refine wellFormed.write task tasks active (fun _ _ ne here => ?_) fun _ here => ?_
  · exact get_remove_ne ne here
  · rw [OrderedMap.get_remove_self] at here
    cases here

theorem sound_verified {run : Nat} {valid : Bool}
    (undisturbed : Undisturbed state (.verified run valid))
    (ran : step config state (.verified run valid) = some next) :
    Sound config state (.verified run valid) next := by
  unfold step at ran
  unfold Undisturbed at undisturbed
  unfold Sound act
  dsimp only at ran undisturbed ⊢
  cases running : state.run run with
  | idle | finished =>
    rw [running] at ran
    cases ran
  | executing _ workerId =>
    rw [running] at ran undisturbed
    dsimp only at ran undisturbed ⊢
    split at ran
    · cases ran
    · next task got =>
      obtain ⟨own, unfinished⟩ := undisturbed task got
      cases valid with
      | true =>
        cases ran
        refine ⟨wellFormed.inactive
          { task with workerId := some workerId, status := .completed } rfl rfl, ?_⟩
        refine legal_write wellFormed
          { task with workerId := some workerId, status := .completed } got
          rfl rfl rfl rfl (.finish own (fun _ => rfl) nofun
            (fun available => absurd rfl available.ne_completed) rfl)
      | false =>
        cases ran
        refine ⟨wellFormed.inactive (task.failed config state.now) rfl ?_, ?_⟩
        · rw [Task.failed_id]
          rfl
        · exact legal_write wellFormed (task.failed config state.now) got
            (task.failed_id config state.now)
            (task.failed_maxRetries config state.now) rfl rfl
            (.finish own (fun completed => absurd completed (unfinished rfl))
              (task.failed_ended config state.now) (task.failed_open config state.now)
              (task.failed_attempts config state.now))

theorem sound_recover (ran : step config state (.recover id) = some next) :
    Sound config state (.recover id) next := by
  unfold step at ran
  dsimp only at ran
  split at ran
  · cases ran
  · next task got =>
    split at ran
    · next stalled =>
      cases ran
      refine ⟨wellFormed.inactive (task.failed config state.now) rfl ?_, ?_⟩
      · rw [Task.failed_id]
        rfl
      · exact legal_write wellFormed (task.failed config state.now) got
          (task.failed_id config state.now)
          (task.failed_maxRetries config state.now) rfl rfl
          (.recover stalled.1 stalled.2 (task.failed_ended config state.now)
            (task.failed_open config state.now) (task.failed_attempts config state.now))
    · cases ran

theorem sound_requeue (ran : step config state (.requeue id) = some next) :
    Sound config state (.requeue id) next := by
  unfold step at ran
  unfold Sound act
  dsimp only at ran ⊢
  split at ran
  · next workerId task active got =>
    cases ran
    rw [active]
    obtain ⟨_, same, running⟩ := wellFormed.active id workerId active
    cases got.symm.trans same
    constructor
    · exact wellFormed.write (task.requeued state.now) rfl rfl
        (fun _ _ _ here => here) fun _ _ => .inr rfl
    · refine legal_write wellFormed (task.requeued state.now) got rfl rfl rfl rfl
        (.shutdown (fun processing => ?_) (fun completed => ?_) (by simp [Task.requeued]) rfl)
      · rcases running with ⟨-, own⟩ | retrying
        · exact own
        · rw [retrying] at processing
          cases processing
      · rw [completed] at running
        rcases running with ⟨processing, -⟩ | retrying
        · cases processing
        · cases retrying
  · cases ran

theorem sound_requeueDeadLetter (ran : step config state (.requeueDeadLetter id) = some next) :
    Sound config state (.requeueDeadLetter id) next := by
  unfold step at ran
  dsimp only at ran
  split at ran
  · cases ran
  · next task got =>
    split at ran
    · next dead =>
      cases ran
      have named := wellFormed.keyed id task got
      constructor
      · refine wellFormed.write (task.revived state.now) rfl rfl
          (fun _ _ _ here => here) fun workerId here => ?_
        change state.activeLocalTasks.get task.id = _ at here
        rw [named] at here
        obtain ⟨_, same, running⟩ := wellFormed.active id workerId here
        cases got.symm.trans same
        rw [dead] at running
        rcases running with ⟨processing, -⟩ | retrying
        · cases processing
        · cases retrying
      · exact legal_write wellFormed (task.revived state.now) got rfl rfl rfl rfl
          (.manual dead nofun rfl)
    · cases ran

theorem step_sound {event : Event} (undisturbed : Undisturbed state event)
    (ran : step config state event = some next) : Sound config state event next := by
  cases event with
  | clock =>
    cases ran
    exact ⟨⟨wellFormed.keyed, wellFormed.active⟩, legal_other undisturbed rfl⟩
  | enqueue => exact sound_enqueue wellFormed ran
  | processNextTask => exact sound_processNextTask wellFormed ran
  | heartbeat =>
    cases ran
    exact sound_heartbeat wellFormed
  | verified => exact sound_verified wellFormed undisturbed ran
  | recover => exact sound_recover wellFormed ran
  | requeue => exact sound_requeue wellFormed ran
  | stopped =>
    cases ran
    exact ⟨⟨wellFormed.keyed, nofun⟩, legal_other le_rfl rfl⟩
  | requeueDeadLetter => exact sound_requeueDeadLetter wellFormed ran

end

end MemoryQueue

end SorobanPlayground.Backend.ProofQueue
