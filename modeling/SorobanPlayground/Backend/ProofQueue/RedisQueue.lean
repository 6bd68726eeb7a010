import Mathlib.Data.List.Sort
import Mathlib.Data.String.Basic
import SorobanPlayground.Backend.ProofQueue.LeaseLaw
import SorobanPlayground.Library.OrderedMap

/-! # The Redis backend

A call sends a command or a script with arguments it has computed, Redis runs it later at once, and
the call goes on. Task hashes are read back as copies.
-/

namespace SorobanPlayground.Backend.ProofQueue

open Leases

namespace RedisQueue

structure Redis where
  tasks : OrderedMap String Task := ∅
  pending : OrderedMap String Int := ∅
  processing : OrderedMap String Int := ∅

def maxPriority : Int := 100

def scoreFor (scheduledAt priority : Int) : Int := scheduledAt * 1000 + (maxPriority - priority)

def dueScore (now : Int) : Int := now * 1000 + maxPriority

/-- `ZRANGEBYSCORE` from `-inf` on. -/
def rangeByScore (set : OrderedMap String Int) (maxScore : Int) : List String :=
  ((set.entries.filter fun member => member.2 ≤ maxScore).insertionSort fun first second =>
    first.2 < second.2 ∨ (first.2 = second.2 ∧ first.1 ≤ second.1)).map Prod.fst

namespace Redis

variable (redis : Redis)

/-- The task of an id while its status is `processing`. -/
def running (id : String) : Option Task :=
  (redis.tasks.get id).filter fun task => task.status = .processing

/-- The task of an id while a worker processes it. -/
def runningBy (id workerId : String) : Option Task :=
  (redis.running id).filter fun task => task.workerId = some workerId

def enqueue (task : Task) : Redis :=
  { redis with
    tasks := redis.tasks.set task.id task
    pending := redis.pending.set task.id (scoreFor task.scheduledAt task.priority) }

def claimScript (workerId : String) (leaseExpiresAt : Int) :
    Redis → List String → Redis × Option Task
  | redis, [] => (redis, none)
  | redis, id :: ids =>
      let unlisted := { redis with pending := redis.pending.remove id }
      match redis.tasks.get id with
      | none => claimScript workerId leaseExpiresAt unlisted ids
      | some task =>
          if task.Open then
            let claimed := task.claimed workerId leaseExpiresAt
            ({ unlisted with
              tasks := redis.tasks.set id claimed
              processing := redis.processing.set id leaseExpiresAt }, some claimed)
          else claimScript workerId leaseExpiresAt unlisted ids

def heartbeatScript (id workerId : String) (leaseExpiresAt : Int) : Redis :=
  match redis.runningBy id workerId with
  | none => redis
  | some task =>
      { redis with
        tasks := redis.tasks.set id { task with leaseExpiresAt := some leaseExpiresAt }
        processing := redis.processing.set id leaseExpiresAt }

def completeScript (id workerId : String) : Redis :=
  match redis.runningBy id workerId with
  | none => redis
  | some task =>
      { redis with
        tasks := redis.tasks.set id { task with status := .completed }
        processing := redis.processing.remove id }

/-- The write of the script of `persistFailureRedis`. -/
def fail (id : String) (task changed : Task) : Redis :=
  { redis with
    tasks := redis.tasks.set id
      { task with status := changed.status, scheduledAt := changed.scheduledAt }
    processing := redis.processing.remove id
    pending :=
      if changed.status = .retrying then
        redis.pending.set id (scoreFor changed.scheduledAt changed.priority)
      else redis.pending }

/-- The script of `persistFailureRedis`, which any worker may run when none is given. -/
def failScript (id : String) (workerId : Option String) (changed : Task) : Redis :=
  match workerId with
  | some workerId =>
      match redis.runningBy id workerId with
      | none => redis
      | some task => redis.fail id task changed
  | none =>
      match redis.running id with
      | none => redis
      | some task => redis.fail id task changed

end Redis

/-- Where a call waits: for a script or command, or with what it has read. -/
inductive Call where
  | idle
  | claiming (workerId : String) (calledAt : Int)
  /-- `verifyProofTask` of a claimed task. -/
  | executing (task : Task) (workerId : String)
  | heartbeating (id workerId : String) (calledAt : Int)
  | completing (id workerId : String)
  | failing (task : Task) (workerId : String) (failedAt : Int)
  /-- `recoverStalledTasks`, from the scan on. -/
  | scanning (calledAt : Int)
  | recovering (ids : List String)
  | recovered (id : String) (task : Option Task) (ids : List String)
  | persisting (task : Task) (failedAt : Int) (ids : List String)
  | dropping (id : String) (ids : List String)
  /-- `requeueProcessingTask` of `stopWorkers`. -/
  | requeueing (task : Task) (workerId : String) (requeuedAt : Int)
  /-- `requeueDeadLetter`. -/
  | reading (id : String)
  | found (task : Option Task)
  | reviving (task : Task) (revivedAt : Int)
  | done
  deriving DecidableEq, Repr

structure State where
  now : Int := 0
  redis : Redis := {}
  call : Nat → Call := fun _ => .idle

inductive Event where
  | clock (now : Int)
  /-- A task with a new id. -/
  | enqueue (id : String) (priority : Int) (maxRetries : Nat) (createdAt scheduledAt : Int)
      (deadlineAt : Option Int)
  | processNextTask (call : Nat) (workerId : String)
  | heartbeat (call : Nat) (id workerId : String)
  /-- `verifyProofTask` returns or throws. -/
  | verified (call : Nat) (valid : Bool)
  | recoverStalledTasks (call : Nat)
  /-- The turn of `stopWorkers` for a claimed task. -/
  | stopWorkers (call claimed : Nat)
  | requeueDeadLetter (call : Nat) (id : String)
  /-- Redis runs what a call waits for, or the call goes on. -/
  | resume (call : Nat)
  deriving DecidableEq

def State.move (state : State) (call : Nat) (phase : Call) : State :=
  { state with call := Function.update state.call call phase }

def State.withRedis (state : State) (redis : Redis) : State := { state with redis }

/-- A method is called. -/
def start (state : State) (call : Nat) (phase : Call) : Option State :=
  match state.call call with
  | .idle => some (state.move call phase)
  | _ => none

variable (config : Config) (state : State)

/-- What a call waits for happens. -/
def resume (call : Nat) : Option State :=
  match state.call call with
  | .claiming workerId calledAt =>
      let ids := (rangeByScore state.redis.pending (dueScore calledAt)).take 10
      let result := Redis.claimScript workerId (calledAt + config.lockMs) state.redis ids
      some ((state.withRedis result.1).move call
        (match result.2 with
        | none => .done
        | some task => .executing task workerId))
  | .heartbeating id workerId calledAt =>
      some ((state.withRedis
        (state.redis.heartbeatScript id workerId (calledAt + config.lockMs))).move call .done)
  | .completing id workerId =>
      some ((state.withRedis (state.redis.completeScript id workerId)).move call .done)
  | .failing task workerId failedAt =>
      some ((state.withRedis (state.redis.failScript task.id (some workerId)
        (task.failed config failedAt))).move call .done)
  | .scanning calledAt =>
      some (state.move call (.recovering (rangeByScore state.redis.processing calledAt)))
  | .recovering [] => some (state.move call .done)
  | .recovering (id :: ids) => some (state.move call (.recovered id (state.redis.tasks.get id) ids))
  | .recovered id task ids =>
      match task.filter fun task => task.status = .processing with
      | some task => some (state.move call (.persisting task state.now ids))
      | none => some (state.move call (.dropping id ids))
  | .persisting task failedAt ids =>
      some ((state.withRedis (state.redis.failScript task.id none
        (task.failed config failedAt))).move call (.recovering ids))
  | .dropping id ids =>
      some ((state.withRedis
        { state.redis with processing := state.redis.processing.remove id }).move call
          (.recovering ids))
  | .requeueing task _ requeuedAt =>
      some ((state.withRedis (state.redis.failScript task.id none
        (task.requeued requeuedAt))).move call .done)
  | .reading id => some (state.move call (.found (state.redis.tasks.get id)))
  | .found task =>
      match task.filter fun task => task.status = .deadLetter with
      | some task => some (state.move call (.reviving task state.now))
      | none => some (state.move call .done)
  | .reviving task revivedAt =>
      some ((state.withRedis (state.redis.enqueue (task.revived revivedAt))).move call .done)
  | .idle | .executing .. | .done => none

def step : Event → Option State
  | .clock now => some { state with now }
  | .enqueue id priority maxRetries createdAt scheduledAt deadlineAt =>
      match state.redis.tasks.get id with
      | some _ => none
      | none =>
          some (state.withRedis (state.redis.enqueue
            { id, priority, maxRetries, createdAt, scheduledAt, deadlineAt }))
  | .processNextTask call workerId => start state call (.claiming workerId state.now)
  | .heartbeat call id workerId => start state call (.heartbeating id workerId state.now)
  | .verified call valid =>
      match state.call call with
      | .executing task workerId =>
          if valid then some (state.move call (.completing task.id workerId))
          else some (state.move call (.failing task workerId state.now))
      | _ => none
  | .recoverStalledTasks call => start state call (.scanning state.now)
  | .stopWorkers call claimed =>
      match state.call claimed with
      | .executing task workerId => start state call (.requeueing task workerId state.now)
      | _ => none
  | .requeueDeadLetter call id => start state call (.reading id)
  | .resume call => resume config state call

def view : View := ⟨state.now, state.redis.tasks.get⟩

/-- What an event does. -/
def act (event : Event) (next : State) : Action :=
  match event with
  | .resume call =>
      match state.call call with
      | .claiming workerId calledAt =>
          match next.call call with
          | .executing task _ => .claim task.id workerId (calledAt + config.lockMs)
          | _ => .other
      | .heartbeating id workerId calledAt =>
          match state.redis.runningBy id workerId with
          | some _ => .heartbeat id workerId (calledAt + config.lockMs)
          | none => .other
      | .completing id workerId =>
          match state.redis.runningBy id workerId with
          | some _ => .finish id workerId
          | none => .other
      | .failing task workerId _ =>
          match state.redis.runningBy task.id workerId with
          | some _ => .finish task.id workerId
          | none => .other
      | .persisting task _ _ =>
          match state.redis.running task.id with
          | some _ => .recover task.id
          | none => .other
      | .requeueing task workerId _ =>
          match state.redis.running task.id with
          | some _ => .shutdown task.id workerId
          | none => .other
      | .reviving task _ => .manual task.id
      | _ => .other
  | _ => .other

/-- The clock does not run backwards. Recovery finds the lease still expired, a task that is retried
has retries left, a shutdown finds its own worker, and a manual requeue a dead letter. -/
def Undisturbed : Event → Prop
  | .clock now => state.now ≤ now
  | .resume call =>
      match state.call call with
      | .failing task workerId failedAt =>
          ∀ stored, state.redis.runningBy task.id workerId = some stored →
            (task.failed config failedAt).Open → stored.attempts ≤ stored.maxRetries
      | .persisting task failedAt _ =>
          ∀ stored, state.redis.running task.id = some stored →
            Expired stored.leaseExpiresAt state.now ∧
              ((task.failed config failedAt).Open → stored.attempts ≤ stored.maxRetries)
      | .requeueing task workerId _ =>
          ∀ stored, state.redis.running task.id = some stored → stored.workerId = some workerId
      | .reviving task _ =>
          ∀ stored, state.redis.tasks.get task.id = some stored → stored.status = .deadLetter
      | _ => True
  | _ => True

/-- The copy of a task that a manual requeue has read. -/
def Call.snapshot : Call → Option Task
  | .found task => task
  | .reviving task _ => some task
  | _ => none

/-- Tasks are stored at their ids, also those of which a manual requeue has a copy. -/
structure WellFormed (state : State) : Prop where
  keyed : ∀ id task, state.redis.tasks.get id = some task → task.id = id
  copied : ∀ call task, (state.call call).snapshot = some task →
    ∃ stored, state.redis.tasks.get task.id = some stored ∧ stored.maxRetries = task.maxRetries

theorem wellFormed_empty : WellFormed {} where
  keyed _ _ got := by cases got
  copied _ _ held := by cases held

variable {config} {state next : State} {redis : Redis}

variable {id : String} {task : Task}

theorem running_eq_some :
    redis.running id = some task ↔ redis.tasks.get id = some task ∧ task.status = .processing := by
  unfold Redis.running
  rw [Option.filter_eq_some_iff, decide_eq_true_iff]

theorem runningBy_eq_some {id workerId : String} {task : Task} :
    redis.runningBy id workerId = some task ↔
      (redis.tasks.get id = some task ∧ task.status = .processing) ∧
        task.workerId = some workerId := by
  unfold Redis.runningBy
  rw [Option.filter_eq_some_iff, running_eq_some, decide_eq_true_iff]

variable {action : Action}

theorem wellFormed_of_legal (legal : Legal (view state) (view next) action)
    (keyed : ∀ id task, next.redis.tasks.get id = some task → task.id = id)
    (copied : ∀ call task, (next.call call).snapshot = some task →
      ∃ got, state.redis.tasks.get task.id = some got ∧ got.maxRetries = task.maxRetries) :
    WellFormed next := by
  refine ⟨keyed, fun call task held => ?_⟩
  obtain ⟨_, here, limit⟩ := copied call task held
  obtain ⟨changed, wrote, same⟩ := legal.grows (show (view state).task _ = _ from here)
  exact ⟨changed, wrote, same.trans limit⟩

theorem WellFormed.copies {call : Nat} {phase : Call} (wellFormed : WellFormed state)
    (own : ∀ task, phase.snapshot = some task →
      ∃ got, state.redis.tasks.get task.id = some got ∧ got.maxRetries = task.maxRetries) :
    ∀ other task, ((state.move call phase).call other).snapshot = some task →
      ∃ got, state.redis.tasks.get task.id = some got ∧
        got.maxRetries = task.maxRetries := by
  intro other task held
  unfold State.move at held
  by_cases same : other = call
  · subst same
    dsimp only at held
    rw [Function.update_self] at held
    exact own task held
  · dsimp only at held
    rw [Function.update_of_ne same] at held
    exact wellFormed.copied other task held

variable {changed : Task}

theorem WellFormed.keyed_set (wellFormed : WellFormed state) (named : changed.id = id)
    (other : String) (task : Task)
    (here : (state.redis.tasks.set id changed).get other = some task) : task.id = other := by
  rw [OrderedMap.get_set] at here
  split at here
  · next same =>
    cases here
    exact named.trans same.symm
  · exact wellFormed.keyed other task here

theorem no_copy {phase : Call} (quiet : phase.snapshot = none) (task : Task)
    (held : phase.snapshot = some task) :
    ∃ got, state.redis.tasks.get task.id = some got ∧ got.maxRetries = task.maxRetries := by
  rw [quiet] at held
  cases held

/-- Redis changes and a call moves, legally and with the tasks in order. -/
def Runs (state : State) (redis : Redis) (call : Nat) (phase : Call) (action : Action) : Prop :=
  WellFormed ((state.withRedis redis).move call phase) ∧
    Legal (view state) (view ((state.withRedis redis).move call phase)) action

variable {call : Nat} {phase : Call}

theorem runs_set (wellFormed : WellFormed state) (changed : Task)
    (got : state.redis.tasks.get id = some task)
    (tasks : redis.tasks = state.redis.tasks.set id changed) (named : changed.id = task.id)
    (limit : changed.maxRetries = task.maxRetries) (quiet : phase.snapshot = none)
    (changes : Changes state.now id task changed action) : Runs state redis call phase action := by
  have wrote : (view ((state.withRedis redis).move call phase)).task =
      (state.redis.tasks.set id changed).get := congrArg OrderedMap.get tasks
  have legal : Legal (view state) (view ((state.withRedis redis).move call phase)) action := by
    refine .change id task changed action rfl got ?_ (fun other ne => ?_) limit changes
    · rw [wrote, OrderedMap.get_set_self]
    · rw [wrote, OrderedMap.get_set_of_ne _ _ ne]
      rfl
  refine ⟨wellFormed_of_legal legal ?_ (wellFormed.copies (no_copy quiet)), legal⟩
  change ∀ id task, redis.tasks.get id = some task → task.id = id
  rw [tasks]
  exact wellFormed.keyed_set (named.trans (wellFormed.keyed id task got))

theorem runs_same (wellFormed : WellFormed state) (tasks : redis.tasks = state.redis.tasks)
    (own : ∀ task, phase.snapshot = some task →
      ∃ got, state.redis.tasks.get task.id = some got ∧ got.maxRetries = task.maxRetries) :
    Runs state redis call phase .other := by
  have same : (view ((state.withRedis redis).move call phase)).task = (view state).task :=
    congrArg OrderedMap.get tasks
  have legal : Legal (view state) (view ((state.withRedis redis).move call phase)) .other := by
    refine .other le_rfl (fun id task got => ?_) (fun id task gone got => ?_)
    · rw [same]
      exact got
    · rw [same, gone] at got
      cases got
  refine ⟨wellFormed_of_legal legal ?_ (wellFormed.copies own), legal⟩
  change ∀ id task, redis.tasks.get id = some task → task.id = id
  rw [tasks]
  exact wellFormed.keyed

theorem claimScript_cases (workerId : String) (leaseExpiresAt : Int) (redis : Redis)
    (ids : List String) :
    ((Redis.claimScript workerId leaseExpiresAt redis ids).2 = none ∧
        (Redis.claimScript workerId leaseExpiresAt redis ids).1.tasks = redis.tasks) ∨
      ∃ id task, redis.tasks.get id = some task ∧ task.Open ∧
        (Redis.claimScript workerId leaseExpiresAt redis ids).2 =
          some (task.claimed workerId leaseExpiresAt) ∧
        (Redis.claimScript workerId leaseExpiresAt redis ids).1.tasks =
          redis.tasks.set id (task.claimed workerId leaseExpiresAt) := by
  induction ids generalizing redis with
  | nil => exact .inl ⟨rfl, rfl⟩
  | cons id _ ih =>
    unfold Redis.claimScript
    split
    · exact ih { redis with pending := redis.pending.remove id }
    · next task got =>
      split
      · next available => exact .inr ⟨id, task, got, available, rfl, rfl⟩
      · exact ih { redis with pending := redis.pending.remove id }

section

variable (wellFormed : WellFormed state)
include wellFormed

theorem runs_fail (got : state.redis.tasks.get id = some task) (quiet : phase.snapshot = none)
    (changes : Changes state.now id task
      { task with status := changed.status, scheduledAt := changed.scheduledAt } action) :
    Runs state (state.redis.fail id task changed) call phase action :=
  runs_set wellFormed _ got rfl rfl rfl quiet changes

theorem runs_claim (call : Nat) (workerId : String) (leaseExpiresAt : Int) (ids : List String) :
    match Redis.claimScript workerId leaseExpiresAt state.redis ids with
    | (redis, none) => Runs state redis call .done .other
    | (redis, some task) =>
      Runs state redis call (.executing task workerId)
        (.claim task.id workerId leaseExpiresAt) := by
  rcases claimScript_cases workerId leaseExpiresAt state.redis ids with
    ⟨none_due, tasks⟩ | ⟨id, task, got, available, claimed, tasks⟩
  · split
    · next redis script =>
      rw [script] at tasks
      exact runs_same wellFormed tasks (no_copy rfl)
    · next redis task script =>
      rw [script] at none_due
      cases none_due
  · split
    · next redis script =>
      rw [script] at claimed
      cases claimed
    · next redis found script =>
      rw [script] at claimed tasks
      cases claimed
      have same : (task.claimed workerId leaseExpiresAt).id = id :=
        wellFormed.keyed id task got
      rw [same]
      exact runs_set wellFormed (task.claimed workerId leaseExpiresAt) got tasks rfl rfl rfl
        (.claim available rfl)

theorem runs_heartbeat {call : Nat} {id workerId : String} {leaseExpiresAt : Int} :
    Runs state (state.redis.heartbeatScript id workerId leaseExpiresAt) call .done
      (match state.redis.runningBy id workerId with
      | some _ => .heartbeat id workerId leaseExpiresAt
      | none => .other) := by
  unfold Redis.heartbeatScript
  cases found : state.redis.runningBy id workerId with
  | none => exact runs_same wellFormed rfl (no_copy rfl)
  | some task =>
    obtain ⟨⟨got, running⟩, own⟩ := runningBy_eq_some.mp found
    exact runs_set wellFormed { task with leaseExpiresAt := some leaseExpiresAt } got rfl rfl
      rfl rfl (.heartbeat running own rfl)

theorem runs_complete {call : Nat} {id workerId : String} :
    Runs state (state.redis.completeScript id workerId) call .done
      (match state.redis.runningBy id workerId with
      | some _ => .finish id workerId
      | none => .other) := by
  unfold Redis.completeScript
  cases found : state.redis.runningBy id workerId with
  | none => exact runs_same wellFormed rfl (no_copy rfl)
  | some task =>
    obtain ⟨⟨got, _⟩, own⟩ := runningBy_eq_some.mp found
    exact runs_set wellFormed { task with status := .completed } got rfl rfl rfl rfl
      (.finish (fun _ => own) (fun _ => rfl) nofun
        (fun available => absurd rfl available.ne_completed) rfl)

theorem runs_failing {call : Nat} {task : Task} {workerId : String} {failedAt : Int}
    (undisturbed : ∀ got, state.redis.runningBy task.id workerId = some got →
      (task.failed config failedAt).Open → got.attempts ≤ got.maxRetries) :
    Runs state (state.redis.failScript task.id (some workerId) (task.failed config failedAt)) call
      .done
      (match state.redis.runningBy task.id workerId with
      | some _ => .finish task.id workerId
      | none => .other) := by
  unfold Redis.failScript
  dsimp only
  cases found : state.redis.runningBy task.id workerId with
  | none => exact runs_same wellFormed rfl (no_copy rfl)
  | some current =>
    obtain ⟨⟨got, running⟩, own⟩ := runningBy_eq_some.mp found
    refine runs_fail wellFormed got rfl
      (.finish (fun _ => own) (fun completed => ?_) (task.failed_ended config failedAt)
        (fun available => undisturbed current found available) rfl)
    rw [running] at completed
    cases completed

theorem runs_persisting {call : Nat} {task : Task} {failedAt : Int} {ids : List String}
    (undisturbed : ∀ got, state.redis.running task.id = some got →
      Expired got.leaseExpiresAt state.now ∧
        ((task.failed config failedAt).Open → got.attempts ≤ got.maxRetries)) :
    Runs state (state.redis.failScript task.id none (task.failed config failedAt)) call
      (.recovering ids)
      (match state.redis.running task.id with
      | some _ => .recover task.id
      | none => .other) := by
  unfold Redis.failScript
  cases found : state.redis.running task.id with
  | none => exact runs_same wellFormed rfl (no_copy rfl)
  | some current =>
    obtain ⟨got, running⟩ := running_eq_some.mp found
    obtain ⟨expired, limited⟩ := undisturbed current found
    exact runs_fail wellFormed got rfl
      (.recover running expired (task.failed_ended config failedAt) limited rfl)

theorem runs_requeueing {call : Nat} {task : Task} {workerId : String} {requeuedAt : Int}
    (undisturbed : ∀ got, state.redis.running task.id = some got → got.workerId = some workerId) :
    Runs state (state.redis.failScript task.id none (task.requeued requeuedAt)) call .done
      (match state.redis.running task.id with
      | some _ => .shutdown task.id workerId
      | none => .other) := by
  unfold Redis.failScript
  cases found : state.redis.running task.id with
  | none => exact runs_same wellFormed rfl (no_copy rfl)
  | some current =>
    obtain ⟨got, running⟩ := running_eq_some.mp found
    refine runs_fail wellFormed got rfl
      (.shutdown (fun _ => undisturbed current found) (fun completed => ?_) nofun rfl)
    rw [running] at completed
    cases completed

end

/-- A step is legal and keeps the tasks in order. -/
def Sound (config : Config) (state : State) (event : Event) (next : State) : Prop :=
  WellFormed next ∧ Legal (view state) (view next) (act config state event next)

section

variable (wellFormed : WellFormed state)

include wellFormed

theorem runs_move {call : Nat} {phase : Call} (own : ∀ task, phase.snapshot = some task →
      ∃ got, state.redis.tasks.get task.id = some got ∧ got.maxRetries = task.maxRetries) :
    Runs state state.redis call phase .other :=
  runs_same wellFormed rfl own

theorem sound_start {call : Nat} {phase : Call} (quiet : phase.snapshot = none)
    (ran : start state call phase = some next) :
    WellFormed next ∧ Legal (view state) (view next) .other := by
  unfold start at ran
  split at ran
  · cases ran
    exact runs_move wellFormed (no_copy quiet)
  · cases ran

theorem sound_enqueue {id : String} {priority : Int} {maxRetries : Nat}
    {createdAt scheduledAt : Int} {deadlineAt : Option Int} (ran :
      step config state (.enqueue id priority maxRetries createdAt scheduledAt deadlineAt) =
      some next) : WellFormed next ∧ Legal (view state) (view next) .other := by
  unfold step at ran
  dsimp only at ran
  split at ran
  · cases ran
  · next gone =>
    cases ran
    have legal : Legal (view state) (view (state.withRedis (state.redis.enqueue
        { id, priority, maxRetries, createdAt, scheduledAt, deadlineAt }))) .other := by
      refine .other le_rfl (fun other task got => ?_) fun other task absent got => ?_
      · refine (OrderedMap.get_set_of_ne _ _ ?_).trans got
        rintro rfl
        exact absurd (gone.symm.trans got) nofun
      · change (state.redis.tasks.set _ _).get other = _ at got
        rw [OrderedMap.get_set] at got
        split at got
        · cases got
          exact ⟨rfl, rfl⟩
        · exact absurd (absent.symm.trans got) nofun
    exact ⟨wellFormed_of_legal legal (wellFormed.keyed_set rfl) wellFormed.copied, legal⟩

theorem sound_resume {call : Nat} (undisturbed : Undisturbed config state (.resume call))
    (ran : resume config state call = some next) : Sound config state (.resume call) next := by
  unfold Undisturbed at undisturbed
  unfold resume at ran
  unfold Sound act
  dsimp only at undisturbed ⊢
  cases phase : state.call call with
  | idle | executing | done =>
    rw [phase] at ran
    cases ran
  | claiming workerId calledAt =>
    rw [phase] at ran
    cases ran
    have runs := runs_claim wellFormed call workerId (calledAt + config.lockMs)
      ((rangeByScore state.redis.pending (dueScore calledAt)).take 10)
    dsimp only [State.move]
    rw [Function.update_self]
    split at runs
    · next redis script =>
      rw [script]
      exact runs
    · next redis task script =>
      rw [script]
      exact runs
  | heartbeating =>
    rw [phase] at ran
    cases ran
    exact runs_heartbeat wellFormed
  | completing =>
    rw [phase] at ran
    cases ran
    exact runs_complete wellFormed
  | failing =>
    rw [phase] at ran undisturbed
    cases ran
    exact runs_failing wellFormed undisturbed
  | scanning =>
    rw [phase] at ran
    cases ran
    exact runs_move wellFormed (no_copy rfl)
  | recovering ids =>
    rw [phase] at ran
    cases ids with
    | nil | cons id ids =>
      cases ran
      exact runs_move wellFormed (no_copy rfl)
  | recovered =>
    rw [phase] at ran
    dsimp only at ran
    split at ran
    · cases ran
      exact runs_move wellFormed (no_copy rfl)
    · cases ran
      exact runs_move wellFormed (no_copy rfl)
  | persisting =>
    rw [phase] at ran undisturbed
    cases ran
    exact runs_persisting wellFormed undisturbed
  | dropping =>
    rw [phase] at ran
    cases ran
    exact runs_same wellFormed rfl (no_copy rfl)
  | requeueing =>
    rw [phase] at ran undisturbed
    cases ran
    exact runs_requeueing wellFormed undisturbed
  | reading id =>
    rw [phase] at ran
    cases ran
    refine runs_move wellFormed fun task held => ?_
    have got : state.redis.tasks.get id = some task := held
    refine ⟨task, ?_, rfl⟩
    rw [wellFormed.keyed id task got]
    exact got
  | found =>
    rw [phase] at ran
    dsimp only at ran
    split at ran
    · next dead chosen =>
      cases ran
      refine runs_move wellFormed fun held same => ?_
      cases same
      obtain ⟨rfl, -⟩ := Option.filter_eq_some_iff.mp chosen
      exact wellFormed.copied call dead (by rw [phase]; rfl)
    · cases ran
      exact runs_move wellFormed (no_copy rfl)
  | reviving task revivedAt =>
    rw [phase] at ran undisturbed
    cases ran
    obtain ⟨got, here, limit⟩ := wellFormed.copied call task (by rw [phase]; rfl)
    exact runs_set wellFormed (task.revived revivedAt) here rfl
      (wellFormed.keyed task.id got here).symm limit.symm rfl
      (.manual (undisturbed got here) nofun rfl)

theorem step_sound {event : Event} (undisturbed : Undisturbed config state event)
    (ran : step config state event = some next) : Sound config state event next := by
  cases event with
  | clock now =>
    cases ran
    have legal : Legal (view state) (view { state with now }) .other := by
      refine .other undisturbed (fun _ _ got => got) fun id task gone got => ?_
      exact absurd (gone.symm.trans got) nofun
    exact ⟨⟨wellFormed.keyed, wellFormed.copied⟩, legal⟩
  | enqueue => exact sound_enqueue wellFormed ran
  | processNextTask => exact sound_start wellFormed rfl ran
  | heartbeat => exact sound_start wellFormed rfl ran
  | verified =>
    unfold step at ran
    dsimp only at ran
    split at ran
    · split at ran
      · cases ran
        exact runs_move wellFormed (no_copy rfl)
      · cases ran
        exact runs_move wellFormed (no_copy rfl)
    · cases ran
  | recoverStalledTasks => exact sound_start wellFormed rfl ran
  | stopWorkers =>
    unfold step at ran
    dsimp only at ran
    split at ran
    · exact sound_start wellFormed rfl ran
    · cases ran
  | requeueDeadLetter => exact sound_start wellFormed rfl ran
  | resume => exact sound_resume wellFormed undisturbed ran

end

end RedisQueue

end SorobanPlayground.Backend.ProofQueue
