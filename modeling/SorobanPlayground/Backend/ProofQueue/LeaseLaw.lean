import Mathlib.Algebra.Group.Int.Defs
import SorobanPlayground.Library.CallMachine
import SorobanPlayground.Library.Leases

/-! # The law of the leases

The two backends of the oracle proof queue share the task record and the decision of `failTask`;
times are milliseconds. A backend shows a clock and its tasks, and every step of it is an action on
at most one task. Steps that are legal keep the law.
-/

namespace SorobanPlayground.Backend.ProofQueue

open Function Leases

inductive Status where
  | queued
  | processing
  | retrying
  | completed
  | deadLetter
  deriving DecidableEq, Repr

structure Task where
  id : String
  priority : Int
  maxRetries : Nat
  createdAt : Int
  scheduledAt : Int
  deadlineAt : Option Int := none
  attempts : Nat := 0
  status : Status := .queued
  workerId : Option String := none
  leaseExpiresAt : Option Int := none
  deriving DecidableEq, Repr

structure Config where
  lockMs : Int := 30000
  backoffMs : Int := 1000
  maxBackoffMs : Int := 60000

namespace Task

variable (task : Task)

def Fresh : Prop := task.status = .queued ∧ task.attempts = 0

instance : Decidable task.Fresh := inferInstanceAs (Decidable (_ ∧ _))

def Open : Prop := task.status = .queued ∨ task.status = .retrying

instance : Decidable task.Open := inferInstanceAs (Decidable (_ ∨ _))

variable {task} in
theorem Open.ne_processing (available : task.Open) : task.status ≠ .processing := by
  intro running
  rcases available with queued | retrying
  · exact absurd (running.symm.trans queued) nofun
  · exact absurd (running.symm.trans retrying) nofun

variable {task} in
theorem Open.ne_completed (available : task.Open) : task.status ≠ .completed := by
  intro completed
  rcases available with queued | retrying
  · exact absurd (completed.symm.trans queued) nofun
  · exact absurd (completed.symm.trans retrying) nofun

def claimed (workerId : String) (leaseExpiresAt : Int) : Task :=
  { task with
    attempts := task.attempts + 1
    workerId := some workerId
    leaseExpiresAt := some leaseExpiresAt
    status := .processing }

def DeadlineExpired (now : Int) : Prop := Expired task.deadlineAt now

instance (now : Int) : Decidable (task.DeadlineExpired now) :=
  inferInstanceAs (Decidable (Expired _ _))

def ShouldRetry (now : Int) : Prop :=
  ¬ task.DeadlineExpired now ∧ task.attempts ≤ task.maxRetries

instance (now : Int) : Decidable (task.ShouldRetry now) := inferInstanceAs (Decidable (_ ∧ _))

def retryDelay (config : Config) : Int :=
  min config.maxBackoffMs (config.backoffMs * 2 ^ (task.attempts - 1))

/-- The task after `failTask`. -/
def failed (config : Config) (now : Int) : Task :=
  if task.ShouldRetry now then
    { task with scheduledAt := now + task.retryDelay config, status := .retrying }
  else { task with status := .deadLetter }

/-- The task after `requeueProcessingTask`. -/
def requeued (now : Int) : Task := { task with scheduledAt := now, status := .retrying }

/-- The task after `requeueDeadLetter`. -/
def revived (now : Int) : Task :=
  { task with attempts := 0, workerId := none, scheduledAt := now, status := .queued }

variable (config : Config) (now : Int)

@[simp] theorem failed_id : (task.failed config now).id = task.id := by
  unfold failed
  split <;> rfl

@[simp] theorem failed_attempts : (task.failed config now).attempts = task.attempts := by
  unfold failed
  split <;> rfl

@[simp] theorem failed_maxRetries : (task.failed config now).maxRetries = task.maxRetries := by
  unfold failed
  split <;> rfl

theorem failed_ended : (task.failed config now).status ≠ .processing := by
  unfold failed
  split <;> exact nofun

theorem failed_open (available : (task.failed config now).Open) :
    task.attempts ≤ task.maxRetries := by
  unfold failed at available
  split at available
  · next retry => exact retry.2
  · rcases available with queued | retrying
    · cases queued
    · cases retrying

end Task

structure View where
  now : Int
  task : String → Option Task

inductive Action where
  | other
  | claim (id workerId : String) (expiresAt : Int)
  | heartbeat (id workerId : String) (expiresAt : Int)
  /-- `completeTask` or `failTask` of a worker. -/
  | finish (id workerId : String)
  | recover (id : String)
  /-- The requeue of `stopWorkers`. -/
  | shutdown (id workerId : String)
  /-- `requeueDeadLetter`. -/
  | manual (id : String)
  deriving DecidableEq, Repr

/-- What every step respects. -/
structure Lawful (before : View) (action : Action) (after : View) : Prop where
  /-- The ways out of `processing`. -/
  leaves : ∀ id task, before.task id = some task → task.status = .processing →
    (∃ changed, after.task id = some changed ∧ changed.status = .processing) ∨
      (∃ workerId, action = .finish id workerId ∧ task.workerId = some workerId) ∨
      (action = .recover id ∧ Expired task.leaseExpiresAt before.now) ∨
      ∃ workerId, action = .shutdown id workerId
  completed : ∀ id task, before.task id = some task → task.status = .completed →
    ∃ changed, after.task id = some changed ∧ changed.status = .completed

/-- The leases of the workers, and the claims and shutdown requeues of each task since it was last
requeued manually. -/
structure Record where
  grants : Grants String String Int := fun _ _ => none
  claims : String → Nat := fun _ => 0
  requeues : String → Nat := fun _ => 0

def Record.follow (record : Record) : Action → Record
  | .other => record
  | .claim id workerId expiresAt =>
      { record with
        grants := record.grants.record id workerId (some (some expiresAt))
        claims := Function.update record.claims id (record.claims id + 1) }
  | .heartbeat id workerId expiresAt =>
      { record with grants := record.grants.record id workerId (some (some expiresAt)) }
  | .finish id workerId => { record with grants := record.grants.record id workerId none }
  | .recover _ => record
  | .shutdown id workerId =>
      { record with
        grants := record.grants.record id workerId none
        requeues := Function.update record.requeues id (record.requeues id + 1) }
  | .manual id =>
      { record with
        claims := Function.update record.claims id 0
        requeues := Function.update record.requeues id 0 }

/-- No task is processed under two unexpired leases, or claimed too often. -/
structure Safe (view : View) (record : Record) : Prop where
  exclusive : Exclusive record.grants view.now
  bounded : ∀ id task, view.task id = some task →
    record.claims id ≤ task.maxRetries + 1 + record.requeues id

/-- What an action may do to its task. -/
inductive Changes (now : Int) (id : String) (task changed : Task) : Action → Prop
  | claim {workerId : String} {expiresAt : Int} (available : task.Open)
      (written : changed = task.claimed workerId expiresAt) :
      Changes now id task changed (.claim id workerId expiresAt)
  | heartbeat {workerId : String} {expiresAt : Int} (running : task.status = .processing)
      (own : task.workerId = some workerId)
      (written : changed = { task with leaseExpiresAt := some expiresAt }) :
      Changes now id task changed (.heartbeat id workerId expiresAt)
  | finish {workerId : String} (own : task.status = .processing → task.workerId = some workerId)
      (final : task.status = .completed → changed.status = .completed)
      (ended : changed.status ≠ .processing)
      (limited : changed.Open → task.attempts ≤ task.maxRetries)
      (attempts : changed.attempts = task.attempts) :
      Changes now id task changed (.finish id workerId)
  | recover (running : task.status = .processing) (expired : Expired task.leaseExpiresAt now)
      (ended : changed.status ≠ .processing)
      (limited : changed.Open → task.attempts ≤ task.maxRetries)
      (attempts : changed.attempts = task.attempts) : Changes now id task changed (.recover id)
  | shutdown {workerId : String} (own : task.status = .processing → task.workerId = some workerId)
      (final : task.status ≠ .completed) (ended : changed.status ≠ .processing)
      (attempts : changed.attempts = task.attempts) :
      Changes now id task changed (.shutdown id workerId)
  | manual (dead : task.status = .deadLetter) (ended : changed.status ≠ .processing)
      (attempts : changed.attempts = 0) : Changes now id task changed (.manual id)

inductive Legal (before after : View) : Action → Prop
  | other (passed : before.now ≤ after.now)
      (kept : ∀ id task, before.task id = some task → after.task id = some task)
      (fresh : ∀ id task, before.task id = none → after.task id = some task → task.Fresh) :
      Legal before after .other
  | change (id : String) (task changed : Task) (action : Action) (now : after.now = before.now)
      (stored : before.task id = some task) (written : after.task id = some changed)
      (elsewhere : ∀ other, other ≠ id → after.task other = before.task other)
      (limit : changed.maxRetries = task.maxRetries)
      (changes : Changes before.now id task changed action) : Legal before after action

variable {before after : View} {action : Action} {record : Record}

theorem Legal.lawful (legal : Legal before after action) : Lawful before action after := by
  cases legal with
  | other _ kept =>
    exact ⟨fun id task stored running => .inl ⟨task, kept id task stored, running⟩,
      fun id task stored completed => ⟨task, kept id task stored, completed⟩⟩
  | change id _ changed _ _ stored written elsewhere _ changes =>
    constructor
    · intro other found here running
      by_cases same : other = id
      · subst same
        cases stored.symm.trans here
        cases changes with
        | claim available => exact absurd running available.ne_processing
        | heartbeat _ _ renewed =>
          exact .inl ⟨changed, written, by rw [renewed]; exact running⟩
        | finish own => exact .inr (.inl ⟨_, rfl, own running⟩)
        | recover _ expired => exact .inr (.inr (.inl ⟨rfl, expired⟩))
        | shutdown => exact .inr (.inr (.inr ⟨_, rfl⟩))
        | manual dead =>
          rw [dead] at running
          cases running
      · exact .inl ⟨found, (elsewhere other same).trans here, running⟩
    · intro other found here completed
      by_cases same : other = id
      · subst same
        cases stored.symm.trans here
        cases changes with
        | claim available => exact absurd completed available.ne_completed
        | heartbeat running =>
          rw [completed] at running
          cases running
        | finish _ final => exact ⟨changed, written, final completed⟩
        | recover running =>
          rw [completed] at running
          cases running
        | shutdown _ final => exact absurd completed final
        | manual dead =>
          rw [dead] at completed
          cases completed
      · exact ⟨found, (elsewhere other same).trans here, completed⟩

variable {id : String} {task : Task}

theorem Legal.grows (legal : Legal before after action) (stored : before.task id = some task) :
    ∃ changed, after.task id = some changed ∧ changed.maxRetries = task.maxRetries := by
  cases legal with
  | other _ kept => exact ⟨task, kept id task stored, rfl⟩
  | change own _ changed _ _ here written elsewhere limit =>
    by_cases same : id = own
    · subst same
      cases here.symm.trans stored
      exact ⟨changed, written, limit⟩
    · exact ⟨task, (elsewhere id same).trans stored, rfl⟩

def Task.lease (task : Task) : Option (Lease String Int) :=
  if task.status = .processing then
    task.workerId.map fun workerId => ⟨workerId, task.leaseExpiresAt⟩
  else none

def View.leases (view : View) (id : String) : Option (Lease String Int) :=
  (view.task id).bind Task.lease

/-- Unexpired grants are the leases of the tasks, and attempts are claims. -/
structure Kept (view : View) (record : Record) : Prop where
  backed : Backed view.leases record.grants view.now
  absent : ∀ id, view.task id = none → record.claims id = 0
  attempts : ∀ id task, view.task id = some task → record.claims id = task.attempts
  bounded : ∀ id task, view.task id = some task →
    record.claims id ≤ task.maxRetries + 1 + record.requeues id
  limited : ∀ id task, view.task id = some task → task.Open →
    record.claims id ≤ task.maxRetries + record.requeues id

variable {view : View}

theorem Kept.safe {record : Record} (kept : Kept view record) : Safe view record :=
  ⟨kept.backed.exclusive, kept.bounded⟩

theorem kept_empty (now : Int) : Kept ⟨now, fun _ => none⟩ {} where
  backed _ _ _ granted := by cases granted
  absent _ _ := rfl
  attempts _ _ stored := by cases stored
  bounded _ _ stored := by cases stored
  limited _ _ stored := by cases stored

variable {workerId : String}

theorem lease_of_processing (running : task.status = .processing)
    (own : task.workerId = some workerId) : task.lease = some ⟨workerId, task.leaseExpiresAt⟩ := by
  unfold Task.lease
  rw [if_pos running, own]
  rfl

theorem lease_of_ne (idle : task.status ≠ .processing) : task.lease = none :=
  if_neg idle

theorem leases_eq (stored : view.task id = some task) : view.leases id = task.lease := by
  unfold View.leases
  rw [stored]
  rfl

theorem leases_elsewhere (elsewhere : ∀ other, other ≠ id → after.task other = before.task other) :
    ∀ other, other ≠ id → after.leases other = before.leases other := by
  intro other ne
  unfold View.leases
  rw [elsewhere other ne]

theorem Kept.others (kept : Kept before record) (stored : before.task id = some task)
    (own : task.status = .processing → task.workerId = some workerId) :
    ∀ other, other ≠ workerId → ¬ Valid record.grants before.now id other := by
  intro other ne
  by_cases running : task.status = .processing
  · have leased : before.leases id = some ⟨workerId, task.leaseExpiresAt⟩ := by
      rw [leases_eq stored]
      exact lease_of_processing running (own running)
    exact kept.backed.not_valid_of_ne leased ne
  · refine kept.backed.not_valid_of_none ?_ other
    rw [leases_eq stored]
    exact lease_of_ne running

theorem Kept.of_change {changed : Task} {noted : Record} (kept : Kept before record)
    (stored : before.task id = some task) (written : after.task id = some changed)
    (elsewhere : ∀ other, other ≠ id → after.task other = before.task other)
    (claims : ∀ other, other ≠ id → noted.claims other = record.claims other)
    (requeues : ∀ other, other ≠ id → noted.requeues other = record.requeues other)
    (backed : Backed after.leases noted.grants after.now)
    (attempts : noted.claims id = changed.attempts)
    (bound : noted.claims id ≤ changed.maxRetries + 1 + noted.requeues id)
    (limited : changed.Open → noted.claims id ≤ changed.maxRetries + noted.requeues id) :
    Kept after noted := by
  refine ⟨backed, fun other gone => ?_, fun other found here => ?_,
    fun other found here => ?_, fun other found here available => ?_⟩
  · have ne : other ≠ id := by
      rintro rfl
      rw [written] at gone
      cases gone
    rw [claims other ne]
    exact kept.absent other ((elsewhere other ne).symm.trans gone)
  all_goals by_cases same : other = id
  · subst same
    cases written.symm.trans here
    exact attempts
  · rw [claims other same]
    exact kept.attempts other found ((elsewhere other same).symm.trans here)
  · subst same
    cases written.symm.trans here
    exact bound
  · rw [claims other same, requeues other same]
    exact kept.bounded other found ((elsewhere other same).symm.trans here)
  · subst same
    cases written.symm.trans here
    exact limited available
  · rw [claims other same, requeues other same]
    exact kept.limited other found ((elsewhere other same).symm.trans here) available

theorem Kept.backed_of_idle (kept : Kept before record) (now : after.now = before.now)
    (elsewhere : ∀ other, other ≠ id → after.task other = before.task other)
    (past : ∀ lease, before.leases id = some lease → Expired lease.expiresAt before.now) :
    Backed after.leases record.grants after.now := by
  rw [now]
  refine kept.backed.of_kept fun other lease leased runs => ?_
  by_cases own : other = id
  · subst own
    exact absurd (past lease leased) runs
  · rw [leases_elsewhere elsewhere other own]
    exact leased

section Change

variable {changed : Task} (kept : Kept before record) (now : after.now = before.now)
  (stored : before.task id = some task) (written : after.task id = some changed)
  (elsewhere : ∀ other, other ≠ id → after.task other = before.task other)
  (limit : changed.maxRetries = task.maxRetries)

include kept now stored written elsewhere limit

theorem Kept.claim {expiresAt : Int} (available : task.Open)
    (claimed : changed = task.claimed workerId expiresAt) :
    Kept after (record.follow (.claim id workerId expiresAt)) := by
  have claims := kept.attempts id task stored
  have few := kept.limited id task stored available
  have count : (record.follow (.claim id workerId expiresAt)).claims id =
      record.claims id + 1 := update_self _ _ _
  refine kept.of_change stored written elsewhere
    (fun other ne => update_of_ne ne _ _) (fun _ _ => rfl) ?_ ?_ ?_ ?_
  · rw [now]
    refine kept.backed.grant
      (kept.others stored fun running => absurd running available.ne_processing) ?_
      (leases_elsewhere elsewhere)
    rw [leases_eq written, claimed]
    rfl
  · rw [count, claims, claimed]
    rfl
  · change _ ≤ changed.maxRetries + 1 + record.requeues id
    omega
  · intro reopened
    rw [claimed] at reopened
    exact absurd rfl reopened.ne_processing

theorem Kept.heartbeat {expiresAt : Int} (running : task.status = .processing)
    (own : task.workerId = some workerId)
    (renewed : changed = { task with leaseExpiresAt := some expiresAt }) :
    Kept after (record.follow (.heartbeat id workerId expiresAt)) := by
  refine kept.of_change stored written elsewhere (fun _ _ => rfl) (fun _ _ => rfl) ?_ ?_ ?_ ?_
  · rw [now]
    refine kept.backed.grant (kept.others stored fun _ => own) ?_ (leases_elsewhere elsewhere)
    rw [leases_eq written, renewed]
    exact lease_of_processing running own
  · rw [renewed]
    exact kept.attempts id task stored
  · rw [limit]
    exact kept.bounded id task stored
  · intro available
    rw [renewed] at available
    exact absurd running available.ne_processing

theorem Kept.finish (own : task.status = .processing → task.workerId = some workerId)
    (limited : changed.Open → task.attempts ≤ task.maxRetries)
    (attempts : changed.attempts = task.attempts) :
    Kept after (record.follow (.finish id workerId)) := by
  have claims := kept.attempts id task stored
  refine kept.of_change stored written elsewhere (fun _ _ => rfl) (fun _ _ => rfl) ?_
    (claims.trans attempts.symm) ?_ fun available => ?_
  · rw [now]
    exact kept.backed.giveBack (kept.others stored own) (leases_elsewhere elsewhere)
  · rw [limit]
    exact kept.bounded id task stored
  · have few := limited available
    change record.claims id ≤ changed.maxRetries + record.requeues id
    omega

theorem Kept.recover (running : task.status = .processing)
    (expired : Expired task.leaseExpiresAt before.now)
    (limited : changed.Open → task.attempts ≤ task.maxRetries)
    (attempts : changed.attempts = task.attempts) : Kept after (record.follow (.recover id)) := by
  have claims := kept.attempts id task stored
  refine kept.of_change stored written elsewhere (fun _ _ => rfl) (fun _ _ => rfl) ?_
    (claims.trans attempts.symm) ?_ fun available => ?_
  · refine kept.backed_of_idle now elsewhere fun lease leased => ?_
    rw [leases_eq stored, Task.lease, if_pos running] at leased
    obtain ⟨_, -, rfl⟩ := Option.map_eq_some_iff.mp leased
    exact expired
  · rw [limit]
    exact kept.bounded id task stored
  · have few := limited available
    change record.claims id ≤ changed.maxRetries + record.requeues id
    omega

theorem Kept.shutdown (own : task.status = .processing → task.workerId = some workerId)
    (attempts : changed.attempts = task.attempts) :
    Kept after (record.follow (.shutdown id workerId)) := by
  have bound := kept.bounded id task stored
  have count : (record.follow (.shutdown id workerId)).requeues id =
      record.requeues id + 1 := update_self _ _ _
  refine kept.of_change stored written elsewhere (fun _ _ => rfl)
    (fun other ne => update_of_ne ne _ _) ?_
    ((kept.attempts id task stored).trans attempts.symm) ?_ fun available => ?_
  · rw [now]
    exact kept.backed.giveBack (kept.others stored own) (leases_elsewhere elsewhere)
  · change record.claims id ≤ _
    omega
  · change record.claims id ≤ _
    omega

omit limit in
theorem Kept.manual (dead : task.status = .deadLetter) (attempts : changed.attempts = 0) :
    Kept after (record.follow (.manual id)) := by
  have count : (record.follow (.manual id)).claims id = 0 := update_self _ _ _
  refine kept.of_change stored written elsewhere
    (fun other ne => update_of_ne ne _ _)
    (fun other ne => update_of_ne ne _ _) ?_ (count.trans attempts.symm)
    (count.trans_le (Nat.zero_le _)) fun _ => count.trans_le (Nat.zero_le _)
  refine kept.backed_of_idle now elsewhere fun lease leased => ?_
  rw [leases_eq stored, lease_of_ne (by rw [dead]; exact nofun)] at leased
  cases leased

end Change

theorem Kept.other (kept : Kept before record) (passed : before.now ≤ after.now)
    (keeps : ∀ id task, before.task id = some task → after.task id = some task)
    (fresh : ∀ id task, before.task id = none → after.task id = some task → task.Fresh) :
    Kept after record := by
  have either : ∀ id task, after.task id = some task →
      before.task id = some task ∨ (before.task id = none ∧ task.Fresh) := by
    intro id task here
    cases stored : before.task id with
    | none => exact .inr ⟨rfl, fresh id task stored here⟩
    | some found => exact .inl ((keeps id found stored).symm.trans here)
  refine ⟨?_, fun id gone => ?_, fun id task here => ?_, fun id task here => ?_,
    fun id task here available => ?_⟩
  · refine (kept.backed.later passed).of_kept fun id lease leased _ => ?_
    obtain ⟨task, stored, running⟩ := Option.bind_eq_some_iff.mp leased
    exact Option.bind_eq_some_iff.mpr ⟨task, keeps id task stored, running⟩
  · cases stored : before.task id with
    | none => exact kept.absent id stored
    | some found => exact absurd (gone.symm.trans (keeps id found stored)) nofun
  · rcases either id task here with stored | ⟨gone, new⟩
    · exact kept.attempts id task stored
    · exact (kept.absent id gone).trans new.2.symm
  · rcases either id task here with stored | ⟨gone, -⟩
    · exact kept.bounded id task stored
    · rw [kept.absent id gone]
      exact Nat.zero_le _
  · rcases either id task here with stored | ⟨gone, -⟩
    · exact kept.limited id task stored available
    · rw [kept.absent id gone]
      exact Nat.zero_le _

theorem Legal.kept (legal : Legal before after action) (kept : Kept before record) :
    Kept after (record.follow action) := by
  cases legal with
  | other passed keeps fresh => exact kept.other passed keeps fresh
  | change _ _ _ _ now stored written elsewhere limit changes =>
    cases changes with
    | claim available claimed =>
      exact kept.claim now stored written elsewhere limit available claimed
    | heartbeat running own renewed =>
      exact kept.heartbeat now stored written elsewhere limit running own renewed
    | finish own _ _ limited attempts =>
      exact kept.finish now stored written elsewhere limit own limited attempts
    | recover running expired _ limited attempts =>
      exact kept.recover now stored written elsewhere limit running expired limited attempts
    | shutdown own _ _ attempts =>
      exact kept.shutdown now stored written elsewhere limit own attempts
    | manual dead _ attempts => exact kept.manual now stored written elsewhere dead attempts

variable {State Event : Type} (step : State → Event → Option State) (view : State → View)
  (act : State → Event → State → Action)

def recording : CallMachine (State × Record) Event Unit :=
  (CallMachine.ofStep step).withGhost fun state event next record =>
    record.follow (act state event next)

def Respects (state : State × Record) (event : Event) : Prop :=
  ∀ next, step state.1 event = some next →
    Lawful (view state.1) (act state.1 event next) (view next)

/-- In a run, no two leases and not too many claims, and every step respects the law. -/
def Upholds (initial : State) (events : List Event) : Prop :=
  (recording step act).Always (fun state => Safe (view state.1) state.2) (initial, {}) events ∧
    (recording step act).Meets (Respects step view act) (initial, {}) events

variable {step view act}

theorem upholds_of_legal {base : State → Prop} {condition : State → Event → Prop}
    (keeps : ∀ state event next, base state → condition state event →
      step state event = some next → base next)
    (legal : ∀ state event next, base state → condition state event →
      step state event = some next → Legal (view state) (view next) (act state event next))
    {initial : State} {events : List Event} (based : base initial) (empty : Kept (view initial) {})
    (meets : (recording step act).Meets (fun state event => condition state.1 event) (initial, {})
      events) : Upholds step view act initial events := by
  have steps : ∀ (state : State × Record) (event : Event) (next : State × Record),
      base state.1 ∧ Kept (view state.1) state.2 → condition state.1 event →
      (recording step act).exec state event = .ok next →
      base next.1 ∧ Kept (view next.1) next.2 := by
    intro state event next held allowed ran
    obtain ⟨ran, followed⟩ := withGhost_exec_eq_ok.mp ran
    have stepped := ofStep_exec_eq_ok.mp ran
    refine ⟨keeps _ _ _ held.1 allowed stepped, ?_⟩
    rw [followed]
    exact (legal _ _ _ held.1 allowed stepped).kept held.2
  constructor
  · exact CallMachine.Always.mono (fun state held => held.2.safe)
      (always_of_meets steps ⟨based, empty⟩ meets)
  · refine meets_of_invariant steps ?_ ⟨based, empty⟩ meets
    intro state event _ held allowed _ next stepped
    exact (legal _ _ _ held.1 allowed stepped).lawful

end SorobanPlayground.Backend.ProofQueue
