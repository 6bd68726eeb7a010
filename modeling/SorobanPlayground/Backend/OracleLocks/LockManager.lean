import SorobanPlayground.Backend.OracleLocks.Deadlock
import SorobanPlayground.Backend.OracleLocks.MemoryBackend
import SorobanPlayground.Library.CallMachine

/-! # Lock managers

Several managers share one store. A call runs up to its first `await` when it is made, and
every event resumes one call up to its next `await`.
-/

namespace SorobanPlayground.Backend.OracleLocks

open Leases

inductive LockScope where
  | global
  | project
  | batch
  deriving DecidableEq, Repr

namespace LockScope

def name : LockScope → String
  | global => "global"
  | project => "project"
  | batch => "batch"

def rank : LockScope → Nat
  | global => 30
  | project => 20
  | batch => 10

end LockScope

def keyPrefix : String := "oracle:lock"

def buildKey (scope : LockScope) (id : Option String) : Except String String :=
  if scope = .global then .ok (keyPrefix ++ ":" ++ scope.name)
  else
    match id with
    | none => .error ("Lock scope \"" ++ scope.name ++ "\" requires an id")
    | some id =>
        if id.isEmpty then .error ("Lock scope \"" ++ scope.name ++ "\" requires an id")
        else .ok (keyPrefix ++ ":" ++ scope.name ++ ":" ++ id)

/-- The reason why a scope cannot be locked while others are held. -/
def validateAcquisitionOrder (candidate : LockScope) (heldScopes : List LockScope)
    (strictParent : Bool) : Except String Unit :=
  match heldScopes.find? fun held => held.rank < candidate.rank with
  | some held =>
      .error (s!"Lock ordering violation: cannot acquire {candidate.name} " ++
        s!"(rank {candidate.rank}) while holding {held.name} (rank {held.rank})")
  | none =>
      if strictParent = true ∧ candidate = .batch ∧ .project ∉ heldScopes ∧
          .global ∉ heldScopes then
        .error "BATCH lock requires holding PROJECT or GLOBAL first (strictParent=true)"
      else .ok ()

inductive LockErrorCode where
  | lockOrderViolation
  | deadlock
  | lockTimeout
  deriving DecidableEq, Repr

structure LockAcquisitionError where
  code : LockErrorCode
  message : String
  key : String
  attempts : Option Nat := none
  deriving DecidableEq, Repr

inductive Failure where
  /-- The key cannot be built. -/
  | invalid (message : String)
  | locked (error : LockAcquisitionError)
  deriving DecidableEq, Repr

structure Held where
  key : String
  scope : LockScope
  deriving DecidableEq, Repr

/-- What an `acquire` call tries again and again. -/
structure Attempt (Manager Owner : Type) where
  manager : Manager
  key : String
  scope : LockScope
  owner : Owner
  ttlMs : Int
  maxAttempts : Int
  deriving DecidableEq, Repr

inductive RecoveryAction where
  | forgotten
  | reassigned
  deriving DecidableEq, Repr

structure Recovered (Owner : Type) where
  key : String
  owner : Owner
  action : RecoveryAction
  deriving DecidableEq, Repr

inductive Result (Owner : Type) where
  | acquired (key : String) (scope : LockScope) (owner : Owner) (ttlMs : Int)
  | refused (failure : Failure)
  | released (ok : Bool)
  | extended (ok : Bool)
  | recovered (recovered : List (Recovered Owner))
  deriving DecidableEq, Repr

inductive Call (Manager Owner : Type) where
  /-- `owner` is what `_newOwner` draws. -/
  | acquire (manager : Manager) (scope : LockScope) (id : Option String) (ttlMs : Option Int)
      (maxAttempts : Option Int) (owner : Owner)
  | release (manager : Manager) (owner : Owner)
  | extend (manager : Manager) (owner : Owner) (ttlMs : Int)
  | recoverStaleHolds (manager : Manager)

/-- Where a call waits, with the answer that it waits for. -/
inductive Phase (Manager Owner : Type) where
  | idle
  /-- `tryAcquire` is called. -/
  | tried (attempt : Attempt Manager Owner) (attempts : Nat) (acquired : Bool)
  | sleeping (attempt : Attempt Manager Owner) (attempts : Nat)
  /-- The release of the store is called. -/
  | releasing (manager : Manager) (owner : Owner) (held : Held) (ok : Bool)
  /-- The extension of the store is called. -/
  | extending (owner : Owner) (held : Held) (ttlMs : Int) (ok : Bool)
  /-- `inspect` is called. -/
  | recovering (manager : Manager) (owner : Owner) (held : Held)
      (inspected : Option (Lease Owner Int)) (rest : List (Owner × Held))
      (recovered : List (Recovered Owner))
  | done (result : Result Owner)

structure LockManager (Owner : Type) where
  heldByOwner : OrderedMap Owner Held := ∅
  heldScopes : OrderedSet LockScope := ∅

structure ManagerConfig where
  defaultTtlMs : Int := 30000
  strictParent : Bool := false
  /-- Which detector the manager shares. -/
  detector : Nat := 0

structure State (Manager Task Owner : Type) where
  now : Int
  store : MemoryBackend Owner := ∅
  managers : Manager → LockManager Owner := fun _ => {}
  detectors : Nat → DeadlockDetector Owner := fun _ => {}
  phase : Task → Phase Manager Owner := fun _ => .idle

inductive Event (Manager Task Owner : Type) where
  | tick (elapsed : Nat)
  | call (task : Task) (call : Call Manager Owner) (elapsed : Nat)
  | resume (task : Task) (elapsed : Nat)

variable {Manager Task Owner : Type} [DecidableEq Manager] [DecidableEq Task] [DecidableEq Owner]

namespace State

variable (state : State Manager Task Owner)

omit [DecidableEq Manager] [DecidableEq Owner] in
def move (task : Task) (phase : Phase Manager Owner) : State Manager Task Owner :=
  { state with phase := Function.update state.phase task phase }

omit [DecidableEq Task] [DecidableEq Owner] in
def withManager (manager : Manager) (changed : LockManager Owner) : State Manager Task Owner :=
  { state with managers := Function.update state.managers manager changed }

omit [DecidableEq Manager] [DecidableEq Task] [DecidableEq Owner] in
def withDetector (detector : Nat) (changed : DeadlockDetector Owner) :
    State Manager Task Owner :=
  { state with detectors := Function.update state.detectors detector changed }

def forgetLocal (config : Manager → ManagerConfig) (manager : Manager) (owner : Owner)
    (held : Held) : State Manager Task Owner :=
  let heldByOwner := (state.managers manager).heldByOwner.remove owner
  let heldScopes := heldByOwner.values.foldl (fun scopes held => scopes.add held.scope) ∅
  let detector := state.detectors (config manager).detector
  (state.withManager manager { heldByOwner, heldScopes }).withDetector (config manager).detector
    ((detector.releaseHold held.key owner).forgetOwner owner)

def registerLock (config : Manager → ManagerConfig) (attempt : Attempt Manager Owner) :
    State Manager Task Owner :=
  let manager := state.managers attempt.manager
  let detector := state.detectors (config attempt.manager).detector
  (state.withManager attempt.manager
    { heldByOwner := manager.heldByOwner.set attempt.owner
        { key := attempt.key, scope := attempt.scope }
      heldScopes := manager.heldScopes.add attempt.scope }).withDetector
    (config attempt.manager).detector
    ((detector.clearWait attempt.owner attempt.key).registerHold attempt.key attempt.owner)

end State

variable (config : Manager → ManagerConfig)

omit [DecidableEq Manager] [DecidableEq Task] [DecidableEq Owner] in
/-- `acquire` before its first attempt. -/
def prepare (state : State Manager Task Owner) (manager : Manager) (scope : LockScope)
    (id : Option String) (ttlMs maxAttempts : Option Int) (owner : Owner) :
    Except Failure (Attempt Manager Owner) :=
  match buildKey scope id with
  | .error message => .error (.invalid message)
  | .ok key =>
      match validateAcquisitionOrder scope (state.managers manager).heldScopes.keys
          (config manager).strictParent with
      | .error reason => .error (.locked ⟨.lockOrderViolation, reason, key, none⟩)
      | .ok () =>
          .ok
            { manager, key, scope, owner
              ttlMs := if ttlMs.getD 0 = 0 then (config manager).defaultTtlMs else ttlMs.getD 0
              maxAttempts := max (maxAttempts.getD 5) 1 }

omit [DecidableEq Manager] in
/-- One round of the loop of `acquire`, up to the answer of the store. -/
def tryLock (state : State Manager Task Owner) (task : Task) (attempt : Attempt Manager Owner)
    (attempts elapsed : Nat) : State Manager Task Owner :=
  let later := state.now + elapsed
  let tried := state.store.tryAcquire attempt.key attempt.owner attempt.ttlMs state.now later
  { state with now := later, store := tried.2 }.move task (.tried attempt attempts tried.1)

/-- What an answered attempt is followed by. -/
def afterTry (state : State Manager Task Owner) (task : Task) (attempt : Attempt Manager Owner)
    (attempts : Nat) (acquired : Bool) : State Manager Task Owner :=
  let number := (config attempt.manager).detector
  let detector := state.detectors number
  if acquired = true then
    (state.registerLock config attempt).move task
      (.done (.acquired attempt.key attempt.scope attempt.owner attempt.ttlMs))
  else
    let check := detector.declareWait attempt.owner attempt.key
    if check.deadlock = true then
      state.move task (.done (.refused (.locked
        { code := .deadlock
          message := s!"Deadlock detected acquiring {attempt.key}"
          key := attempt.key
          attempts := some attempts })))
    else if attempt.maxAttempts ≤ attempts then
      (state.withDetector number (check.detector.clearWait attempt.owner attempt.key)).move task
        (.done (.refused (.locked
          { code := .lockTimeout
            message := s!"Could not acquire {attempt.key} after {attempts} attempts"
            key := attempt.key
            attempts := some attempts })))
    else (state.withDetector number check.detector).move task (.sleeping attempt attempts)

omit [DecidableEq Manager] in
/-- The loop of `recoverStaleHolds`, up to the next answer of the store. -/
def inspectNext (state : State Manager Task Owner) (task : Task) (manager : Manager)
    (holds : List (Owner × Held)) (recovered : List (Recovered Owner)) :
    State Manager Task Owner :=
  match holds with
  | [] => state.move task (.done (.recovered recovered))
  | (owner, held) :: rest =>
      let inspected := state.store.inspect held.key state.now
      { state with store := inspected.2 }.move task
        (.recovering manager owner held inspected.1 rest recovered)

/-- A call up to its first `await`. -/
def enter (state : State Manager Task Owner) (task : Task) (elapsed : Nat) :
    Call Manager Owner → State Manager Task Owner
  | .acquire manager scope id ttlMs maxAttempts owner =>
      match prepare config state manager scope id ttlMs maxAttempts owner with
      | .error failure => state.move task (.done (.refused failure))
      | .ok attempt => tryLock state task attempt 1 elapsed
  | .release manager owner =>
      match (state.managers manager).heldByOwner.get owner with
      | none => state.move task (.done (.released false))
      | some held =>
          let released := state.store.release held.key owner state.now
          { state with store := released.2 }.move task
            (.releasing manager owner held released.1)
  | .extend manager owner ttlMs =>
      match (state.managers manager).heldByOwner.get owner with
      | none => state.move task (.done (.extended false))
      | some held =>
          let later := state.now + elapsed
          let extended := state.store.extend held.key owner ttlMs state.now later
          { state with now := later, store := extended.2 }.move task
            (.extending owner held ttlMs extended.1)
  | .recoverStaleHolds manager =>
      inspectNext state task manager (state.managers manager).heldByOwner.entries []

/-- A call from the end of an `await` up to the next one. -/
def resume (state : State Manager Task Owner) (task : Task) (elapsed : Nat) :
    Option (State Manager Task Owner) :=
  match state.phase task with
  | .tried attempt attempts acquired => some (afterTry config state task attempt attempts acquired)
  | .sleeping attempt attempts => some (tryLock state task attempt (attempts + 1) elapsed)
  | .releasing manager owner held ok =>
      some ((state.forgetLocal config manager owner held).move task (.done (.released ok)))
  | .extending _ _ _ ok => some (state.move task (.done (.extended ok)))
  | .recovering manager owner held inspected rest recovered =>
      match inspected with
      | none =>
          some (inspectNext (state.forgetLocal config manager owner held) task manager rest
            (recovered ++ [⟨held.key, owner, .forgotten⟩]))
      | some entry =>
          if entry.owner ≠ owner then
            some (inspectNext (state.forgetLocal config manager owner held) task manager rest
              (recovered ++ [⟨held.key, owner, .reassigned⟩]))
          else some (inspectNext state task manager rest recovered)
  | .idle | .done _ => none

def step (state : State Manager Task Owner) : Event Manager Task Owner →
    Option (State Manager Task Owner)
  | .tick elapsed => some { state with now := state.now + elapsed }
  | .call task call elapsed =>
      match state.phase task with
      | .idle => some (enter config state task elapsed call)
      | _ => none
  | .resume task elapsed => resume config state task elapsed

def machine : CallMachine (State Manager Task Owner) (Event Manager Task Owner) Unit :=
  CallMachine.ofStep (step config)

variable {state : State Manager Task Owner} {task : Task}

omit [DecidableEq Manager] [DecidableEq Owner] in
@[simp] theorem move_phase (phase : Phase Manager Owner) :
    (state.move task phase).phase task = phase :=
  Function.update_self _ _ _

omit [DecidableEq Manager] [DecidableEq Owner] in
theorem move_phase_of_ne {other : Task} (ne : other ≠ task)
    (phase : Phase Manager Owner) : (state.move task phase).phase other = state.phase other :=
  Function.update_of_ne ne _ _

end SorobanPlayground.Backend.OracleLocks
