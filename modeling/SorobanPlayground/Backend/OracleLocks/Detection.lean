import Mathlib.Tactic.IntervalCases
import SorobanPlayground.Backend.OracleLocks.Tokens

/-! # Deadlock detection

The token that waits for a key is never the token that holds one, so no wait closes a cycle of
the graph.
-/

namespace SorobanPlayground.Backend.OracleLocks

open Leases

variable {Manager Task Owner : Type} [DecidableEq Manager] [DecidableEq Task] [DecidableEq Owner]

/-- Tasks that hold locks, each with a call for the key of the next one. All calls but one wait,
and the first attempt of that one has just failed. -/
structure Circle (state : State Manager Task Owner) where
  size : Nat
  several : 2 ≤ size
  manager : Nat → Manager
  owner : Nat → Owner
  held : Nat → Held
  call : Nat → Task
  attempt : Nat → Attempt Manager Owner
  closing : Nat
  within : closing < size
  /-- Every task has acquired its lock, and its lock has not expired. -/
  holds : ∀ i < size, (state.managers (manager i)).heldByOwner.get (owner i) = some (held i)
  live : ∀ i < size, ∃ expiresAt,
    state.store.get (held i).key = some ⟨owner i, expiresAt⟩ ∧ ¬ Expired expiresAt state.now
  wants : ∀ i < size, (attempt i).key = (held ((i + 1) % size)).key
  waits : ∀ i < size, i ≠ closing →
    ∃ attempts, state.phase (call i) = .sleeping (attempt i) attempts
  closes : state.phase (call closing) = .tried (attempt closing) 1 false

/-- Whether the call that closes a circle fails with the code `DEADLOCK`. -/
def Circle.Detected (config : Manager → ManagerConfig) {state : State Manager Task Owner}
    (circle : Circle state) : Prop :=
  ∀ elapsed next, step config state (.resume (circle.call circle.closing) elapsed) = some next →
    (next.phase (circle.call circle.closing)).Deadlocked

theorem DeadlockDetector.declareWait_of_idle {detector : DeadlockDetector Owner}
    {waiter target : Owner} {key : String} (held : detector.holders.get key = some target)
    (ne : target ≠ waiter) (idle : detector.waitsFor.get target = none) :
    detector.declareWait waiter key =
      ⟨false, { detector with
        waitsFor := detector.waitsFor.set waiter
          (((detector.waitsFor.get waiter).getD ∅).add target) }⟩ := by
  have missed : ¬ detector.reachable target waiter = true := by
    intro found
    rcases Relation.ReflTransGen.cases_head (reachable_iff.mp found) with
      same | ⟨node, ⟨targets, waits, -⟩, -⟩
    · exact ne same
    · rw [idle] at waits
      cases waits
  unfold declareWait
  rw [held]
  dsimp only
  rw [if_neg ne, if_neg missed]

theorem afterTry_sleeps (config : Manager → ManagerConfig) (state : State Manager Task Owner)
    (task : Task) {attempt : Attempt Manager Owner} {attempts : Nat}
    {check : DeadlockDetector.WaitCheck Owner}
    (declared : (state.detectors (config attempt.manager).detector).declareWait attempt.owner
      attempt.key = check)
    (quiet : check.deadlock = false) (more : attempts < attempt.maxAttempts) :
    afterTry config state task attempt attempts false =
      (state.withDetector (config attempt.manager).detector check.detector).move task
        (.sleeping attempt attempts) := by
  unfold afterTry
  dsimp only
  rw [declared, if_neg nofun, quiet, if_neg nofun, if_neg (Int.not_le.mpr more)]

/-- Two tasks lock a key each, and the first one calls for the key of the second one. -/
def firstWaits : State Unit Nat Nat :=
  (machine fun _ => {}).run { now := 0 }
    [.call 0 (.acquire () .project (some "a") none none 0) 0, .resume 0 0,
      .call 1 (.acquire () .project (some "b") none none 1) 0, .resume 1 0,
      .call 2 (.acquire () .project (some "b") none none 2) 0]

/-- The first task sleeps, and the second one calls for the key of the first one. -/
def crossing : List (Event Unit Nat Nat) :=
  [.call 0 (.acquire () .project (some "a") none none 0) 0, .resume 0 0,
    .call 1 (.acquire () .project (some "b") none none 1) 0, .resume 1 0,
    .call 2 (.acquire () .project (some "b") none none 2) 0, .resume 2 0,
    .call 3 (.acquire () .project (some "a") none none 3) 0]

def keyOf (name : String) : String := "oracle:lock:project:" ++ name

def attemptOf (owner : Nat) (name : String) : Attempt Unit Nat :=
  { manager := (), key := keyOf name, scope := .project, owner, ttlMs := 30000, maxAttempts := 5 }

def sleeping : State Unit Nat Nat :=
  (firstWaits.withDetector 0
    { waitsFor := (∅ : OrderedMap Nat (OrderedSet Nat)).set 2 ((∅ : OrderedSet Nat).add 1)
      holders := (firstWaits.detectors 0).holders }).move 2 (.sleeping (attemptOf 2 "b") 1)

theorem run_crossing :
    (machine fun _ => {}).run { now := 0 } crossing = tryLock sleeping 3 (attemptOf 3 "a") 1 0 := by
  have held : (firstWaits.detectors 0).holders.get (keyOf "b") = some 1 := rfl
  have ne : (1 : Nat) ≠ 2 := by decide
  have declared := DeadlockDetector.declareWait_of_idle held ne rfl
  have more : ((1 : Nat) : Int) < (attemptOf 2 "b").maxAttempts := by decide
  have slept : afterTry (fun _ : Unit => {}) firstWaits 2 (attemptOf 2 "b") 1 false = sleeping :=
    (afterTry_sleeps (fun _ => {}) firstWaits 2 declared rfl more).trans rfl
  have resumed : (machine fun _ : Unit => {}).apply firstWaits (.resume 2 0) = sleeping :=
    (machine fun _ => {}).apply_of_ok (ofStep_exec_eq_ok.mpr (congrArg some slept))
  change (machine fun _ => {}).run ((machine fun _ => {}).apply firstWaits (.resume 2 0))
    [.call 3 (.acquire () .project (some "a") none none 3) 0] = _
  rw [resumed]
  rfl

def crossed : Circle ((machine fun _ : Unit => {}).run { now := 0 } crossing) where
  size := 2
  several := Nat.le_refl 2
  manager _ := ()
  owner i := i
  held i := ⟨keyOf (if i = 0 then "a" else "b"), .project⟩
  call i := i + 2
  attempt i := attemptOf (i + 2) (if i = 0 then "b" else "a")
  closing := 1
  within := Nat.one_lt_two
  holds i small := by
    rw [run_crossing]
    interval_cases i <;> rfl
  live i small := by
    rw [run_crossing]
    refine ⟨some 30000, ?_, ?_⟩
    · interval_cases i <;> rfl
    · rintro ⟨time, ends, past⟩
      cases ends
      exact absurd past (by decide)
  wants i small := by
    interval_cases i <;> rfl
  waits i small different := by
    rw [run_crossing]
    interval_cases i
    · exact ⟨1, rfl⟩
    · exact absurd rfl different
  closes := by
    rw [run_crossing]
    rfl

/-- The call that closes a circle never fails with the code `DEADLOCK`, and in a run that draws
every token once no call does. -/
theorem deadlocks_undetected (config : Manager → ManagerConfig) (now : Int)
    (events : List (Event Manager Task Owner))
    (distinct : (events.filterMap Event.drawn).Nodup) :
    (∀ circle : Circle ((machine config).run { now } events), ¬ circle.Detected config) ∧
      (machine config).Always (fun state => ∀ task, ¬ (state.phase task).Deadlocked) { now }
        events := by
  constructor
  · intro circle detected
    obtain ⟨drawn, known⟩ := run_known events (known_start now) distinct nofun
    generalize (machine config).run { now } events = final at circle known
    have ran : step config final (.resume (circle.call circle.closing) 0) =
        some (afterTry config final (circle.call circle.closing)
          (circle.attempt circle.closing) 1 false) := by
      change resume config final (circle.call circle.closing) 0 = _
      unfold resume
      rw [circle.closes]
    have next := known_step known (fun _ named => by cases named) ran
    exact next.undetected _ (detected 0 _ ran)
  · refine CallMachine.always_iff_prefix.mpr fun first second split => ?_
    subst split
    have fewer : (first.filterMap Event.drawn).Nodup :=
      distinct.sublist ((List.sublist_append_left first second).filterMap _)
    obtain ⟨_, known⟩ := run_known first (known_start now) fewer nofun
    exact known.undetected

theorem deadlocks_undetected_crossing : ¬ crossed.Detected (fun _ => {}) :=
  (deadlocks_undetected (fun _ : Unit => {}) 0 crossing (by decide)).1 crossed

/-- The second task goes to sleep as the first one has done. -/
theorem deadlock_missed :
    ¬ ∀ circle : Circle ((machine fun _ : Unit => {}).run { now := 0 } crossing),
      circle.Detected fun _ => {} := by
  intro detected
  have held : ((tryLock sleeping 3 (attemptOf 3 "a") 1 0).detectors 0).holders.get (keyOf "a") =
    some 0 := rfl
  have ne : (0 : Nat) ≠ 3 := by decide
  have declared := DeadlockDetector.declareWait_of_idle held ne rfl
  have more : ((1 : Nat) : Int) < (attemptOf 3 "a").maxAttempts := by decide
  have slept := afterTry_sleeps (fun _ : Unit => {}) (tryLock sleeping 3 (attemptOf 3 "a") 1 0) 3
    declared rfl more
  have ran : step (fun _ : Unit => {}) ((machine fun _ => {}).run { now := 0 } crossing)
      (.resume 3 0) = some (afterTry (fun _ => {}) (tryLock sleeping 3 (attemptOf 3 "a") 1 0) 3
        (attemptOf 3 "a") 1 false) := by
    rw [run_crossing]
    rfl
  obtain ⟨_, same, -⟩ := detected crossed 0 _ ran
  rw [slept] at same
  cases same

end SorobanPlayground.Backend.OracleLocks
