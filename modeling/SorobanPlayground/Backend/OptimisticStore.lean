import Mathlib.Data.Nat.Cast.WithTop
import SorobanPlayground.Library.CallMachine

/-! # The optimistic store

A value is read with its version, mutated, and stored unless another writer has raised the version
meanwhile. Mutators are awaited, so that writers of one key interleave between the read and the
write.
-/

namespace SorobanPlayground.Backend.OptimisticStore

structure Entry (Value : Type) where
  version : Nat
  value : Value

/-- What `compareAndSet` returns; not `ok` means that another writer was first. -/
structure CasResult where
  ok : Bool
  version : Nat

/-- A write that succeeded, of a call of `withCas` or a direct one. -/
structure Commit (Key Value Call : Type) where
  call : Option Call
  key : Key
  mutator : Value → Value

inductive Phase (Key Value : Type) where
  | idle
  /-- The mutator is awaited in this attempt. -/
  | mutating (key : Key) (mutator : Value → Value) (maxAttempts : WithTop Nat) (attempt : Nat)
      (read : Entry Value)
  | returned (key : Key) (mutator : Value → Value) (attempts : Nat) (result : Entry Value)
  /-- `CAS_EXHAUSTED`. -/
  | exhausted (key : Key) (maxAttempts : WithTop Nat)
  /-- The mutator threw. -/
  | threw (key : Key)

/-- The store, the calls of `withCas`, and the writes that succeeded so far. -/
structure World (Key Value Call : Type) where
  versions : Key → Option (Entry Value) := fun _ => none
  phase : Call → Phase Key Value := fun _ => .idle
  commits : List (Commit Key Value Call) := []

variable {Key Value Call : Type} [DecidableEq Key] [DecidableEq Call] (null : Value)

omit [DecidableEq Key] in
def read (versions : Key → Option (Entry Value)) (key : Key) : Entry Value :=
  match versions key with
  | some entry => entry
  | none => { version := 0, value := null }

def compareAndSet (versions : Key → Option (Entry Value)) (key : Key) (expectedVersion : Nat)
    (value : Value) : CasResult × (Key → Option (Entry Value)) :=
  let currentVersion := match versions key with
    | some current => current.version
    | none => 0
  if currentVersion ≠ expectedVersion then ({ ok := false, version := currentVersion }, versions)
  else
    let next := currentVersion + 1
    ({ ok := true, version := next },
      Function.update versions key (some { version := next, value }))

def World.move (world : World Key Value Call) (call : Call) (phase : Phase Key Value) :
    World Key Value Call :=
  { world with phase := Function.update world.phase call phase }

def World.commit (world : World Key Value Call) (versions : Key → Option (Entry Value))
    (commit : Commit Key Value Call) : World Key Value Call :=
  { world with versions, commits := world.commits ++ [commit] }

/-- The loop of `withCas` after some attempts, up to its next `await`. -/
def proceed (world : World Key Value Call) (call : Call) (key : Key) (mutator : Value → Value)
    (maxAttempts : WithTop Nat) (attempt : Nat) : World Key Value Call :=
  world.move call
    (if (attempt : WithTop Nat) < maxAttempts then
      .mutating key mutator maxAttempts (attempt + 1) (read null world.versions key)
    else .exhausted key maxAttempts)

inductive Event (Key Value Call : Type) where
  | withCas (call : Call) (key : Key) (mutator : Value → Value) (maxAttempts : WithTop Nat)
  /-- The awaited mutator answers. -/
  | mutated (call : Call)
  | threw (call : Call)
  | compareAndSet (key : Key) (expectedVersion : Nat) (value : Value)

def step (world : World Key Value Call) : Event Key Value Call → Option (World Key Value Call)
  | .withCas call key mutator maxAttempts =>
      match world.phase call with
      | .idle => some (proceed null world call key mutator maxAttempts 0)
      | _ => none
  | .mutated call =>
      match world.phase call with
      | .mutating key mutator maxAttempts attempt read =>
          let next := mutator read.value
          let (result, versions) := compareAndSet world.versions key read.version next
          if result.ok = true then
            some ((world.commit versions { call := some call, key, mutator }).move call
              (.returned key mutator attempt { version := result.version, value := next }))
          else some (proceed null world call key mutator maxAttempts attempt)
      | _ => none
  | .threw call =>
      match world.phase call with
      | .mutating key _ _ _ _ => some (world.move call (.threw key))
      | _ => none
  | .compareAndSet key expectedVersion value =>
      let (result, versions) := compareAndSet world.versions key expectedVersion value
      some (if result.ok = true then
        world.commit versions { call := none, key, mutator := fun _ => value } else world)

/-- The store under any interleaving of its callers. -/
def machine : CallMachine (World Key Value Call) (Event Key Value Call) Unit :=
  CallMachine.ofStep (step null)

omit [DecidableEq Call]

def commitsTo (commits : List (Commit Key Value Call)) (key : Key) :
    List (Commit Key Value Call) :=
  commits.filter fun commit => commit.key = key

/-- The number of commits to a key, and their mutators applied one after the other to the initial
value. -/
def serial (commits : List (Commit Key Value Call)) (key : Key) : Entry Value where
  version := (commitsTo commits key).length
  value := (commitsTo commits key).foldl (fun value commit => commit.mutator value) null

def NotBy (call : Call) (commits : List (Commit Key Value Call)) : Prop :=
  ∀ commit ∈ commits, commit.call ≠ some call

/-- A call that returned committed once, with the version and value that it returned. Another call
did not commit, and one whose mutator is awaited read what some of the commits make. -/
def Phase.Explained (commits : List (Commit Key Value Call)) (call : Call) :
    Phase Key Value → Prop
  | .mutating key _ _ _ read => NotBy call commits ∧
      ∃ first second, commits = first ++ second ∧ read = serial null first key
  | .returned key mutator _ result => ∃ first second,
      commits = first ++ { call := some call, key, mutator } :: second ∧
        NotBy call first ∧ NotBy call second ∧
          result = serial null (first ++ [{ call := some call, key, mutator }]) key
  | _ => NotBy call commits

/-- The store is what its commits make one after the other. -/
structure Linearized (world : World Key Value Call) : Prop where
  stored : ∀ key, read null world.versions key = serial null world.commits key
  explained : ∀ call, (world.phase call).Explained null world.commits call

section Serial

variable {null} {commits first second : List (Commit Key Value Call)}
  {commit : Commit Key Value Call} {key : Key}

theorem serial_snoc_same (same : commit.key = key) : serial null (commits ++ [commit]) key =
    { version := (serial null commits key).version + 1,
      value := commit.mutator (serial null commits key).value } := by
  simp [serial, commitsTo, same]

theorem serial_snoc_other (other : commit.key ≠ key) :
    serial null (commits ++ [commit]) key = serial null commits key := by
  simp [serial, commitsTo, other]

/-- Commits that do not raise the version are to other keys. -/
theorem serial_append (same : (serial null (first ++ second) key).version =
    (serial null first key).version) :
    serial null (first ++ second) key = serial null first key := by
  have none : commitsTo second key = [] := by
    simpa [serial, commitsTo] using same
  have rest : commitsTo (first ++ second) key = commitsTo first key := by
    rw [commitsTo, List.filter_append]
    exact (congrArg _ none).trans (List.append_nil _)
  rw [serial, serial, rest]

theorem Phase.Explained.later {phase : Phase Key Value} {call : Call}
    (explained : phase.Explained null commits call) (other : commit.call ≠ some call) :
    phase.Explained null (commits ++ [commit]) call := by
  have notBy : ∀ {list : List (Commit Key Value Call)}, NotBy call list →
      NotBy call (list ++ [commit]) := fun held entry mem =>
    (List.mem_append.mp mem).elim (held entry) fun last => by rwa [List.mem_singleton.mp last]
  cases phase with
  | mutating key mutator maxAttempts attempt read =>
    obtain ⟨held, first, second, rfl, seen⟩ := explained
    exact ⟨notBy held, first, second ++ [commit], List.append_assoc .., seen⟩
  | returned key mutator attempts result =>
    obtain ⟨first, second, rfl, before, after, made⟩ := explained
    exact ⟨first, second ++ [commit], by simp, before, notBy after, made⟩
  | idle | exhausted | threw => exact notBy explained

end Serial

variable {null} {world next : World Key Value Call} {call : Call} {phase : Phase Key Value}
  {commit : Commit Key Value Call}

theorem compareAndSet_cases (null : Value) (versions : Key → Option (Entry Value)) (key : Key)
    (expectedVersion : Nat) (value : Value) :
    (compareAndSet versions key expectedVersion value).1.ok = false ∧
        (compareAndSet versions key expectedVersion value).2 = versions ∨
      (read null versions key).version = expectedVersion ∧
        compareAndSet versions key expectedVersion value =
          ({ ok := true, version := expectedVersion + 1 }, Function.update versions key
            (some { version := expectedVersion + 1, value })) := by
  simp only [compareAndSet, read]
  cases versions key with
  | none => grind
  | some entry => grind

/-- The next commit to a key stores what all of them make. -/
theorem Linearized.stored_commit (kept : Linearized null world) {version : Nat} {value : Value}
    (made : { version, value } = serial null (world.commits ++ [commit]) commit.key)
    (other : Key) : read null (Function.update world.versions commit.key
      (some { version, value })) other = serial null (world.commits ++ [commit]) other := by
  by_cases same : commit.key = other
  · subst same
    simpa [read] using made
  · rw [serial_snoc_other same, ← kept.stored other]
    simp [read, Function.update_of_ne (Ne.symm same)]

variable [DecidableEq Call]

theorem Linearized.move (kept : Linearized null world)
    (explained : phase.Explained null world.commits call) :
    Linearized null (world.move call phase) where
  stored := kept.stored
  explained other := by
    by_cases same : other = call
    · subst same
      simpa [World.move] using explained
    · simpa [World.move, same] using kept.explained other

theorem Linearized.proceed (kept : Linearized null world) {key : Key} {mutator : Value → Value}
    {maxAttempts : WithTop Nat} {attempt : Nat} (fresh : NotBy call world.commits) :
    Linearized null (proceed null world call key mutator maxAttempts attempt) := by
  refine kept.move ?_
  split
  · exact ⟨fresh, world.commits, [], (List.append_nil _).symm, kept.stored key⟩
  · exact fresh

/-- A mutator whose result is stored was given the value that is current when it is stored. -/
theorem Linearized.mutated (kept : Linearized null world) {key : Key} {mutator : Value → Value}
    {maxAttempts : WithTop Nat} {attempt : Nat} {entry : Entry Value}
    (phase : world.phase call = .mutating key mutator maxAttempts attempt entry)
    (ran : step null world (.mutated call) = some next) : Linearized null next := by
  have explained := kept.explained call
  rw [phase] at explained
  obtain ⟨fresh, first, second, split, seen⟩ := explained
  simp only [step, phase] at ran
  rcases compareAndSet_cases null world.versions key entry.version
    (mutator entry.value) with ⟨conflict, -⟩ | ⟨current, stored⟩
  · rw [if_neg (by simp [conflict])] at ran
    cases ran
    exact kept.proceed fresh
  rw [stored, if_pos rfl] at ran
  cases ran
  have same : entry = serial null world.commits key := by
    rw [kept.stored key, seen, split] at current
    rw [seen, split, serial_append current]
  have made : { version := entry.version + 1, value := mutator entry.value } =
      serial null (world.commits ++ [{ call := some call, key, mutator }]) key := by
    rw [serial_snoc_same rfl, same]
  refine ⟨kept.stored_commit made, fun other => ?_⟩
  by_cases mine : other = call
  · subst mine
    simp only [World.move, World.commit, Function.update_self]
    exact ⟨world.commits, [], rfl, fresh, fun _ mem => (List.not_mem_nil mem).elim, made⟩
  · simp only [World.move, World.commit, Function.update_of_ne mine]
    exact (kept.explained other).later fun own => mine (Option.some.inj own).symm

theorem Linearized.step (kept : Linearized null world) {event : Event Key Value Call}
    (ran : step null world event = some next) : Linearized null next := by
  cases event with
  | withCas call key mutator maxAttempts =>
    have explained := kept.explained call
    cases phase : world.phase call with
    | idle =>
      rw [phase] at explained
      simp only [OptimisticStore.step, phase] at ran
      cases ran
      exact kept.proceed explained
    | mutating | returned | exhausted | threw => simp [OptimisticStore.step, phase] at ran
  | mutated call =>
    cases phase : world.phase call with
    | mutating => exact kept.mutated phase ran
    | idle | returned | exhausted | threw => simp [OptimisticStore.step, phase] at ran
  | threw call =>
    have explained := kept.explained call
    cases phase : world.phase call with
    | mutating =>
      rw [phase] at explained
      simp only [OptimisticStore.step, phase] at ran
      cases ran
      exact kept.move explained.1
    | idle | returned | exhausted | threw => simp [OptimisticStore.step, phase] at ran
  | compareAndSet key expectedVersion value =>
    simp only [OptimisticStore.step] at ran
    cases ran
    rcases compareAndSet_cases null world.versions key expectedVersion value with
      ⟨conflict, -⟩ | ⟨current, stored⟩
    · rwa [if_neg (by simp [conflict])]
    rw [stored, if_pos rfl]
    have made : { version := expectedVersion + 1, value } =
        serial null (world.commits ++ [{ call := none, key, mutator := fun _ => value }]) key := by
      rw [serial_snoc_same rfl, ← kept.stored key, current]
    refine ⟨kept.stored_commit made, fun call => ?_⟩
    exact (kept.explained call).later fun own => nomatch own

variable (null) (events : List (Event Key Value Call))

/-- No update is lost in any interleaving of the store's callers. -/
theorem linearized : (machine null).Always (Linearized null) {} events := by
  refine CallMachine.always_invariant (fun _ _ _ kept ran => ?_)
    ⟨fun _ => rfl, fun _ _ mem => (List.not_mem_nil mem).elim⟩ events
  exact kept.step (CallMachine.ofStep_exec_eq_ok.mp ran)

end SorobanPlayground.Backend.OptimisticStore
