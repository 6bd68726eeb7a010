import SorobanPlayground.Backend.OracleLocks.LockManager

/-! # Mutual exclusion

The grants follow the answers of the store: an attempt and an extension that succeed grant a key
until the new expiry, and a release that succeeds gives it back.
-/

namespace SorobanPlayground.Backend.OracleLocks

open Leases

variable {Manager Task Owner : Type} [DecidableEq Manager] [DecidableEq Task] [DecidableEq Owner]

/-- A change of what an owner is granted for a key. -/
structure Change (Owner : Type) where
  key : String
  owner : Owner
  granted : Option (Option Int)

omit [DecidableEq Manager] [DecidableEq Owner] in
/-- What the answer that a call now waits for changes. -/
def Phase.change (now : Int) : Phase Manager Owner → Option (Change Owner)
  | .tried attempt _ true => some ⟨attempt.key, attempt.owner, some (expiry now attempt.ttlMs)⟩
  | .extending owner held ttlMs true => some ⟨held.key, owner, some (expiry now ttlMs)⟩
  | .releasing _ owner held true => some ⟨held.key, owner, none⟩
  | _ => none

def Event.task : Event Manager Task Owner → Option Task
  | .tick _ => none
  | .call task _ _ => some task
  | .resume task _ => some task

/-- The grants after an event. -/
def follow (_ : State Manager Task Owner) (event : Event Manager Task Owner)
    (next : State Manager Task Owner) (grants : Grants String Owner Int) :
    Grants String Owner Int :=
  match event.task.bind fun task => (next.phase task).change next.now with
  | some change => grants.record change.key change.owner change.granted
  | none => grants

/-- The managers beside the grants. -/
def granting (config : Manager → ManagerConfig) :
    CallMachine (State Manager Task Owner × Grants String Owner Int) (Event Manager Task Owner)
      Unit :=
  (machine config).withGhost follow

/-- What a step of a call does to the store. -/
inductive Effect (state : State Manager Task Owner) (task : Task) :
    State Manager Task Owner → Prop
  | kept (next : State Manager Task Owner) (store : state.store.Keeps state.now next.store)
      (now : state.now ≤ next.now) (quiet : (next.phase task).change next.now = none) :
      Effect state task next
  | granted (next : State Manager Task Owner) (attempt : Attempt Manager Owner) (attempts : Nat)
      (phase : next.phase task = .tried attempt attempts true) (now : state.now ≤ next.now)
      (free : ∀ entry, state.store.get attempt.key = some entry → Expired entry.expiresAt state.now)
      (written : next.store.get attempt.key = some ⟨attempt.owner, expiry next.now attempt.ttlMs⟩)
      (elsewhere : ∀ key, key ≠ attempt.key → next.store.get key = state.store.get key) :
      Effect state task next
  | renewed (next : State Manager Task Owner) (owner : Owner) (held : Held) (ttlMs : Int)
      (phase : next.phase task = .extending owner held ttlMs true) (now : state.now ≤ next.now)
      (entry : Lease Owner Int) (stored : state.store.get held.key = some entry)
      (own : entry.owner = owner)
      (written : next.store.get held.key = some ⟨owner, expiry next.now ttlMs⟩)
      (elsewhere : ∀ key, key ≠ held.key → next.store.get key = state.store.get key) :
      Effect state task next
  | gaveBack (next : State Manager Task Owner) (manager : Manager) (owner : Owner) (held : Held)
      (phase : next.phase task = .releasing manager owner held true) (now : state.now ≤ next.now)
      (entry : Lease Owner Int) (stored : state.store.get held.key = some entry)
      (own : entry.owner = owner)
      (elsewhere : ∀ key, key ≠ held.key → next.store.get key = state.store.get key) :
      Effect state task next

variable {config : Manager → ManagerConfig} {state next : State Manager Task Owner} {task : Task}

section

omit [DecidableEq Manager] [DecidableEq Owner]

theorem kept_move {phase : Phase Manager Owner} (quiet : ∀ now, phase.change now = none)
    (same : next.store = state.store) (now : next.now = state.now) :
    Effect state task (next.move task phase) := by
  refine Effect.kept _ ?_ (le_of_eq now.symm) ?_
  · change state.store.Keeps state.now next.store
    rw [same]
    exact MemoryBackend.Keeps.refl _ _
  · rw [move_phase]
    exact quiet _

theorem tryLock_effect (attempt : Attempt Manager Owner) (attempts elapsed : Nat) :
    Effect state task (tryLock state task attempt attempts elapsed) := by
  have passed : state.now ≤ state.now + elapsed :=
    Int.le_add_of_nonneg_right (Int.natCast_nonneg elapsed)
  rcases MemoryBackend.tryAcquire_cases (Prod.mk.eta.symm : state.store.tryAcquire attempt.key
      attempt.owner attempt.ttlMs state.now (state.now + elapsed) = (_, _)) with
    ⟨failed, kept⟩ | ⟨acquired, free, wrote, others⟩
  · refine Effect.kept _ kept passed ?_
    unfold tryLock
    rw [move_phase, failed]
    rfl
  · refine Effect.granted _ attempt attempts ?_ passed free wrote others
    unfold tryLock
    rw [move_phase, acquired]

end

variable {before : State Manager Task Owner}

section

omit [DecidableEq Manager] [DecidableEq Owner]

theorem inspectNext_keeps (manager : Manager) (holds : List (Owner × Held))
    (recovered : List (Recovered Owner)) (same : state.store = before.store)
    (now : state.now = before.now) :
    before.store.Keeps before.now (inspectNext state task manager holds recovered).store := by
  cases holds with
  | nil =>
    change before.store.Keeps before.now state.store
    rw [same]
    exact MemoryBackend.Keeps.refl _ _
  | cons =>
    rw [← same, ← now]
    exact MemoryBackend.inspect_keeps Prod.mk.eta.symm

theorem inspectNext_effect (manager : Manager) (holds : List (Owner × Held))
    (recovered : List (Recovered Owner)) (same : state.store = before.store)
    (now : state.now = before.now) :
    Effect before task (inspectNext state task manager holds recovered) := by
  cases holds with
  | nil => exact kept_move (fun _ => rfl) same now
  | cons =>
    refine Effect.kept _ (inspectNext_keeps _ _ _ same now) (le_of_eq now.symm) ?_
    unfold inspectNext
    rw [move_phase]
    rfl

end

theorem afterTry_effect (attempt : Attempt Manager Owner) (attempts : Nat) (acquired : Bool) :
    Effect state task (afterTry config state task attempt attempts acquired) := by
  unfold afterTry
  dsimp only
  split_ifs
  · exact kept_move (fun _ => rfl) rfl rfl
  · exact kept_move (fun _ => rfl) rfl rfl
  · exact kept_move (fun _ => rfl) rfl rfl
  · exact kept_move (fun _ => rfl) rfl rfl

omit [DecidableEq Manager] in
theorem enter_effect (call : Call Manager Owner) (elapsed : Nat) :
    Effect state task (enter config state task elapsed call) := by
  have passed : state.now ≤ state.now + elapsed :=
    Int.le_add_of_nonneg_right (Int.natCast_nonneg elapsed)
  cases call with
  | acquire =>
    unfold enter
    dsimp only
    split
    · exact kept_move (fun _ => rfl) rfl rfl
    · exact tryLock_effect _ 1 elapsed
  | release manager owner =>
    unfold enter
    dsimp only
    split
    · exact kept_move (fun _ => rfl) rfl rfl
    · next held _ =>
      rcases MemoryBackend.release_cases (Prod.mk.eta.symm :
          state.store.release held.key owner state.now = (_, _)) with
        ⟨failed, kept⟩ | ⟨released, ⟨entry, got, own⟩, others⟩
      · refine Effect.kept _ kept le_rfl ?_
        rw [move_phase, failed]
        rfl
      · refine Effect.gaveBack _ manager owner held ?_ le_rfl entry got own others
        rw [move_phase, released]
  | extend _ owner ttlMs =>
    unfold enter
    dsimp only
    split
    · exact kept_move (fun _ => rfl) rfl rfl
    · next held _ =>
      rcases MemoryBackend.extend_cases (Prod.mk.eta.symm :
          state.store.extend held.key owner ttlMs state.now (state.now + elapsed) = (_, _)) with
        ⟨failed, kept⟩ | ⟨extended, ⟨entry, got, own⟩, wrote, others⟩
      · refine Effect.kept _ kept passed ?_
        rw [move_phase, failed]
        rfl
      · refine Effect.renewed _ owner held ttlMs ?_ passed entry got own wrote others
        rw [move_phase, extended]
  | recoverStaleHolds => exact inspectNext_effect _ _ _ rfl rfl

variable {elapsed : Nat}

theorem resume_effect (resumed : resume config state task elapsed = some next) :
    Effect state task next := by
  unfold resume at resumed
  split at resumed
  · cases resumed
    exact afterTry_effect _ _ _
  · cases resumed
    exact tryLock_effect _ _ elapsed
  · cases resumed
    exact kept_move (fun _ => rfl) rfl rfl
  · cases resumed
    exact kept_move (fun _ => rfl) rfl rfl
  · split at resumed
    · cases resumed
      exact inspectNext_effect _ _ _ rfl rfl
    · split at resumed
      · cases resumed
        exact inspectNext_effect _ _ _ rfl rfl
      · cases resumed
        exact inspectNext_effect _ _ _ rfl rfl
  · cases resumed
  · cases resumed

variable {event : Event Manager Task Owner} {grants : Grants String Owner Int}

section

omit [DecidableEq Manager] [DecidableEq Task]

theorem follow_of_quiet (named : event.task = some task)
    (quiet : (next.phase task).change next.now = none) :
    follow state event next grants = grants := by
  unfold follow
  rw [named, Option.bind_some, quiet]

theorem follow_of_change {change : Change Owner} (named : event.task = some task)
    (changed : (next.phase task).change next.now = some change) :
    follow state event next grants = grants.record change.key change.owner change.granted := by
  unfold follow
  rw [named, Option.bind_some, changed]

theorem Effect.backed {event : Event Manager Task Owner} {grants : Grants String Owner Int}
    (effect : Effect state task next) (named : event.task = some task)
    (backed : Backed state.store.get grants state.now) :
    Backed next.store.get (follow state event next grants) next.now := by
  cases effect with
  | kept store now quiet =>
    rw [follow_of_quiet named quiet]
    exact (backed.of_kept store).later now
  | granted attempt _ phase now free wrote others =>
    rw [follow_of_change named (by rw [phase]; rfl)]
    refine (backed.later now).grant (fun other _ valid => ?_) wrote others
    obtain ⟨expiresAt, granted, runs⟩ := valid
    have got := backed.later now attempt.key other expiresAt granted runs
    exact runs ((free _ got).later now)
  | renewed _ _ _ phase now _ got own wrote others =>
    rw [follow_of_change named (by rw [phase]; rfl)]
    refine (backed.later now).grant (fun other foreign => ?_) wrote others
    exact (backed.later now).not_valid_of_ne got (own ▸ foreign)
  | gaveBack _ _ _ phase now _ got own others =>
    rw [follow_of_change named (by rw [phase]; rfl)]
    refine (backed.later now).giveBack (fun other foreign => ?_) others
    exact (backed.later now).not_valid_of_ne got (own ▸ foreign)

end

theorem step_backed (ran : step config state event = some next)
    (backed : Backed state.store.get grants state.now) :
    Backed next.store.get (follow state event next grants) next.now := by
  cases event with
  | tick elapsed =>
    cases ran
    exact backed.later (Int.le_add_of_nonneg_right (Int.natCast_nonneg elapsed))
  | call _ call elapsed =>
    unfold step at ran
    dsimp only at ran
    split at ran
    · cases ran
      exact (enter_effect call elapsed).backed rfl backed
    · cases ran
  | resume => exact (resume_effect ran).backed rfl backed

def Call.token : Call Manager Owner → Option (Manager × Owner)
  | .release manager owner => some (manager, owner)
  | .extend manager owner _ => some (manager, owner)
  | _ => none

omit [DecidableEq Manager] [DecidableEq Owner] in
/-- What a release or an extension returns. -/
def Phase.answer : Phase Manager Owner → Option Bool
  | .releasing _ _ _ ok => some ok
  | .extending _ _ _ ok => some ok
  | .done (.released ok) => some ok
  | .done (.extended ok) => some ok
  | _ => none

/-- An event of `recoverStaleHolds`. -/
def Recovers (state : State Manager Task Owner) : Event Manager Task Owner → Prop
  | .call _ (.recoverStaleHolds _) _ => True
  | .resume task _ => ∃ manager owner held inspected rest recovered,
      state.phase task = .recovering manager owner held inspected rest recovered
  | _ => False

/-- A step gives no key to a second owner and takes none from its owner. -/
structure Guarded (state : State Manager Task Owner) (grants : Grants String Owner Int)
    (event : Event Manager Task Owner) (next : State Manager Task Owner) : Prop where
  /-- A key is granted only when no grant of it runs. -/
  free : ∀ task attempt attempts, event.task = some task →
    next.phase task = .tried attempt attempts true →
    ∀ owner, ¬ Valid grants state.now attempt.key owner
  /-- A release and an extension leave the entries of all other tokens. -/
  foreign : ∀ task call elapsed manager owner, event = .call task call elapsed →
    call.token = some (manager, owner) → ∀ key other, other ≠ owner →
    Valid grants state.now key other → next.store.get key = state.store.get key
  /-- They return false when the token has no lock or another token has its key. -/
  refused : ∀ task call elapsed manager owner, event = .call task call elapsed →
    call.token = some (manager, owner) →
    (∀ held, (state.managers manager).heldByOwner.get owner = some held →
      ∃ other, other ≠ owner ∧ Valid grants state.now held.key other) →
    (next.phase task).answer = some false
  /-- A call returns what the store has answered. -/
  returned : ∀ task elapsed ok, event = .resume task elapsed →
    (state.phase task).answer = some ok → (next.phase task).answer = some ok
  /-- A recovery keeps every entry that has not expired. -/
  recovery : Recovers state event → state.store.Keeps state.now next.store

variable {event : Event Manager Task Owner} {grants : Grants String Owner Int}

theorem step_effect (ran : step config state event = some next)
    (named : event.task = some task) : Effect state task next := by
  cases event with
  | tick => cases named
  | call _ call elapsed =>
    cases named
    unfold step at ran
    dsimp only at ran
    split at ran
    · cases ran
      exact enter_effect call elapsed
    · cases ran
  | resume =>
    cases named
    exact resume_effect ran

omit [DecidableEq Manager] [DecidableEq Task] [DecidableEq Owner] in
theorem Effect.free {attempt : Attempt Manager Owner} {attempts : Nat}
    (effect : Effect state task next) (backed : Backed state.store.get grants state.now)
    (phase : next.phase task = .tried attempt attempts true) (owner : Owner) :
    ¬ Valid grants state.now attempt.key owner := by
  cases effect with
  | kept _ _ quiet =>
    rw [phase] at quiet
    cases quiet
  | granted _ _ same _ free =>
    obtain ⟨rfl, -, -⟩ := Phase.tried.inj (phase.symm.trans same)
    rintro ⟨expiresAt, granted, runs⟩
    exact runs (free _ (backed attempt.key owner expiresAt granted runs))
  | renewed _ _ _ same =>
    rw [phase] at same
    cases same
  | gaveBack _ _ _ same =>
    rw [phase] at same
    cases same

variable {call : Call Manager Owner}

omit [DecidableEq Manager] in
theorem enter_token {manager : Manager} {owner : Owner}
    {elapsed : Nat} (token : call.token = some (manager, owner))
    (entered : enter config state task elapsed call = next) :
    ((state.managers manager).heldByOwner.get owner = none ∧ next.store = state.store ∧
        (next.phase task).answer = some false) ∨
      ∃ held ok, (state.managers manager).heldByOwner.get owner = some held ∧
        (next.phase task).answer = some ok ∧
        ((ok = false ∧ state.store.Keeps state.now next.store) ∨
          (ok = true ∧ (∃ entry, state.store.get held.key = some entry ∧ entry.owner = owner) ∧
            ∀ key, key ≠ held.key → next.store.get key = state.store.get key)) := by
  subst entered
  cases call with
  | acquire => cases token
  | recoverStaleHolds => cases token
  | release =>
    cases token
    unfold enter
    dsimp only
    split
    · next free => exact .inl ⟨free, rfl, by rw [move_phase]; rfl⟩
    · next held got =>
      exact .inr ⟨held, _, got, by rw [move_phase]; rfl,
        MemoryBackend.release_cases Prod.mk.eta.symm⟩
  | extend _ owner ttlMs =>
    cases token
    unfold enter
    dsimp only
    split
    · next free => exact .inl ⟨free, rfl, by rw [move_phase]; rfl⟩
    · next held got =>
      refine .inr ⟨held, _, got, by rw [move_phase]; rfl, ?_⟩
      rcases MemoryBackend.extend_cases (Prod.mk.eta.symm :
          state.store.extend held.key owner ttlMs state.now (state.now + elapsed) = (_, _)) with
        failed | ⟨extended, own, -, others⟩
      · exact .inl failed
      · exact .inr ⟨extended, own, others⟩

theorem resume_answer {ok : Bool} (resumed : resume config state task elapsed = some next)
    (answered : (state.phase task).answer = some ok) : (next.phase task).answer = some ok := by
  unfold resume at resumed
  split at resumed
  · next phase =>
    rw [phase] at answered
    cases answered
  · next phase =>
    rw [phase] at answered
    cases answered
  · next phase =>
    rw [phase] at answered
    cases answered
    cases resumed
    rw [move_phase]
    rfl
  · next phase =>
    rw [phase] at answered
    cases answered
    cases resumed
    rw [move_phase]
    rfl
  · next phase =>
    rw [phase] at answered
    cases answered
  · cases resumed
  · cases resumed

theorem step_recovery (ran : step config state event = some next)
    (recovers : Recovers state event) : state.store.Keeps state.now next.store := by
  cases event with
  | tick => cases recovers
  | call _ call =>
    unfold step at ran
    dsimp only at ran
    split at ran
    · cases ran
      cases call with
      | recoverStaleHolds => exact inspectNext_keeps _ _ _ rfl rfl
      | acquire | release | extend => cases recovers
    · cases ran
  | resume task elapsed =>
    obtain ⟨_, _, _, _, _, _, phase⟩ := recovers
    change resume config state task elapsed = some next at ran
    unfold resume at ran
    rw [phase] at ran
    dsimp only at ran
    split at ran
    · cases ran
      exact inspectNext_keeps _ _ _ rfl rfl
    · split at ran
      · cases ran
        exact inspectNext_keeps _ _ _ rfl rfl
      · cases ran
        exact inspectNext_keeps _ _ _ rfl rfl

theorem enter_of_step (ran : step config state (.call task call elapsed) = some next) :
    enter config state task elapsed call = next := by
  unfold step at ran
  dsimp only at ran
  split at ran
  · exact Option.some.inj ran
  · cases ran

theorem step_guarded (ran : step config state event = some next)
    (backed : Backed state.store.get grants state.now) : Guarded state grants event next where
  free task attempt attempts named phase :=
    (step_effect ran named).free backed phase
  foreign task call elapsed manager owner same token key other ne valid := by
    subst same
    obtain ⟨expiresAt, granted, runs⟩ := valid
    have got := backed key other expiresAt granted runs
    rcases enter_token token (enter_of_step ran) with
      ⟨-, unchanged, -⟩ | ⟨held, ok, _, -, ⟨-, kept⟩ | ⟨-, ⟨entry, here, own⟩, others⟩⟩
    · rw [unchanged]
    · exact (kept key _ got runs).trans got.symm
    · refine others key ?_
      rintro rfl
      cases got.symm.trans here
      exact ne own
  refused task call elapsed manager owner same token unowned := by
    subst same
    rcases enter_token token (enter_of_step ran) with
      ⟨-, -, answer⟩ | ⟨held, ok, found, answer, ⟨rfl, -⟩ | ⟨rfl, ⟨entry, here, own⟩, -⟩⟩
    · exact answer
    · exact answer
    · obtain ⟨_, ne, valid⟩ := unowned held found
      exact absurd valid (backed.not_valid_of_ne here (own ▸ ne))
  returned task elapsed ok same answered := by
    subst same
    exact resume_answer ran answered
  recovery recovers := step_recovery ran recovers

/-- At every moment of every run every key has at most one owner whose grant runs, and every step
is guarded: no key is granted before, other tokens change nothing, and a recovery takes nothing. -/
theorem locks_exclude (config : Manager → ManagerConfig) (now : Int)
    (events : List (Event Manager Task Owner)) :
    (granting config).Always (fun (state, grants) => Exclusive grants state.now)
        ({ now }, fun _ _ => none) events ∧
      (granting config).Meets
        (fun (state, grants) event =>
          ∀ next, step config state event = some next → Guarded state grants event next)
        ({ now }, fun _ _ => none) events := by
  have keeps : ∀ (state : State Manager Task Owner × Grants String Owner Int) event next,
      Backed state.1.store.get state.2 state.1.now →
      (granting config).exec state event = .ok next →
      Backed next.1.store.get next.2 next.1.now := by
    intro state event next backed ran
    obtain ⟨stepped, followed⟩ := withGhost_exec_eq_ok.mp ran
    rw [followed]
    exact step_backed (ofStep_exec_eq_ok.mp stepped) backed
  have start : Backed (({ now } : State Manager Task Owner).store.get) (fun _ _ => none) now :=
    fun _ _ _ granted => nomatch granted
  refine ⟨(always_invariant keeps start events).mono ?_, meets_of_step keeps ?_ start events⟩
  · intro state backed
    exact backed.exclusive
  · intro state event next backed _ result stepped
    exact step_guarded stepped backed

end SorobanPlayground.Backend.OracleLocks
