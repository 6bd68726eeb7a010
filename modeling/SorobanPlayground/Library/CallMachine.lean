import Mathlib.Data.List.Basic
import Mathlib.Algebra.Group.Defs

/-! # Machines whose failed calls are rolled back

A machine executes calls one after another. A call either succeeds with a next
state or fails, and a failed call leaves the state as it was
(`CallMachine.apply`). A predicate that every successful call preserves holds at
the end of every run (`CallMachine.run_invariant`) and throughout it
(`CallMachine.always_invariant`).

Some properties are preserved only by calls meeting a condition on the state
before them. `CallMachine.Meets` says that every successful call of a run meets
such a condition; a property that successful calls preserve exactly under it
holds throughout a run exactly when the run meets it
(`CallMachine.always_iff_meets`).
-/

/-- A machine that executes calls; an execution fails or yields the next state. -/
structure CallMachine (State Call Error : Type*) where
  exec : State → Call → Except Error State

namespace CallMachine

variable {State Call Error : Type*} (machine : CallMachine State Call Error) (state : State)

/-- Execute one call; a failed call is rolled back. -/
def apply (call : Call) : State :=
  match machine.exec state call with
  | .ok next => next
  | .error _ => state

/-- Execute a list of calls in order. -/
def run (calls : List Call) : State := calls.foldl machine.apply state

@[simp] theorem run_nil : machine.run state [] = state := rfl

@[simp] theorem run_cons (call : Call) (calls : List Call) :
    machine.run state (call :: calls) = machine.run (machine.apply state call) calls := rfl

theorem run_append (first second : List Call) :
    machine.run state (first ++ second) = machine.run (machine.run state first) second :=
  List.foldl_append

variable {call : Call}

theorem apply_of_ok {state next : State} (ran : machine.exec state call = .ok next) :
    machine.apply state call = next := by
  rw [apply, ran]

theorem apply_of_error {state : State} {failure : Error}
    (failed : machine.exec state call = .error failure) : machine.apply state call = state := by
  rw [apply, failed]

/-- One call either succeeds with the state it leaves or changes nothing. -/
theorem apply_cases (state : State) (call : Call) :
    machine.exec state call = .ok (machine.apply state call) ∨
      machine.apply state call = state := by
  unfold apply
  cases machine.exec state call with
  | ok => exact .inl rfl
  | error => exact .inr rfl

/-- The states a machine reaches from a starting state. -/
def Reachable (start state : State) : Prop := ∃ calls, machine.run start calls = state

theorem Reachable.refl : machine.Reachable state state := ⟨[], rfl⟩

variable {start middle : State}

theorem Reachable.head {state : State} (ran : machine.exec start call = .ok middle)
    (reached : machine.Reachable middle state) : machine.Reachable start state := by
  obtain ⟨calls, rfl⟩ := reached
  exact ⟨call :: calls, by rw [run_cons, apply_of_ok machine ran]⟩

theorem Reachable.trans {state : State} (first : machine.Reachable start middle)
    (second : machine.Reachable middle state) : machine.Reachable start state := by
  obtain ⟨calls, rfl⟩ := first
  obtain ⟨later, rfl⟩ := second
  exact ⟨calls ++ later, machine.run_append start calls later⟩

variable {machine}

variable {holds : State → Prop}

/-- A predicate that successful calls preserve is preserved by every call. -/
theorem apply_invariant
    (step : ∀ state call next, holds state → machine.exec state call = .ok next → holds next)
    {state : State} (initial : holds state) (call : Call) : holds (machine.apply state call) := by
  rcases machine.apply_cases state call with ran | same
  · exact step state call _ initial ran
  · rwa [same]

/-- A predicate that successful calls preserve holds at the end of every run. -/
theorem run_invariant
    (step : ∀ state call next, holds state → machine.exec state call = .ok next → holds next)
    {state : State} (initial : holds state) (calls : List Call) :
    holds (machine.run state calls) := by
  induction calls generalizing state with
  | nil => exact initial
  | cons call _ ih => exact ih (apply_invariant step initial call)

variable (machine)

/-- A predicate holds in every state of a run, the first and the last included. -/
def Always (holds : State → Prop) (state : State) : List Call → Prop
  | [] => holds state
  | call :: calls => holds state ∧ Always holds (machine.apply state call) calls

/-- Every successful call of a run meets a condition on the state before it. -/
def Meets (condition : State → Call → Prop) (state : State) : List Call → Prop
  | [] => True
  | call :: calls =>
      ((∃ next, machine.exec state call = .ok next) → condition state call) ∧
        Meets condition (machine.apply state call) calls

variable {machine}

/-- A predicate holds throughout a run iff it holds after every prefix of it. -/
theorem always_iff_prefix {holds : State → Prop} {state : State} {calls : List Call} :
    machine.Always holds state calls ↔
      ∀ first second, calls = first ++ second → holds (machine.run state first) := by
  induction calls generalizing state with
  | nil =>
    constructor
    · intro initial first second split
      obtain ⟨rfl, -⟩ := List.append_eq_nil_iff.mp split.symm
      exact initial
    · intro prefixes
      exact prefixes [] [] rfl
  | cons call calls ih =>
    constructor
    · rintro ⟨initial, later⟩ first second split
      cases first with
      | nil => exact initial
      | cons _ first =>
        obtain ⟨rfl, rest⟩ := List.cons.inj split
        exact ih.mp later first second rest
    · intro prefixes
      exact ⟨prefixes [] (call :: calls) rfl,
        ih.mpr fun first second split => prefixes (call :: first) second (by rw [split]; rfl)⟩

variable {calls : List Call}

theorem Always.final {state : State} (always : machine.Always holds state calls) :
    holds (machine.run state calls) :=
  always_iff_prefix.mp always calls [] (List.append_nil calls).symm

theorem Always.mono {weaker : State → Prop} (implies : ∀ state, holds state → weaker state)
    {state : State} (always : machine.Always holds state calls) :
    machine.Always weaker state calls := by
  induction calls generalizing state with
  | nil => exact implies state always
  | cons _ _ ih => exact ⟨implies state always.1, ih always.2⟩

theorem always_and {first second : State → Prop} {state : State} {calls : List Call} :
    machine.Always (fun state => first state ∧ second state) state calls ↔
      machine.Always first state calls ∧ machine.Always second state calls := by
  induction calls generalizing state with
  | nil => exact Iff.rfl
  | cons _ _ ih => exact (and_congr_right fun _ => ih).trans and_and_and_comm

variable {base : State → Prop}

/-- Where an invariant makes two predicates agree, they hold throughout the same runs. -/
theorem always_congr {first second : State → Prop} {state : State}
    (based : machine.Always base state calls)
    (same : ∀ state, base state → (first state ↔ second state)) :
    machine.Always first state calls ↔ machine.Always second state calls := by
  induction calls generalizing state with
  | nil => exact same state based
  | cons _ _ ih => exact and_congr (same state based.1) (ih based.2)

theorem always_invariant
    (step : ∀ state call next, holds state → machine.exec state call = .ok next → holds next)
    {state : State} (initial : holds state) (calls : List Call) :
    machine.Always holds state calls := by
  induction calls generalizing state with
  | nil => exact initial
  | cons call _ ih => exact ⟨initial, ih (apply_invariant step initial call)⟩

variable {condition : State → Call → Prop}

/-- A predicate that successful calls meeting a condition preserve holds
throughout every run whose calls meet it. -/
theorem always_of_meets
    (step : ∀ state call next, holds state → condition state call → machine.exec state call =
      .ok next → holds next) {state : State} (initial : holds state)
    (meets : machine.Meets condition state calls) : machine.Always holds state calls := by
  induction calls generalizing state with
  | nil => exact initial
  | cons call _ ih =>
    refine ⟨initial, ih ?_ meets.2⟩
    rcases machine.apply_cases state call with ran | same
    · exact step state call _ initial (meets.1 ⟨_, ran⟩) ran
    · rwa [same]

variable {consequence : State → Call → Prop}

/-- What an invariant and a condition imply about successful calls holds of every
successful call of a run that meets the condition and so keeps the invariant. -/
theorem meets_of_invariant
    (step : ∀ state call next, holds state → condition state call → machine.exec state call =
      .ok next → holds next)
    (implies : ∀ state call next, holds state → condition state call → machine.exec state call =
      .ok next → consequence state call) {state : State} (initial : holds state)
    (meets : machine.Meets condition state calls) : machine.Meets consequence state calls := by
  induction calls generalizing state with
  | nil => trivial
  | cons call _ ih =>
    refine ⟨fun ⟨next, ran⟩ => ?_, ih ?_ meets.2⟩
    · exact implies state call next initial (meets.1 ⟨next, ran⟩) ran
    rcases machine.apply_cases state call with ran | same
    · exact step state call _ initial (meets.1 ⟨_, ran⟩) ran
    · rwa [same]

/-- A run meets a condition that its calls meet in every state. -/
theorem meets_of_mem (always : ∀ call ∈ calls, ∀ state, condition state call) (state : State) :
    machine.Meets condition state calls := by
  induction calls generalizing state with
  | nil => trivial
  | cons call _ ih =>
    refine ⟨fun _ => always call List.mem_cons_self state, ih (fun other mem => ?_) _⟩
    exact always other (List.mem_cons_of_mem call mem)

/-- A run meets a condition that its calls meet at the beginning when no call breaks it for the
later ones. -/
theorem meets_of_pairwise {before : Call → Call → Prop}
    (keeps : ∀ state call next later, condition state later → machine.exec state call = .ok next →
      before call later → condition next later) (ordered : calls.Pairwise before) {state : State}
    (started : ∀ call ∈ calls, condition state call) : machine.Meets condition state calls := by
  induction calls generalizing state with
  | nil => trivial
  | cons call _ ih =>
    obtain ⟨first, ordered⟩ := List.pairwise_cons.mp ordered
    refine ⟨fun _ => started call List.mem_cons_self, ih ordered fun later mem => ?_⟩
    have held := started later (List.mem_cons_of_mem call mem)
    rcases machine.apply_cases state call with ran | same
    · exact keeps state call _ later held ran (first later mem)
    · rwa [same]

/-- What an invariant implies about successful calls holds of every successful call. -/
theorem meets_of_step
    (step : ∀ state call next, holds state → machine.exec state call = .ok next → holds next)
    (implies : ∀ state call next, holds state → machine.exec state call = .ok next →
      consequence state call) {state : State} (initial : holds state) (calls : List Call) :
    machine.Meets consequence state calls :=
  meets_of_invariant
    (fun state call next held (_ : True) ran => step state call next held ran)
    (fun state call next held _ ran => implies state call next held ran) initial
    (meets_of_mem (fun _ _ _ => trivial) state)

variable {first second assumption : State → Call → Prop}

/-- Let two conditions agree on successful calls that meet an assumption, from states with
an invariant, and let successful calls that meet all of them preserve the invariant. Then
they are met by the same runs among those that meet the assumption. -/
theorem meets_congr_of_meets
    (keeps : ∀ state call next, base state → assumption state call → second state call →
      machine.exec state call = .ok next → base next)
    (same : ∀ state call next, base state → assumption state call → machine.exec state call =
      .ok next → (first state call ↔ second state call))
    {state : State} (based : base state) (assumed : machine.Meets assumption state calls) :
    machine.Meets first state calls ↔ machine.Meets second state calls := by
  induction calls generalizing state with
  | nil => exact Iff.rfl
  | cons call _ ih =>
    obtain ⟨assumed, later⟩ := assumed
    rcases machine.apply_cases state call with ran | unchanged
    · have agree := same state call _ based (assumed ⟨_, ran⟩) ran
      by_cases met : second state call
      · have next := keeps state call _ based (assumed ⟨_, ran⟩) met ran
        exact and_congr (iff_of_true (fun _ => agree.mpr met) fun _ => met) (ih next later)
      · exact iff_of_false (fun meets => met (agree.mp (meets.1 ⟨_, ran⟩)))
          fun meets => met (meets.1 ⟨_, ran⟩)
    · refine and_congr (forall_congr' fun succeeds => ?_) (ih (by rwa [unchanged]) later)
      obtain ⟨next, ran⟩ := succeeds
      exact same state call next based (assumed ⟨_, ran⟩) ran

/-- Conditions that agree on successful calls from states with an invariant are
met by the same runs. -/
theorem meets_congr
    (keeps : ∀ state call next, base state → machine.exec state call = .ok next → base next)
    (same : ∀ state call next, base state → machine.exec state call = .ok next →
      (first state call ↔ second state call)) {state : State} (based : base state)
    (calls : List Call) : machine.Meets first state calls ↔ machine.Meets second state calls :=
  meets_congr_of_meets
    (fun state call next held _ _ ran => keeps state call next held ran)
    (fun state call next held _ ran => same state call next held ran) based
    (meets_of_mem (fun _ _ _ => trivial) state)

theorem Meets.of_append {condition : State → Call → Prop} {state : State}
    {first second : List Call} (meets : machine.Meets condition state (first ++ second)) :
    machine.Meets condition state first ∧
      machine.Meets condition (machine.run state first) second := by
  induction first generalizing state with
  | nil => exact ⟨trivial, meets⟩
  | cons _ _ ih =>
    obtain ⟨held, later⟩ := ih meets.2
    exact ⟨⟨meets.1, held⟩, later⟩

theorem Meets.mono (implies : ∀ state call, first state call → second state call) {state : State}
    (meets : machine.Meets first state calls) : machine.Meets second state calls := by
  induction calls generalizing state with
  | nil => trivial
  | cons call _ ih => exact ⟨fun succeeds => implies state call (meets.1 succeeds), ih meets.2⟩

theorem Meets.and {state : State} (one : machine.Meets first state calls)
    (other : machine.Meets second state calls) :
    machine.Meets (fun state call => first state call ∧ second state call) state calls := by
  induction calls generalizing state with
  | nil => trivial
  | cons _ _ ih =>
    exact ⟨fun succeeds => ⟨one.1 succeeds, other.1 succeeds⟩, ih one.2 other.2⟩

/-- Let every successful call that meets an assumption preserve a base invariant,
and let it preserve a property exactly when it meets a condition. In a run whose
calls meet the assumption, the property holds throughout exactly when every
successful call meets the condition. -/
theorem always_iff_meets_assuming
    (keeps : ∀ state call next, base state → assumption state call → machine.exec state call =
      .ok next → base next)
    (exact : ∀ state call next, base state → holds state → assumption state call →
      machine.exec state call = .ok next → (holds next ↔ condition state call)) {state : State}
    (based : base state) (initial : holds state) (assumed : machine.Meets assumption state calls) :
    machine.Always holds state calls ↔ machine.Meets condition state calls := by
  induction calls generalizing state with
  | nil => exact iff_of_true initial trivial
  | cons call calls ih =>
    have basedNext : base (machine.apply state call) := by
      rcases machine.apply_cases state call with ran | same
      · exact keeps state call _ based (assumed.1 ⟨_, ran⟩) ran
      · rwa [same]
    constructor
    · rintro ⟨-, later⟩
      have first : holds (machine.apply state call) := by
        cases calls with
        | nil => exact later
        | cons => exact later.1
      refine ⟨fun ⟨next, ran⟩ => ?_, (ih basedNext first assumed.2).mp later⟩
      have meets := assumed.1 ⟨next, ran⟩
      rw [machine.apply_of_ok ran] at first
      exact (exact state call next based initial meets ran).mp first
    · rintro ⟨meets, later⟩
      have first : holds (machine.apply state call) := by
        rcases machine.apply_cases state call with ran | same
        · exact (exact state call _ based initial (assumed.1 ⟨_, ran⟩) ran).mpr
            (meets ⟨_, ran⟩)
        · rwa [same]
      exact ⟨initial, (ih basedNext first assumed.2).mpr later⟩

/-- Let every successful call preserve a base invariant, and let it preserve a
property exactly when it meets a condition, provided that it meets an
assumption. In a run whose calls meet the assumption, the property holds
throughout exactly when every successful call meets the condition. -/
theorem always_iff_meets_of_meets
    (keeps : ∀ state call next, base state → machine.exec state call = .ok next → base next)
    (exact : ∀ state call next, base state → holds state → assumption state call →
      machine.exec state call = .ok next → (holds next ↔ condition state call)) {state : State}
    (based : base state) (initial : holds state) (assumed : machine.Meets assumption state calls) :
    machine.Always holds state calls ↔ machine.Meets condition state calls :=
  always_iff_meets_assuming
    (fun state call next based _ ran => keeps state call next based ran)
    exact based initial assumed

/-- Let every successful call preserve a base invariant, and let it preserve a
property exactly when it meets a condition. Then the property holds throughout a
run exactly when every successful call of the run meets the condition. -/
theorem always_iff_meets
    (keeps : ∀ state call next, base state → machine.exec state call = .ok next → base next)
    (exact : ∀ state call next, base state → holds state → machine.exec state call = .ok next →
      (holds next ↔ condition state call))
    {state : State} (based : base state) (initial : holds state) :
    machine.Always holds state calls ↔ machine.Meets condition state calls :=
  always_iff_meets_of_meets keeps
    (fun state call next based held _ ran => exact state call next based held ran)
    based initial (meets_of_mem (fun _ _ _ => trivial) state)

section Sums

variable {M : Type*} [AddCommMonoid M] (machine)

/-- A quantity of each step, from the state before a call to the state after it, added
up over a run. -/
def sumSteps (weight : State → Call → State → M) (state : State) : List Call → M
  | [] => 0
  | call :: calls =>
      weight state call (machine.apply state call) +
        sumSteps weight (machine.apply state call) calls

end Sums

section Ghost

variable {Ghost : Type*} (machine)

/-- The machine beside whose state a ghost state follows the successful calls. -/
def withGhost (follow : State → Call → State → Ghost → Ghost) :
    CallMachine (State × Ghost) Call Error where
  exec state call :=
    (machine.exec state.1 call).map fun next => (next, follow state.1 call next state.2)

variable {machine} {follow : State → Call → State → Ghost → Ghost}

theorem withGhost_exec_eq_ok {state next : State × Ghost} {call : Call} :
    (machine.withGhost follow).exec state call = .ok next ↔
      machine.exec state.1 call = .ok next.1 ∧
        next.2 = follow state.1 call next.1 state.2 := by
  unfold withGhost
  dsimp only
  cases machine.exec state.1 call with
  | error => simp [Except.map]
  | ok =>
    simp only [Except.map, Except.ok.injEq, Prod.ext_iff]
    constructor
    · rintro ⟨rfl, followed⟩
      exact ⟨rfl, followed.symm⟩
    · rintro ⟨rfl, followed⟩
      exact ⟨rfl, followed.symm⟩

/-- A call leaves the ghost state that follows the state it leaves. -/
theorem withGhost_step {holds : State × Ghost → Prop} {state next : State × Ghost} {call : Call}
    (ran : (machine.withGhost follow).exec state call = .ok next)
    (kept : ∀ after, machine.exec state.1 call = .ok after →
      holds (after, follow state.1 call after state.2)) : holds next := by
  obtain ⟨done, followed⟩ := withGhost_exec_eq_ok.mp ran
  have held := kept next.1 done
  rwa [← followed] at held

theorem withGhost_apply_fst (state : State × Ghost) (call : Call) :
    ((machine.withGhost follow).apply state call).1 = machine.apply state.1 call := by
  unfold apply withGhost
  dsimp only
  cases machine.exec state.1 call with
  | ok => rfl
  | error => rfl

/-- The ghost state changes nothing of the state it follows. -/
theorem withGhost_run_fst (state : State × Ghost) (calls : List Call) :
    ((machine.withGhost follow).run state calls).1 = machine.run state.1 calls := by
  induction calls generalizing state with
  | nil => rfl
  | cons _ _ ih => rw [run_cons, run_cons, ih, withGhost_apply_fst]

/-- A condition on the state alone is met with the ghost state exactly when it is met without. -/
theorem withGhost_meets {condition : State → Call → Prop} {state : State × Ghost}
    {calls : List Call} :
    (machine.withGhost follow).Meets (fun state => condition state.1) state calls ↔
      machine.Meets condition state.1 calls := by
  induction calls generalizing state with
  | nil => exact Iff.rfl
  | cons call _ ih =>
    refine and_congr (imp_congr_left ?_) ?_
    · constructor
      · rintro ⟨next, ran⟩
        exact ⟨next.1, (withGhost_exec_eq_ok.mp ran).1⟩
      · rintro ⟨next, ran⟩
        exact ⟨(next, follow state.1 call next state.2), withGhost_exec_eq_ok.mpr ⟨ran, rfl⟩⟩
    · rw [ih, withGhost_apply_fst]

end Ghost

section Partial

variable {State Call : Type*} {step : State → Call → Option State} {state next : State}
  {call : Call}

/-- The machine of a step function that some calls are not enabled for. -/
def ofStep (step : State → Call → Option State) : CallMachine State Call Unit where
  exec state call := (step state call).elim (.error ()) .ok

theorem ofStep_exec_eq_ok : (ofStep step).exec state call = .ok next ↔
    step state call = some next := by
  unfold ofStep
  dsimp only
  cases step state call with
  | none => exact ⟨nofun, nofun⟩
  | some => exact ⟨fun same => congrArg some (Except.ok.inj same),
      fun same => congrArg Except.ok (Option.some.inj same)⟩

theorem ofStep_apply : (ofStep step).apply state call = (step state call).getD state := by
  unfold apply ofStep
  dsimp only
  cases step state call with
  | none => rfl
  | some => rfl

end Partial

variable (machine)

/-- How many calls of a run take one state to another as an event requires. -/
def countSteps (event : State → State → Prop) [DecidableRel event] (state : State) :
    List Call → Nat
  | [] => 0
  | call :: calls =>
      (if event state (machine.apply state call) then 1 else 0) +
        countSteps event (machine.apply state call) calls

variable {machine}

/-- Let an event be the entry into a phase that is never left. Then it happens
once in a run that ends in the phase and starts outside it, and never in any
other run. -/
theorem countSteps_entry {base phase : State → Prop} [DecidablePred phase]
    {event : State → State → Prop} [DecidableRel event]
    (keeps : ∀ state call next, base state → machine.exec state call = .ok next → base next)
    (stays : ∀ state call next, base state → phase state →
      machine.exec state call = .ok next → phase next)
    (entry : ∀ state call next, base state → machine.exec state call = .ok next →
      (event state next ↔ ¬ phase state ∧ phase next)) (irreflexive : ∀ state, ¬ event state state)
    {state : State} (based : base state) (calls : List Call) :
    machine.countSteps event state calls + (if phase state then 1 else 0) =
      if phase (machine.run state calls) then 1 else 0 := by
  induction calls generalizing state with
  | nil => exact Nat.zero_add _
  | cons call _ ih =>
    have later := ih (apply_invariant keeps based call)
    rw [run_cons, ← later, countSteps]
    rcases machine.apply_cases state call with ran | same
    · have entered := entry state call _ based ran
      by_cases inside : phase state
      · have remains := stays state call _ based inside ran
        have quiet : ¬ event state (machine.apply state call) :=
          fun happened => (entered.mp happened).1 inside
        rw [if_neg quiet, if_pos inside, if_pos remains, Nat.zero_add]
      · by_cases after : phase (machine.apply state call)
        · rw [if_pos (entered.mpr ⟨inside, after⟩), if_neg inside, if_pos after]
          omega
        · have quiet : ¬ event state (machine.apply state call) :=
            fun happened => after (entered.mp happened).2
          rw [if_neg quiet, if_neg inside, if_neg after, Nat.zero_add]
    · rw [same, if_neg (irreflexive state), Nat.zero_add]

end CallMachine

export CallMachine (withGhost_exec_eq_ok withGhost_step run_invariant always_of_meets
  always_invariant apply_of_ok ofStep_exec_eq_ok run_cons run_append meets_of_mem
  meets_of_pairwise always_iff_meets meets_of_step meets_of_invariant withGhost_run_fst
  withGhost_meets run_nil always_iff_meets_of_meets)
