import SorobanPlayground.Library.CallMachine

/-! # Noninterference

Some calls show an output, and some calls are to be hidden from the others. If a relation
between the states of a run and of the run without its hidden calls is kept, and related
states show the same, both runs show the same (`CallMachine.observe_purged`).
-/

namespace CallMachine

variable {State Other Call Error Output : Type*} (machine : CallMachine State Call Error)

/-- A condition holds before every call of a run, whether the call succeeds or not. -/
def Along (condition : State → Call → Prop) (state : State) : List Call → Prop
  | [] => True
  | call :: calls => condition state call ∧ Along condition (machine.apply state call) calls

/-- The outputs of a run, in their order. -/
def observe (view : State → Call → Option Output) (state : State) : List Call → List Output
  | [] => []
  | call :: calls => (view state call).toList ++ observe view (machine.apply state call) calls

variable {machine : CallMachine State Call Error} {other : CallMachine Other Call Error}
  {view : State → Call → Option Output} {otherView : Other → Call → Option Output}

/-- A run shows what the run without its hidden calls shows. -/
theorem observe_purged {related : State → Other → Prop} {allowed : State → Call → Prop}
    {visible : Call → Bool}
    (unseen : ∀ state twin call, related state twin → allowed state call → visible call = false →
      view state call = none ∧ related (machine.apply state call) twin)
    (seen : ∀ state twin call, related state twin → allowed state call → visible call = true →
      view state call = otherView twin call ∧
        related (machine.apply state call) (other.apply twin call)) {state : State} {twin : Other}
    {calls : List Call} (initial : related state twin) (along : machine.Along allowed state calls) :
    machine.observe view state calls = other.observe otherView twin (calls.filter visible) := by
  induction calls generalizing state twin with
  | nil => rfl
  | cons call _ ih =>
    cases shown : visible call with
    | false =>
      obtain ⟨silent, kept⟩ := unseen state twin call initial along.1 shown
      rw [List.filter_cons_of_neg (by simp [shown]), ← ih kept along.2, observe, silent]
      rfl
    | true =>
      obtain ⟨same, kept⟩ := seen state twin call initial along.1 shown
      rw [List.filter_cons_of_pos shown, observe, observe, same, ih kept along.2]

variable {Ghost : Type*} {follow : State → Call → State → Ghost → Ghost}

/-- The ghost state changes nothing of what a run shows. -/
theorem withGhost_observe (state : State × Ghost) (calls : List Call) :
    (machine.withGhost follow).observe (fun state call => view state.1 call) state calls =
      machine.observe view state.1 calls := by
  induction calls generalizing state with
  | nil => rfl
  | cons _ _ ih => rw [observe, observe, ih, withGhost_apply_fst]

end CallMachine
