import Mathlib.Data.List.Basic

/-! # Loops that may fail

A round of a `while` loop fails, leaves the loop, or goes on with a next state.
`WhileLoop.run` executes at most a given number of rounds and says when they run out.
Whatever the rounds preserve holds when the loop is left
(`WhileLoop.run_invariant`), and a measure that every round lowers bounds the number
of rounds (`WhileLoop.run_ne_none`).
-/

namespace WhileLoop

variable {σ ε : Type*}

/-- Execute at most a number of rounds. A round that returns no next state leaves the
loop; `none` says that the rounds have run out. -/
def run (round : σ → Except ε (Option σ)) : Nat → σ → Option (Except ε σ)
  | 0, _ => none
  | rounds + 1, state =>
      match round state with
      | .error failure => some (.error failure)
      | .ok none => some (.ok state)
      | .ok (some next) => run round rounds next

variable {round : σ → Except ε (Option σ)}

/-- What every round preserves holds when the loop is left, and the loop is left by a
round that has no next state. -/
theorem run_invariant (holds : σ → Prop)
    (preserved : ∀ state next, holds state → round state = .ok (some next) → holds next)
    {rounds : Nat} {start final : σ} (initial : holds start)
    (ran : run round rounds start = some (.ok final)) : holds final ∧ round final = .ok none := by
  induction rounds generalizing start with
  | zero => cases ran
  | succ _ ih =>
    unfold run at ran
    cases step : round start with
    | error =>
      rw [step] at ran
      cases ran
    | ok result =>
      rw [step] at ran
      cases result with
      | none =>
        obtain rfl := Except.ok.inj (Option.some.inj ran)
        exact ⟨initial, step⟩
      | some next => exact ih (preserved start next initial step) ran

/-- The rounds do not run out when every round lowers a measure that they exceed. -/
theorem run_ne_none (holds : σ → Prop) (measure : σ → Nat)
    (lowered : ∀ state next, holds state → round state = .ok (some next) →
      holds next ∧ measure next < measure state) {rounds : Nat} {start : σ} (initial : holds start)
    (enough : measure start < rounds) : run round rounds start ≠ none := by
  induction rounds generalizing start with
  | zero => exact absurd enough (Nat.not_lt_zero _)
  | succ _ ih =>
    unfold run
    cases step : round start with
    | error => exact Option.some_ne_none _
    | ok result =>
      cases result with
      | none => exact Option.some_ne_none _
      | some next =>
        obtain ⟨kept, _⟩ := lowered start next initial step
        exact ih kept (by omega)

end WhileLoop
