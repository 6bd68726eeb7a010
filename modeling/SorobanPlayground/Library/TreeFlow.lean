import Mathlib.Algebra.Order.BigOperators.Ring.Finset

/-! # Flows down a forest

Every node of a forest passes parts of what flows into it on to its children and retains
the rest. Nothing is lost: what the nodes retain is what flows into the roots
(`sum_retained`). A node whose children's shares do not exceed the whole passes on no more
than it gets (`outflow_le`), however the parts are rounded down.
-/

namespace TreeFlow

open Finset

variable {ι : Type*} [DecidableEq ι] {nodes : Finset ι} {parent : ι → Option ι}

/-- What flows into the children of a node. -/
def outflow {M : Type*} [AddCommMonoid M] (nodes : Finset ι) (parent : ι → Option ι)
    (inflow : ι → M) (node : ι) : M :=
  ∑ child ∈ nodes with parent child = some node, inflow child

section Conservation

variable {M : Type*} [AddCommGroup M] {inflow : ι → M}
  (closed : ∀ child ∈ nodes, ∀ node, parent child = some node → node ∈ nodes)
include closed

/-- The nodes together pass on what flows into those that have a parent. -/
theorem sum_outflow :
    ∑ node ∈ nodes, outflow nodes parent inflow node =
      ∑ child ∈ nodes with parent child ≠ none, inflow child := by
  unfold outflow
  simp only [sum_filter]
  rw [sum_comm]
  refine sum_congr rfl fun child mem => ?_
  cases up : parent child with
  | none =>
    exact sum_eq_zero fun node _ => if_neg nofun
  | some above =>
    rw [if_pos nofun, sum_eq_single above, if_pos rfl]
    · intro node _ ne
      exact if_neg fun same => ne (Option.some.inj same).symm
    · intro outside
      exact absurd (closed child mem above up) outside

/-- What the nodes retain is what flows into the roots. -/
theorem sum_retained :
    ∑ node ∈ nodes, (inflow node - outflow nodes parent inflow node) =
      ∑ root ∈ nodes with parent root = none, inflow root := by
  rw [sum_sub_distrib, sum_outflow closed, sub_eq_iff_eq_add]
  exact (sum_filter_add_sum_filter_not nodes _ inflow).symm

end Conservation

/-- What flows into the children of a node depends on these children only. -/
theorem outflow_congr {M : Type*} [AddCommMonoid M] {first second : ι → M} {node : ι}
    (same : ∀ child ∈ nodes, parent child = some node → first child = second child) :
    outflow nodes parent first node = outflow nodes parent second node := by
  refine sum_congr rfl fun child mem => ?_
  obtain ⟨mem, up⟩ := mem_filter.mp mem
  exact same child mem up

/-- What flows into the children when one more node is counted. -/
theorem outflow_range_succ {M : Type*} [AddCommMonoid M] (parent : Nat → Option Nat)
    (inflow : Nat → M) (count node : Nat) :
    outflow (Finset.range (count + 1)) parent inflow node =
      outflow (Finset.range count) parent inflow node +
        if parent count = some node then inflow count else 0 := by
  unfold outflow
  rw [sum_filter, sum_filter, sum_range_succ]

theorem outflow_natCast (inflow : ι → Nat) (node : ι) :
    ((outflow nodes parent inflow node : Nat) : Int) =
      outflow nodes parent (fun child => (inflow child : Int)) node :=
  Nat.cast_sum _ _

variable {inflow share : ι → Int} {whole : Int}

/-- A node passes on no more than flows into it if its children's shares do not exceed the whole. -/
theorem outflow_le (pos : 0 < whole) {node : ι} (nonneg : 0 ≤ inflow node)
    (shares : outflow nodes parent share node ≤ whole)
    (parts : ∀ child ∈ nodes, parent child = some node →
      inflow child * whole ≤ inflow node * share child) :
    outflow nodes parent inflow node ≤ inflow node := by
  refine le_of_mul_le_mul_right ?_ pos
  calc (∑ child ∈ nodes with parent child = some node, inflow child) * whole
      = ∑ child ∈ nodes with parent child = some node, inflow child * whole :=
        sum_mul _ _ _
    _ ≤ ∑ child ∈ nodes with parent child = some node, inflow node * share child := by
        refine sum_le_sum fun child mem => ?_
        obtain ⟨mem, up⟩ := mem_filter.mp mem
        exact parts child mem up
    _ = inflow node * ∑ child ∈ nodes with parent child = some node, share child :=
        (mul_sum _ _ _).symm
    _ ≤ inflow node * whole := mul_le_mul_of_nonneg_left shares nonneg

end TreeFlow
