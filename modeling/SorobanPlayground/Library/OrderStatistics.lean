import Mathlib.Data.List.Sort

/-! # Middle values of sorted lists

If more than half of the values of a sorted list lie in an interval, then so do its
middle values.
-/

namespace OrderStatistics

open List

variable {α : Type*} [LinearOrder α]

/-- How many values lie in an interval. -/
def countWithin (lo hi : α) (values : List α) : Nat :=
  values.countP fun value => decide (lo ≤ value ∧ value ≤ hi)

/-- More than half of the values lie in an interval. -/
def Majority (lo hi : α) (values : List α) : Prop := values.length < 2 * countWithin lo hi values

instance (lo hi : α) (values : List α) : Decidable (Majority lo hi values) :=
  inferInstanceAs (Decidable (_ < _))

theorem Majority.ne_nil {lo hi : α} {values : List α} (majority : Majority lo hi values) :
    values ≠ [] := by
  rintro rfl
  exact absurd majority (Nat.not_lt_zero _)

theorem Majority.perm {lo hi : α} {values others : List α} (majority : Majority lo hi values)
    (same : others.Perm values) : Majority lo hi others := by
  unfold Majority countWithin at *
  rw [same.length_eq, same.countP_eq]
  exact majority

/-- An index is in the middle of a list of some length. -/
def Middle (length index : Nat) : Prop := length ≤ 2 * index + 2 ∧ 2 * index ≤ length

variable {lo hi : α} {sorted : List α} {index : Nat}

theorem countWithin_append (first second : List α) :
    countWithin lo hi (first ++ second) = countWithin lo hi first + countWithin lo hi second :=
  countP_append

theorem countWithin_le (values : List α) : countWithin lo hi values ≤ values.length :=
  countP_le_length

theorem countWithin_eq_zero {values : List α}
    (outside : ∀ value ∈ values, ¬ (lo ≤ value ∧ value ≤ hi)) : countWithin lo hi values = 0 := by
  apply countP_eq_zero.mpr
  intro value mem
  rw [decide_eq_true_eq]
  exact outside value mem

/-- The values before an index of a sorted list are at most the one there. -/
theorem le_of_mem_take (ascending : sorted.SortedLE) (within : index < sorted.length) {value : α}
    (mem : value ∈ sorted.take (index + 1)) : value ≤ sorted[index] := by
  obtain ⟨_, bound, rfl⟩ := mem_iff_getElem.mp mem
  rw [length_take] at bound
  rw [getElem_take]
  exact ascending.getElem_le_getElem_of_le (by omega)

theorem le_of_mem_drop (ascending : sorted.SortedLE) (within : index < sorted.length) {value : α}
    (mem : value ∈ sorted.drop index) : sorted[index] ≤ value := by
  obtain ⟨_, _, rfl⟩ := mem_iff_getElem.mp mem
  rw [getElem_drop]
  exact ascending.getElem_le_getElem_of_le (by omega)

/-- A middle value of a sorted list lies where the majority lies. -/
theorem Majority.middle_mem (majority : Majority lo hi sorted) (ascending : sorted.SortedLE)
    (within : index < sorted.length) (middle : Middle sorted.length index) :
    lo ≤ sorted[index] ∧ sorted[index] ≤ hi := by
  unfold Majority at majority
  constructor
  · by_contra below
    have outside : countWithin lo hi (sorted.take (index + 1)) = 0 := by
      apply countWithin_eq_zero
      rintro value mem ⟨inside, -⟩
      exact below (inside.trans (le_of_mem_take ascending within mem))
    have rest : countWithin lo hi (sorted.drop (index + 1)) ≤ _ := countWithin_le _
    rw [← take_append_drop (index + 1) sorted, countWithin_append, outside,
      take_append_drop] at majority
    rw [length_drop] at rest
    have early := middle.1
    omega
  · by_contra above
    have outside : countWithin lo hi (sorted.drop index) = 0 := by
      apply countWithin_eq_zero
      rintro _ mem ⟨-, inside⟩
      exact above ((le_of_mem_drop ascending within mem).trans inside)
    have rest : countWithin lo hi (sorted.take index) ≤ _ := countWithin_le _
    rw [← take_append_drop index sorted, countWithin_append, outside,
      take_append_drop] at majority
    rw [length_take] at rest
    have late := middle.2
    omega

end OrderStatistics
