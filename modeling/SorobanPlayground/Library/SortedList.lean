import Mathlib.Data.List.Sort

/-! # Sorted lists

The entries with a property may come first. An insertion sort keeps entries that compare equal in
the order of the list.
-/

namespace SortedList

open List

variable {α : Type*} {entries : List α} {first : α → Bool}

section

variable (downward : entries.Pairwise fun earlier later => first later → first earlier)
include downward

/-- The entries with a property come first if every entry before one with it has it too. -/
theorem filter_append_filter_not : entries.filter first ++ entries.filter (!first ·) = entries := by
  induction entries with
  | nil => rfl
  | cons entry entries ih =>
    obtain ⟨before, downward⟩ := pairwise_cons.mp downward
    by_cases chosen : first entry
    · simp only [filter_cons, chosen, ↓reduceIte, Bool.not_true, Bool.false_eq_true,
        cons_append, ih downward]
    · have none : ∀ other ∈ entries, first other = false := by
        intro other mem
        by_contra taken
        exact chosen (before other mem (by simpa using taken))
      have empty : entries.filter first = [] :=
        filter_eq_nil_iff.mpr fun other mem => by simp [none other mem]
      have all : entries.filter (!first ·) = entries :=
        filter_eq_self.mpr fun other mem => by simp [none other mem]
      simp [chosen, empty, all]

/-- A prefix that those entries fill has no others. -/
theorem take_eq_take_filter {count : Nat} (full : count ≤ (entries.filter first).length) :
    entries.take count = (entries.filter first).take count := by
  calc entries.take count
      = (entries.filter first ++ entries.filter (!first ·)).take count := by
        rw [filter_append_filter_not downward]
    _ = (entries.filter first).take count := take_append_of_le_length full

end

/-- The last entry of a list is not in a shorter prefix. -/
theorem getLast_notMem_take {count : Nat} {init : List α} {last : α}
    (apart : (init ++ [last]).Nodup) (short : count ≤ init.length) :
    last ∉ (init ++ [last]).take count := by
  rw [take_append_of_le_length short]
  intro mem
  exact (nodup_append.mp apart).2.2 last (mem_of_mem_take mem) last
    (mem_singleton.mpr rfl) rfl

/-- A property that fails of an entry of another, weaker one counts fewer entries. -/
theorem countP_lt_countP {stronger weaker : α → Bool} {entry : α} (mem : entry ∈ entries)
    (implies : ∀ other, stronger other → weaker other) (holds : weaker entry)
    (fails : ¬ stronger entry) : entries.countP stronger < entries.countP weaker := by
  obtain ⟨before, after, rfl⟩ := append_of_mem mem
  have first := countP_mono_left (l := before) fun other _ => implies other
  have second := countP_mono_left (l := after) fun other _ => implies other
  rw [countP_append, countP_append, countP_cons_of_neg fails, countP_cons_of_pos
    holds]
  omega

end SortedList

namespace List

variable {α : Type*} {r before : α → α → Prop} [DecidableRel r]

/-- An insertion into a stably sorted list puts the entry before those that it ties with. -/
theorem pairwise_orderedInsert_stable [Std.Total r] [IsTrans α r] {entry : α} {sorted : List α}
    (first : ∀ other ∈ sorted, before entry other)
    (stable : sorted.Pairwise fun one other => r one other ∧ (r other one → before one other)) :
    (sorted.orderedInsert r entry).Pairwise fun one other =>
      r one other ∧ (r other one → before one other) := by
  induction sorted with
  | nil => exact pairwise_singleton _ _
  | cons head _ ih =>
    obtain ⟨ahead, later⟩ := pairwise_cons.mp stable
    obtain ⟨_, beforeTail⟩ := forall_mem_cons.mp first
    simp only [orderedInsert]
    by_cases fits : r entry head
    · rw [if_pos fits]
      apply Pairwise.cons _ stable
      intro other mem
      refine ⟨?_, fun _ => first other mem⟩
      rcases mem_cons.mp mem with rfl | inTail
      · exact fits
      · exact IsTrans.trans _ _ _ fits (ahead other inTail).1
    · rw [if_neg fits]
      apply Pairwise.cons _ (ih beforeTail later)
      intro other mem
      rcases (mem_orderedInsert r).mp mem with rfl | inTail
      · exact ⟨(total_of r other head).resolve_left fits, fun ties => absurd ties fits⟩
      · exact ahead other inTail

/-- In a sorted list, of two entries that tie the first one is the first one of the original. -/
theorem pairwise_insertionSort_stable [Std.Total r] [IsTrans α r] {entries : List α}
    (ordered : entries.Pairwise before) :
    (entries.insertionSort r).Pairwise fun one other =>
      r one other ∧ (r other one → before one other) := by
  induction entries with
  | nil => exact Pairwise.nil
  | cons _ _ ih =>
    obtain ⟨first, later⟩ := pairwise_cons.mp ordered
    apply pairwise_orderedInsert_stable _ (ih later)
    intro other mem
    exact first other ((mem_insertionSort r).mp mem)

end List
