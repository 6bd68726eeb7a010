import Mathlib.Data.Int.ConditionallyCompleteOrder
import Mathlib.Data.List.Sort
import SorobanPlayground.PriceFeedAggregator.Contract

/-! # Sorting prices

The insertion sort moves values up one slot at a time and writes the key into the hole
that is left. It returns the sorted permutation of its input for every vector, and no
index that it reads or writes is out of range.
-/

namespace SorobanPlayground.PriceFeedAggregator

open List

variable {α : Type} {values rest : List α} {value : α}

@[simp] theorem vecGet_eq_ok {index : Nat} :
    vecGet values index = .ok value ↔ values[index]? = some value :=
  orTrap_eq_ok

theorem vecGet_length (values rest : List α) (value : α) :
    vecGet (values ++ value :: rest) values.length = .ok value := by
  rw [vecGet_eq_ok, List.getElem?_append_right le_rfl, Nat.sub_self]
  rfl

theorem vecSet_length (values rest : List α) (value other : α) :
    vecSet (values ++ other :: rest) values.length value = .ok (values ++ value :: rest) := by
  have within : values.length < (values ++ other :: rest).length := by
    rw [length_append, length_cons]
    omega
  unfold vecSet assertOrTrap
  rw [if_pos within, set_append_right _ _ le_rfl, Nat.sub_self]
  rfl

theorem siftKey_spec (key hole : Int) (below above : List Int) :
    ∃ filled : List Int, siftKey key below.length (below ++ hole :: above) = .ok (filled ++ above) ∧
      filled.Perm (key :: below) ∧
      (below.Pairwise (· ≤ ·) → filled.Pairwise (· ≤ ·)) := by
  induction below using List.reverseRecOn generalizing hole above with
  | nil => exact ⟨[key], vecSet_length [] above key hole, List.Perm.refl _, fun _ => by simp⟩
  | append_singleton below last ih =>
    have length : (below ++ [last]).length = below.length + 1 := length_append
    have split : below ++ [last] ++ hole :: above = below ++ last :: hole :: above := by
      rw [append_assoc]
      rfl
    have read : vecGet (below ++ [last] ++ hole :: above) below.length = .ok last := by
      rw [split]
      exact vecGet_length below _ last
    have wrote : ∀ value, vecSet (below ++ [last] ++ hole :: above) (below.length + 1) value =
        .ok (below ++ [last] ++ value :: above) := by
      intro value
      rw [← length]
      exact vecSet_length _ above value hole
    rw [length]
    unfold siftKey
    rw [read]
    by_cases shifts : key < last
    · obtain ⟨filled, sifted, same, ordered⟩ := ih last (last :: above)
      refine ⟨filled ++ [last], ?_, ?_, fun ascending => ?_⟩
      · simp only [bind_eq_ok, Except.ok.injEq, exists_eq_left', if_pos shifts, wrote]
        rw [append_assoc, append_assoc]
        exact sifted
      · exact same.append_right [last]
      · obtain ⟨lower, -, bound⟩ := pairwise_append.mp ascending
        refine pairwise_append.mpr ⟨ordered lower, pairwise_singleton _ _, ?_⟩
        intro value mem top atLast
        obtain rfl := mem_singleton.mp atLast
        rcases mem_cons.mp (same.mem_iff.mp mem) with rfl | inside
        · exact shifts.le
        · exact bound value inside _ mem_cons_self
    · refine ⟨below ++ [last] ++ [key], ?_, ?_, fun ascending => ?_⟩
      · simp only [bind_eq_ok, Except.ok.injEq, exists_eq_left', if_neg shifts, wrote]
        rw [append_assoc _ [key]]
        rfl
      · exact perm_append_comm
      · refine pairwise_append.mpr ⟨ascending, pairwise_singleton _ _, ?_⟩
        intro value mem top atKey
        obtain rfl := mem_singleton.mp atKey
        obtain ⟨-, -, bound⟩ := pairwise_append.mp ascending
        rcases mem_append.mp mem with inside | atLast
        · exact (bound value inside last mem_cons_self).trans (not_lt.mp shifts)
        · obtain rfl := mem_singleton.mp atLast
          exact not_lt.mp shifts

theorem sortRest_spec (rest : List Int) {sorted : List Int} (ascending : sorted.Pairwise (· ≤ ·)) :
    ∃ result : List Int, (List.range' sorted.length rest.length).foldlM (fun sorting i => do
        let key ← vecGet sorting i
        siftKey key i sorting) (sorted ++ rest) = .ok result ∧
      result.Pairwise (· ≤ ·) ∧ result.Perm (sorted ++ rest) := by
  induction rest generalizing sorted with
  | nil =>
    refine ⟨sorted, ?_, ascending, ?_⟩
    · rw [append_nil]
      rfl
    · rw [append_nil]
  | cons key rest ih =>
    obtain ⟨filled, sifted, same, ordered⟩ := siftKey_spec key key sorted rest
    have length : filled.length = sorted.length + 1 := same.length_eq
    obtain ⟨result, ran, risen, permuted⟩ := ih (ordered ascending)
    refine ⟨result, ?_, risen, ?_⟩
    · rw [length_cons, range'_succ, foldlM_cons, vecGet_length]
      simp only [bind_eq_ok, Except.ok.injEq, exists_eq_left']
      refine ⟨filled ++ rest, sifted, ?_⟩
      rw [← length]
      exact ran
    · have inserted : (filled ++ rest).Perm (key :: sorted ++ rest) := same.append_right rest
      exact (permuted.trans inserted).trans perm_middle.symm

theorem sortVec_eq (v : List Int) : sortVec v = .ok (v.insertionSort (· ≤ ·)) := by
  have sorted : ∃ result : List Int, sortVec v = .ok result ∧ result.Pairwise (· ≤ ·) ∧
      result.Perm v := by
    cases v with
    | nil => exact ⟨[], rfl, List.Pairwise.nil, List.Perm.nil⟩
    | cons first rest => exact sortRest_spec rest (pairwise_singleton (· ≤ ·) first)
  obtain ⟨result, ran, ascending, permuted⟩ := sorted
  have same : result = v.insertionSort (· ≤ ·) :=
    (permuted.trans (perm_insertionSort (· ≤ ·) v).symm).eq_of_pairwise' ascending
      (pairwise_insertionSort (· ≤ ·) v)
  rw [ran, same]

end SorobanPlayground.PriceFeedAggregator
