import Mathlib.Data.Finmap
import Mathlib.Algebra.BigOperators.Group.Finset.Basic
import Mathlib.Algebra.BigOperators.Ring.Multiset
import Mathlib.Algebra.Order.BigOperators.Group.Multiset
import Mathlib.Tactic.Abel
import Mathlib.Tactic.Linarith

/-! # Finite maps with weighted totals

A key-value store holds finitely many entries and is read key by key. The
quantity an accounting invariant speaks about is a total over all entries, each
entry weighed by a function of its key and value. Writing or removing one entry
changes the total by the weight at that key only (`FiniteMap.total_set`,
`FiniteMap.total_remove`), and a change of the weight at one key likewise
(`FiniteMap.total_reweigh`).
-/

abbrev FiniteMap (κ β : Type*) := Finmap fun _ : κ => β

namespace FiniteMap

open Multiset

variable {κ β M : Type*} [DecidableEq κ]

/-- The value stored at a key. -/
def get (store : FiniteMap κ β) (key : κ) : Option β := store.lookup key

/-- Write a value at a key, replacing the one stored there. -/
def set (store : FiniteMap κ β) (key : κ) (value : β) : FiniteMap κ β := store.insert key value

/-- Remove the entry at a key. -/
def remove (store : FiniteMap κ β) (key : κ) : FiniteMap κ β := store.erase key

/-- Whether a key has an entry. -/
def has (store : FiniteMap κ β) (key : κ) : Bool := (store.get key).isSome

@[simp] theorem get_empty (key : κ) : get (∅ : FiniteMap κ β) key = none :=
  Finmap.lookup_empty key

@[simp] theorem get_set_self (store : FiniteMap κ β) (key : κ) (value : β) :
    (store.set key value).get key = some value :=
  Finmap.lookup_insert store

theorem get_set_of_ne (store : FiniteMap κ β) {key other : κ} (value : β)
    (ne : other ≠ key) : (store.set key value).get other = store.get other :=
  Finmap.lookup_insert_of_ne store ne

theorem get_set (store : FiniteMap κ β) (key other : κ) (value : β) :
    (store.set key value).get other = if other = key then some value else store.get other := by
  split
  · next same => rw [same, get_set_self]
  · next ne => exact get_set_of_ne store value ne

@[simp] theorem get_remove_self (store : FiniteMap κ β) (key : κ) :
    (store.remove key).get key = none :=
  Finmap.lookup_erase key store

theorem get_remove_of_ne (store : FiniteMap κ β) {key other : κ} (ne : other ≠ key) :
    (store.remove key).get other = store.get other :=
  Finmap.lookup_erase_ne ne

theorem get_remove (store : FiniteMap κ β) (key other : κ) :
    (store.remove key).get other = if other = key then none else store.get other := by
  split
  · next same => rw [same, get_remove_self]
  · next ne => exact get_remove_of_ne store ne

variable {key : κ} {store : FiniteMap κ β}

theorem get_eq_none_iff : store.get key = none ↔ key ∉ store :=
  Finmap.lookup_eq_none

theorem has_eq_true : store.has key = true ↔ ∃ value, store.get key = some value :=
  Option.isSome_iff_exists

theorem has_eq_false : store.has key = false ↔ store.get key = none := by
  rw [has, Option.isSome_eq_false_iff, Option.isNone_iff_eq_none]

theorem has_set_self (store : FiniteMap κ β) (key : κ) (value : β) :
    (store.set key value).has key = true :=
  has_eq_true.mpr ⟨value, get_set_self store key value⟩

variable {value : β}

/-- A write removes no key. -/
theorem has_set_of_has {key other : κ} (has : store.has other = true) :
    (store.set key value).has other = true := by
  rcases eq_or_ne other key with rfl | ne
  · exact has_set_self store other value
  · obtain ⟨found, got⟩ := has_eq_true.mp has
    exact has_eq_true.mpr ⟨found, (get_set_of_ne store value ne).trans got⟩

theorem has_set {key other : κ} :
    (store.set key value).has other = true ↔ other = key ∨ store.has other = true := by
  unfold has
  rw [get_set]
  split
  · next same => simp [same]
  · next ne => simp [ne]

theorem has_remove {key other : κ} :
    (store.remove key).has other = true ↔ other ≠ key ∧ store.has other = true := by
  unfold has
  rw [get_remove]
  split
  · next same => simp [same]
  · next ne => simp [ne]

variable {holds : κ → β → Prop}

/-- What holds of every entry and of a written one holds of every entry afterwards. -/
theorem forall_set (all : ∀ key value, store.get key = some value → holds key value)
    (wrote : holds key value) (other : κ) (got : β)
    (found : (store.set key value).get other = some got) : holds other got := by
  rw [get_set] at found
  split at found
  · next same =>
    cases found
    exact same ▸ wrote
  · exact all other got found

theorem forall_remove (all : ∀ key value, store.get key = some value → holds key value) (other : κ)
    (got : β) (found : (store.remove key).get other = some got) : holds other got := by
  rw [get_remove] at found
  split at found
  · cases found
  · exact all other got found

variable {first second : FiniteMap κ β}

@[ext] theorem ext_get (same : ∀ key, first.get key = second.get key) : first = second :=
  Finmap.ext_lookup same

/-- Writing the value that is stored changes nothing. -/
theorem set_of_get (got : store.get key = some value) : store.set key value = store := by
  ext1 other
  rw [get_set]
  split
  · next same => rw [same, got]
  · rfl

variable [AddCommGroup M]

omit [DecidableEq κ] in
/-- The weights of all entries, added up. -/
def total (store : FiniteMap κ β) (weight : κ → β → M) : M :=
  (store.entries.map fun entry => weight entry.1 entry.2).sum

/-- The weight an optional value contributes at a key. -/
def weightAt (weight : κ → β → M) (key : κ) (stored : Option β) : M :=
  stored.elim 0 (weight key)

omit [DecidableEq κ] in
@[simp] theorem weightAt_none (weight : κ → β → M) (key : κ) : weightAt weight key none = 0 := rfl

omit [DecidableEq κ] in
@[simp] theorem weightAt_some (weight : κ → β → M) (key : κ) (value : β) :
    weightAt weight key (some value) = weight key value := rfl

omit [DecidableEq κ] in
@[simp] theorem total_empty (weight : κ → β → M) : total (∅ : FiniteMap κ β) weight = 0 := rfl

theorem total_set_of_absent (store : FiniteMap κ β) (weight : κ → β → M) {key : κ} (value : β)
    (gone : store.get key = none) :
    (store.set key value).total weight = weight key value + store.total weight := by
  rw [total, set, Finmap.entries_insert_of_notMem (get_eq_none_iff.mp gone), map_cons,
    sum_cons]
  rfl

theorem set_get_remove {key : κ} (got : store.get key = some value) :
    (store.remove key).set key value = store := by
  ext1 other
  rw [get_set, get_remove]
  split
  · next same => rw [same, got]
  · rfl

/-- Removing an entry takes its weight out of the total. -/
theorem total_remove (store : FiniteMap κ β) (weight : κ → β → M) (key : κ) :
    (store.remove key).total weight = store.total weight - weightAt weight key (store.get key) := by
  cases got : store.get key with
  | none =>
    have unchanged : store.remove key = store := by
      ext1 other
      rw [get_remove]
      split
      · next same => rw [same, got]
      · rfl
    rw [unchanged, weightAt_none, sub_zero]
  | some value =>
    have restored :=
      total_set_of_absent (store.remove key) weight value (get_remove_self store key)
    rw [set_get_remove got] at restored
    rw [restored, weightAt_some]
    abel

/-- Writing an entry exchanges the weight stored at its key for the new one. -/
theorem total_set (store : FiniteMap κ β) (weight : κ → β → M) (key : κ) (value : β) :
    (store.set key value).total weight =
      store.total weight - weightAt weight key (store.get key) + weight key value := by
  have overwritten : store.set key value = (store.remove key).set key value := by
    ext1 other
    rw [get_set, get_set, get_remove]
    split <;> rfl
  rw [overwritten, total_set_of_absent _ weight value (get_remove_self store key), total_remove]
  abel

/-- Writing over a stored entry exchanges its weight. -/
theorem total_set_of_stored {store : FiniteMap κ β} (weight : κ → β → M) {key : κ}
    {got : β} (found : store.get key = some got) (value : β) :
    (store.set key value).total weight =
      store.total weight - weight key got + weight key value := by
  rw [total_set, found, weightAt_some]

/-- Writing an entry over one that a weightless value stands for when absent. -/
theorem total_set_getD (store : FiniteMap κ β) (weight : κ → β → M) (key : κ) (value gone : β)
    (weightless : weight key gone = 0) :
    (store.set key value).total weight =
      store.total weight - weight key ((store.get key).getD gone) + weight key value := by
  rw [total_set]
  cases store.get key with
  | none => rw [weightAt_none, Option.getD_none, weightless]
  | some => rw [weightAt_some, Option.getD_some]

/-- Weights that agree on every entry have the same total. -/
theorem total_congr (store : FiniteMap κ β) {first second : κ → β → M}
    (same : ∀ key value, store.get key = some value → first key value = second key value) :
    store.total first = store.total second := by
  refine congrArg Multiset.sum (Multiset.map_congr rfl fun entry mem => ?_)
  exact same entry.1 entry.2 (Finmap.mem_lookup_iff.mpr mem)

/-- Maps that agree away from one key differ in total by their weights there. -/
theorem total_of_agree {first second : FiniteMap κ β} (weight : κ → β → M) {key : κ}
    (agree : ∀ other, other ≠ key → second.get other = first.get other) :
    second.total weight =
      first.total weight - weightAt weight key (first.get key) +
        weightAt weight key (second.get key) := by
  have rest : second.remove key = first.remove key := by
    ext1 other
    rw [get_remove, get_remove]
    split
    · rfl
    · next ne => exact agree other ne
  have removed := total_remove second weight key
  rw [rest, total_remove] at removed
  rw [removed]
  abel

/-- Weights that agree away from one key differ in total by their difference there. -/
theorem total_reweigh (store : FiniteMap κ β) {first second : κ → β → M} (key : κ)
    (same : ∀ other value, other ≠ key → store.get other = some value →
      first other value = second other value) :
    store.total second =
      store.total first - weightAt first key (store.get key) +
        weightAt second key (store.get key) := by
  have rest : (store.remove key).total first = (store.remove key).total second := by
    apply total_congr _
    intro other value got
    by_cases equal : other = key
    · rw [equal, get_remove_self] at got
      exact (Option.some_ne_none value got.symm).elim
    · rw [get_remove_of_ne store equal] at got
      exact same other value equal got
  rw [total_remove, total_remove] at rest
  rw [rest]
  abel

/-- A total adds up over the keys. -/
theorem total_eq_sum_keys (store : FiniteMap κ β) (weight : κ → β → M) :
    store.total weight = ∑ key ∈ store.keys, weightAt weight key (store.get key) := by
  change _ = ((store.entries.map Sigma.fst).map _).sum
  rw [map_map]
  refine congrArg Multiset.sum (Multiset.map_congr rfl fun entry mem => ?_)
  have got : store.get entry.1 = some entry.2 := Finmap.mem_lookup_iff.mpr mem
  rw [Function.comp_apply, got, weightAt_some]

/-- Maps that weigh the same at every key have the same total. -/
theorem total_of_same {weight other : κ → β → M}
    (same : ∀ key, weightAt other key (second.get key) = weightAt weight key (first.get key)) :
    second.total other = first.total weight := by
  have gone : ∀ {store : FiniteMap κ β} {key : κ}, key ∉ store.keys → store.get key = none :=
    fun missing => get_eq_none_iff.mpr (mt Finmap.mem_keys.mpr missing)
  rw [total_eq_sum_keys, total_eq_sum_keys]
  calc ∑ key ∈ second.keys, weightAt other key (second.get key)
      = ∑ key ∈ second.keys ∪ first.keys, weightAt other key (second.get key) := by
        refine Finset.sum_subset Finset.subset_union_left fun key _ missing => ?_
        rw [gone missing, weightAt_none]
    _ = ∑ key ∈ second.keys ∪ first.keys, weightAt weight key (first.get key) :=
        Finset.sum_congr rfl fun key _ => same key
    _ = ∑ key ∈ first.keys, weightAt weight key (first.get key) := by
        refine (Finset.sum_subset Finset.subset_union_right fun key _ missing => ?_).symm
        rw [gone missing, weightAt_none]

/-- Maps that weigh the same away from one key differ in total by their weights there. -/
theorem total_of_same_off {first second : FiniteMap κ β} {weight other : κ → β → M} {key : κ}
    (same : ∀ index, index ≠ key →
      weightAt other index (second.get index) = weightAt weight index (first.get index)) :
    second.total other =
      first.total weight - weightAt weight key (first.get key) +
        weightAt other key (second.get key) := by
  have rest : (second.remove key).total other = (first.remove key).total weight := by
    apply total_of_same
    intro index
    rw [get_remove, get_remove]
    split
    · rfl
    · next ne => exact same index ne
  rw [total_remove, total_remove] at rest
  rw [← rest]
  abel

/-- A value is written while the weights change at its key only. -/
theorem total_set_reweigh (store : FiniteMap κ β) {weight other : κ → β → M} (key : κ) (value : β)
    (same : ∀ index held, index ≠ key → other index held = weight index held) :
    (store.set key value).total other =
      store.total weight - weightAt weight key (store.get key) + other key value := by
  have agree : ∀ index, index ≠ key →
      weightAt other index ((store.set key value).get index) =
        weightAt weight index (store.get index) := by
    intro index ne
    rw [get_set_of_ne store value ne]
    cases store.get index with
    | none => rfl
    | some held => exact same index held ne
  rw [total_of_same_off agree, get_set_self, weightAt_some]

section

omit [DecidableEq κ]

theorem total_add (store : FiniteMap κ β) (first second : κ → β → M) :
    store.total (fun key value => first key value + second key value) =
      store.total first + store.total second :=
  sum_map_add

theorem total_sub (store : FiniteMap κ β) (first second : κ → β → M) :
    store.total (fun key value => first key value - second key value) =
      store.total first - store.total second :=
  sum_map_sub

end

/-- Weights that vanish on every entry total zero. -/
theorem total_eq_zero (store : FiniteMap κ β) {weight : κ → β → M}
    (weightless : ∀ key value, store.get key = some value → weight key value = 0) :
    store.total weight = 0 := by
  rw [total_congr store weightless]
  exact sum_eq_zero fun summand mem => by
    obtain ⟨_, -, rfl⟩ := mem_map.mp mem
    rfl

variable {store : FiniteMap κ β} {weight : κ → β → Int}

theorem total_nonneg (nonneg : ∀ key value, store.get key = some value → 0 ≤ weight key value) :
    0 ≤ store.total weight := by
  apply sum_nonneg
  intro summand mem
  obtain ⟨entry, got, rfl⟩ := mem_map.mp mem
  exact nonneg entry.1 entry.2 (Finmap.mem_lookup_iff.mpr got)

/-- Smaller weights have a smaller total. -/
theorem total_mono {less : κ → β → Int}
    (ordered : ∀ key value, store.get key = some value → less key value ≤ weight key value) :
    store.total less ≤ store.total weight := by
  have difference : 0 ≤ store.total fun key value => weight key value - less key value :=
    total_nonneg fun key value got => sub_nonneg.mpr (ordered key value got)
  have split := total_add store less fun key value => weight key value - less key value
  simp only [add_sub_cancel] at split
  rw [split]
  exact le_add_of_nonneg_right difference

omit [DecidableEq κ] in
theorem total_mul_left (store : FiniteMap κ β) (factor : Int) (weight : κ → β → Int) :
    store.total (fun key value => factor * weight key value) = factor * store.total weight :=
  sum_map_mul_left

/-- Quotients that are rounded down add up to no more than the rounded quotient of the total. -/
theorem total_ediv_le {divisor : Int} (pos : 0 < divisor) :
    store.total (fun key value => weight key value / divisor) ≤ store.total weight / divisor := by
  rw [Int.le_ediv_iff_mul_le pos, mul_comm, ← total_mul_left]
  apply total_mono
  intro key value _
  exact Int.mul_ediv_self_le pos.ne'

/-- With nonnegative weights no entry weighs more than the total. -/
theorem weight_le_total (nonneg : ∀ key value, store.get key = some value → 0 ≤ weight key value)
    {key : κ} (got : store.get key = some value) : weight key value ≤ store.total weight := by
  have rest : 0 ≤ (store.remove key).total weight := by
    apply total_nonneg
    intro other kept found
    rw [get_remove] at found
    split at found
    · exact (Option.some_ne_none kept found.symm).elim
    · exact nonneg other kept found
  rw [total_remove, got, weightAt_some] at rest
  linarith

/-- With nonnegative weights distinct keys weigh no more than the total. -/
theorem sum_weightAt_le_total {store : FiniteMap κ β} {weight : κ → β → Int}
    (nonneg : ∀ key value, store.get key = some value → 0 ≤ weight key value)
    {keys : List κ} (apart : keys.Nodup) :
    (keys.map fun key => weightAt weight key (store.get key)).sum ≤ store.total weight := by
  induction keys generalizing store with
  | nil => exact total_nonneg nonneg
  | cons key keys ih =>
    obtain ⟨fresh, others⟩ := List.nodup_cons.mp apart
    have left : ∀ other value, (store.remove key).get other = some value → 0 ≤ weight other value :=
      forall_remove nonneg
    have rest := ih left others
    have same : (keys.map fun other => weightAt weight other ((store.remove key).get other)) =
        keys.map fun other => weightAt weight other (store.get other) := by
      apply List.map_congr_left
      intro other mem
      have ne : other ≠ key := by
        rintro rfl
        exact fresh mem
      rw [get_remove_of_ne store ne]
    rw [same, total_remove] at rest
    rw [List.map_cons, List.sum_cons]
    omega

end FiniteMap

export FiniteMap (forall_set get_set get_set_of_ne get_set_self get_empty weightAt_some
  weightAt_none weight_le_total total_nonneg total_set total_set_of_stored total_set_getD
  total_set_of_absent total_congr total_eq_zero get_remove get_remove_of_ne get_remove_self
  forall_remove total_remove has_eq_false has_eq_true set_of_get)
