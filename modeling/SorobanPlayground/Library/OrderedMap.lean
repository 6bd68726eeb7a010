import Mathlib.Data.List.Nodup
import Mathlib.Data.List.Lemmas

/-! # Maps that are iterated in the order of insertion

An ordered map holds at most one entry for each key. A write replaces the value of a
key that is present in its place and appends a key that is not
(`OrderedMap.set`). An ordered set is an ordered map without values.
-/

/-- A map whose entries are listed in the order in which their keys were first written. -/
structure OrderedMap (κ β : Type*) where
  entries : List (κ × β)
  distinct : (entries.map Prod.fst).Nodup

/-- A set whose members are listed in the order in which they were added. -/
abbrev OrderedSet (κ : Type*) := OrderedMap κ Unit

namespace OrderedMap

open List

variable {κ β : Type*}

@[ext] theorem ext {first second : OrderedMap κ β} (same : first.entries = second.entries) :
    first = second := by
  cases first
  cases second
  cases same
  rfl

instance : EmptyCollection (OrderedMap κ β) := ⟨⟨[], List.nodup_nil⟩⟩

def keys (map : OrderedMap κ β) : List κ := map.entries.map Prod.fst

def values (map : OrderedMap κ β) : List β := map.entries.map Prod.snd

/-- The entries that meet a condition, in their order. -/
def filter (map : OrderedMap κ β) (keep : κ × β → Bool) : OrderedMap κ β where
  entries := map.entries.filter keep
  distinct := map.distinct.sublist (List.filter_sublist.map _)

variable [DecidableEq κ]

def get (map : OrderedMap κ β) (key : κ) : Option β :=
  (map.entries.find? fun entry => entry.1 = key).map Prod.snd

/-- An entry list after a write. -/
def setEntries (entries : List (κ × β)) (key : κ) (value : β) : List (κ × β) :=
  if key ∈ entries.map Prod.fst then
    entries.map fun entry => if entry.1 = key then (key, value) else entry
  else entries ++ [(key, value)]

/-- A write keeps the order of the keys and appends a new one. -/
theorem map_fst_setEntries (entries : List (κ × β)) (key : κ) (value : β) :
    (setEntries entries key value).map Prod.fst =
      if key ∈ entries.map Prod.fst then entries.map Prod.fst
      else entries.map Prod.fst ++ [key] := by
  unfold setEntries
  split
  · rw [map_map]
    refine map_congr_left fun entry _ => ?_
    rw [Function.comp_apply]
    split
    · next same => exact same.symm
    · rfl
  · rw [map_append]
    rfl

theorem setEntries_nodup {entries : List (κ × β)} (apart : (entries.map Prod.fst).Nodup)
    (key : κ) (value : β) : ((setEntries entries key value).map Prod.fst).Nodup := by
  rw [map_fst_setEntries]
  split
  · exact apart
  · next fresh =>
    refine apart.append (nodup_singleton key) ?_
    intro other old new
    obtain rfl := mem_singleton.mp new
    exact fresh old

/-- Write a value at a key, in its place when the key is present and at the end otherwise. -/
def set (map : OrderedMap κ β) (key : κ) (value : β) : OrderedMap κ β where
  entries := setEntries map.entries key value
  distinct := setEntries_nodup map.distinct key value

/-- Remove the entry at a key. -/
def remove (map : OrderedMap κ β) (key : κ) : OrderedMap κ β :=
  map.filter fun entry => entry.1 ≠ key

/-- Add a member to a set, at the end when it is new. -/
def add (members : OrderedSet κ) (member : κ) : OrderedSet κ := members.set member ()

variable {map : OrderedMap κ β} {key : κ} {value : β}

theorem get_eq_some : map.get key = some value ↔ (key, value) ∈ map.entries := by
  unfold get
  constructor
  · intro found
    obtain ⟨⟨other, got⟩, first, rfl⟩ := Option.map_eq_some_iff.mp found
    have same : other = key := by simpa using List.find?_some first
    subst same
    exact mem_of_find?_eq_some first
  · intro here
    cases found : map.entries.find? fun entry => entry.1 = key with
    | none =>
      have gone := List.find?_eq_none.mp found (key, value) here
      simp at gone
    | some entry =>
      obtain ⟨other, _⟩ := entry
      have same : other = key := by simpa using List.find?_some found
      subst same
      have one := inj_on_of_nodup_map map.distinct (mem_of_find?_eq_some found)
        here rfl
      rw [one]
      rfl

theorem get_eq_none : map.get key = none ↔ key ∉ map.keys := by
  rw [← not_iff_not, not_not, ← ne_eq, Option.ne_none_iff_exists']
  constructor
  · rintro ⟨value, found⟩
    exact mem_map.mpr ⟨(key, value), get_eq_some.mp found, rfl⟩
  · intro here
    obtain ⟨⟨_, value⟩, member, rfl⟩ := mem_map.mp here
    exact ⟨value, get_eq_some.mpr member⟩

theorem mem_keys : key ∈ map.keys ↔ ∃ value, map.get key = some value := by
  rw [← not_iff_not, ← get_eq_none, ← Option.ne_none_iff_exists', not_not]

@[simp] theorem get_empty (key : κ) : get (∅ : OrderedMap κ β) key = none := rfl

theorem get_filter {keep : κ × β → Bool} :
    (map.filter keep).get key = some value ↔ map.get key = some value ∧ keep (key, value) := by
  rw [get_eq_some, get_eq_some]
  exact mem_filter

@[simp] theorem get_remove_self (map : OrderedMap κ β) (key : κ) :
    (map.remove key).get key = none := by
  refine Option.eq_none_iff_forall_ne_some.mpr fun value found => ?_
  have kept := (get_filter.mp found).2
  simp at kept

variable {other : κ}

theorem get_remove_of_ne (map : OrderedMap κ β) (ne : other ≠ key) :
    (map.remove key).get other = map.get other := by
  refine Option.ext fun value => ?_
  exact get_filter.trans (and_iff_left (by simpa using ne))

theorem get_remove (map : OrderedMap κ β) (key other : κ) :
    (map.remove key).get other = if other = key then none else map.get other := by
  split
  · next same => rw [same, get_remove_self]
  · next ne => exact get_remove_of_ne map ne

theorem mem_set_entries {key other : κ} {value got : β} :
    (other, got) ∈ (map.set key value).entries ↔
      (other = key ∧ got = value) ∨ (other ≠ key ∧ (other, got) ∈ map.entries) := by
  change _ ∈ setEntries _ _ _ ↔ _
  unfold setEntries
  split
  · next here =>
    rw [mem_map]
    constructor
    · rintro ⟨⟨_, _⟩, member, wrote⟩
      split at wrote
      · exact .inl ⟨(Prod.mk.inj wrote).1.symm, (Prod.mk.inj wrote).2.symm⟩
      · next ne =>
        cases wrote
        exact .inr ⟨ne, member⟩
    · rintro (⟨rfl, rfl⟩ | ⟨ne, member⟩)
      · obtain ⟨entry, member, rfl⟩ := mem_map.mp here
        exact ⟨entry, member, if_pos rfl⟩
      · exact ⟨(other, got), member, if_neg ne⟩
  · next gone =>
    rw [mem_append, mem_singleton, Prod.mk.injEq]
    constructor
    · rintro (member | wrote)
      · refine .inr ⟨?_, member⟩
        rintro rfl
        exact gone (mem_map.mpr ⟨_, member, rfl⟩)
      · exact .inl wrote
    · rintro (wrote | ⟨-, member⟩)
      · exact .inr wrote
      · exact .inl member

@[simp] theorem get_set_self (map : OrderedMap κ β) (key : κ) (value : β) :
    (map.set key value).get key = some value :=
  get_eq_some.mpr (mem_set_entries.mpr (.inl ⟨rfl, rfl⟩))

theorem get_set_of_ne (map : OrderedMap κ β) (value : β) (ne : other ≠ key) :
    (map.set key value).get other = map.get other := by
  refine Option.ext fun got => ?_
  rw [get_eq_some, get_eq_some, mem_set_entries]
  constructor
  · rintro (⟨same, -⟩ | ⟨-, member⟩)
    · exact absurd same ne
    · exact member
  · exact fun member => .inr ⟨ne, member⟩

theorem get_set (map : OrderedMap κ β) (key other : κ) (value : β) :
    (map.set key value).get other = if other = key then some value else map.get other := by
  split
  · next same => rw [same, get_set_self]
  · next ne => exact get_set_of_ne map value ne

/-- A new key is written at the end. -/
theorem values_set_of_absent (gone : map.get key = none) :
    (map.set key value).values = map.values ++ [value] := by
  have fresh : key ∉ map.entries.map Prod.fst := get_eq_none.mp gone
  change (setEntries map.entries key value).map Prod.snd = _
  unfold setEntries
  rw [if_neg fresh, map_append]
  rfl

theorem keys_set (map : OrderedMap κ β) (key : κ) (value : β) :
    (map.set key value).keys = if key ∈ map.keys then map.keys else map.keys ++ [key] :=
  map_fst_setEntries map.entries key value

theorem mem_values : value ∈ map.values ↔ ∃ key, map.get key = some value := by
  simp only [get_eq_some]
  constructor
  · intro member
    obtain ⟨⟨key, _⟩, got, rfl⟩ := mem_map.mp member
    exact ⟨key, got⟩
  · intro ⟨key, member⟩
    exact mem_map.mpr ⟨(key, value), member, rfl⟩

variable {members : OrderedSet κ} {member : κ}

theorem mem_add : other ∈ (members.add member).keys ↔ other = member ∨ other ∈ members.keys := by
  rw [mem_keys, mem_keys, add]
  by_cases same : other = member
  · rw [same, get_set_self]
    exact iff_of_true ⟨(), rfl⟩ (.inl rfl)
  · rw [get_set_of_ne _ _ same]
    exact (or_iff_right same).symm

theorem mem_remove :
    other ∈ (members.remove member).keys ↔ other ≠ member ∧ other ∈ members.keys := by
  rw [mem_keys, mem_keys]
  by_cases same : other = member
  · rw [same, get_remove_self]
    exact iff_of_false (fun ⟨_, found⟩ => nomatch found) fun gone => gone.1 rfl
  · rw [get_remove_of_ne _ same]
    exact (and_iff_right same).symm

end OrderedMap
