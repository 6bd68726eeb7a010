import SorobanPlayground.Library.FiniteMap

/-! # Stacks in numbered slots

A map from keys and slot numbers keeps a stack for each key: with a count of the values
on a stack, its slots are those below the count. A push writes the slot at the count and
a pop removes the slot below it.
-/

namespace FiniteMap

variable {κ β : Type} [DecidableEq κ] {slots : FiniteMap (κ × Nat) β} {key other : κ}
  {count slot : Nat}

/-- The slots of a key that are filled are those below a count. -/
def Stacked (slots : FiniteMap (κ × Nat) β) (key : κ) (count : Nat) : Prop :=
  ∀ slot, (slots.get (key, slot)).isSome = true ↔ slot < count

theorem stacked_empty (key : κ) : Stacked (∅ : FiniteMap (κ × Nat) β) key 0 := by
  intro slot
  exact iff_of_false nofun (Nat.not_lt_zero slot)

theorem Stacked.top (stacked : slots.Stacked key count) (filled : slot < count) :
    ∃ value, slots.get (key, slot) = some value :=
  Option.isSome_iff_exists.mp ((stacked slot).mpr filled)

theorem Stacked.push (stacked : slots.Stacked key count) (value : β) :
    (slots.set (key, count) value).Stacked key (count + 1) := by
  intro slot
  rw [get_set]
  by_cases pushed : slot = count
  · subst pushed
    exact iff_of_true (by rw [if_pos rfl]; rfl) (Nat.lt_succ_self slot)
  · rw [if_neg (fun same => pushed (congrArg Prod.snd same)), stacked slot]
    omega

theorem Stacked.pop (stacked : slots.Stacked key (count + 1)) :
    (slots.remove (key, count)).Stacked key count := by
  intro slot
  rw [get_remove]
  by_cases popped : slot = count
  · subst popped
    exact iff_of_false (by rw [if_pos rfl]; nofun) (Nat.lt_irrefl slot)
  · rw [if_neg (fun same => popped (congrArg Prod.snd same)), stacked slot]
    omega

/-- A write to one stack leaves the others. -/
theorem Stacked.set_other (stacked : slots.Stacked other count) (ne : other ≠ key)
    (value : β) : (slots.set (key, slot) value).Stacked other count := by
  intro read
  rw [get_set_of_ne slots value (fun same => ne (congrArg Prod.fst same))]
  exact stacked read

theorem Stacked.remove_other (stacked : slots.Stacked other count) (ne : other ≠ key) :
    (slots.remove (key, slot)).Stacked other count := by
  intro read
  rw [get_remove_of_ne slots (fun same => ne (congrArg Prod.fst same))]
  exact stacked read

end FiniteMap
