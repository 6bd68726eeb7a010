import SorobanPlayground.Library.FiniteMap

/-! # Sets stored at consecutive indices

A set of `count` members can be kept in a map from the indices below `count`.
A new member takes the index `count`; when a member leaves, the last one takes
its index.
-/

namespace SorobanPlayground

variable {Member : Type*}

/-- A map holds the members of a set at the indices below a number, each at one of them. -/
structure Enumerates (map : FiniteMap Nat Member) (count : Nat) (members : Member → Prop) :
    Prop where
  present : ∀ index, index < count → ∃ member, map.get index = some member
  absent : ∀ index, count ≤ index → map.get index = none
  distinct : ∀ first second member, map.get first = some member → map.get second = some member →
    first = second
  listed : ∀ member, members member ↔ ∃ index, map.get index = some member

namespace Enumerates

variable {map : FiniteMap Nat Member} {count : Nat} {members : Member → Prop}

section

variable (enumerates : Enumerates map count members)
include enumerates

theorem below {index : Nat} {mem : Member} (got : map.get index = some mem) : index < count := by
  by_contra beyond
  cases (enumerates.absent index (not_lt.mp beyond)).symm.trans got

theorem congr {same : Member → Prop}
    (agree : ∀ mem, same mem ↔ members mem) : Enumerates map count same :=
  { enumerates with listed := fun mem => (agree mem).trans (enumerates.listed mem) }

/-- A new member takes the index after the last. -/
theorem push {fresh : Member} (outside : ¬ members fresh) :
    Enumerates (map.set count fresh) (count + 1) fun mem => mem = fresh ∨ members mem where
  present := by
    intro index inside
    rw [get_set]
    split
    · exact ⟨fresh, rfl⟩
    · exact enumerates.present index (by omega)
  absent := by
    intro index beyond
    rw [get_set_of_ne _ _ (by omega)]
    exact enumerates.absent index (by omega)
  distinct := by
    have apart : ∀ index, map.get index ≠ some fresh := fun index got =>
      outside ((enumerates.listed fresh).mpr ⟨index, got⟩)
    intro first second mem atFirst atSecond
    rw [get_set] at atFirst atSecond
    split at atFirst <;> split at atSecond
    · omega
    · cases atFirst
      exact absurd atSecond (apart second)
    · cases atSecond
      exact absurd atFirst (apart first)
    · exact enumerates.distinct first second mem atFirst atSecond
  listed := by
    intro mem
    constructor
    · rintro (rfl | inside)
      · exact ⟨count, get_set_self _ _ _⟩
      · obtain ⟨index, got⟩ := (enumerates.listed mem).mp inside
        exact ⟨index, (get_set_of_ne _ _ (enumerates.below got).ne).trans got⟩
    · rintro ⟨index, got⟩
      rw [get_set] at got
      split at got
      · exact .inl (Option.some.inj got).symm
      · exact .inr ((enumerates.listed mem).mpr ⟨index, got⟩)

end

/-- The map after a member was overwritten by the last one, whose index was freed. -/
theorem swapRemove {final : FiniteMap Nat Member} {index last : Nat} {removed moved : Member}
    (enumerates : Enumerates map (last + 1) members) (got : map.get index = some removed)
    (atLast : map.get last = some moved) (read : ∀ other, final.get other =
      if other = last then none else if other = index then some moved else map.get other) :
    Enumerates final last fun mem => mem ≠ removed ∧ members mem := by
  have inside := enumerates.below got
  have held : ∀ other mem, final.get other = some mem ↔
      other ≠ last ∧ (other = index ∧ mem = moved ∨
        other ≠ index ∧ map.get other = some mem) := by
    intro other mem
    rw [read]
    by_cases ending : other = last
    · simp [ending]
    · by_cases here : other = index
      · subst here
        simp [ending, eq_comm]
      · simp [ending, here]
  refine ⟨fun other below => ?_, fun other beyond => ?_, ?_, fun mem => ?_⟩
  · rw [read, if_neg below.ne]
    split
    · exact ⟨moved, rfl⟩
    · exact enumerates.present other (by omega)
  · rw [read]
    split
    · rfl
    · rw [if_neg (by omega)]
      exact enumerates.absent other (by omega)
  · intro first second mem atFirst atSecond
    obtain ⟨firstNe, ⟨rfl, rfl⟩ | ⟨-, atFirst⟩⟩ := (held first mem).mp atFirst
    · obtain ⟨secondNe, ⟨rfl, -⟩ | ⟨-, atSecond⟩⟩ := (held second _).mp atSecond
      · rfl
      · exact absurd (enumerates.distinct _ _ _ atSecond atLast) secondNe
    · obtain ⟨_, ⟨rfl, rfl⟩ | ⟨-, atSecond⟩⟩ := (held second mem).mp atSecond
      · exact absurd (enumerates.distinct _ _ _ atFirst atLast) firstNe
      · exact enumerates.distinct _ _ _ atFirst atSecond
  · constructor
    · rintro ⟨kept, belongs⟩
      obtain ⟨other, found⟩ := (enumerates.listed mem).mp belongs
      have others : other ≠ index := by
        rintro rfl
        exact kept (Option.some.inj (found.symm.trans got))
      by_cases ending : other = last
      · subst ending
        have same : mem = moved := Option.some.inj (found.symm.trans atLast)
        exact ⟨index, (held index mem).mpr ⟨others.symm, .inl ⟨rfl, same⟩⟩⟩
      · exact ⟨other, (held other mem).mpr ⟨ending, .inr ⟨others, found⟩⟩⟩
    · rintro ⟨other, found⟩
      obtain ⟨notLast, ⟨rfl, rfl⟩ | ⟨others, found⟩⟩ := (held other mem).mp found
      · refine ⟨?_, (enumerates.listed _).mpr ⟨last, atLast⟩⟩
        rintro rfl
        exact notLast (enumerates.distinct _ _ _ got atLast)
      · refine ⟨?_, (enumerates.listed _).mpr ⟨other, found⟩⟩
        rintro rfl
        exact others (enumerates.distinct _ _ _ found got)

end Enumerates

end SorobanPlayground
