import Mathlib.Order.Lattice

/-! # Leases that expire

A table holds at most one lease for each key. Beside it stands what every owner was last
granted for every key. When each grant that is not over is the lease in the table
(`Leases.Backed`), no key has two owners at one time (`Leases.Backed.exclusive`).
-/

namespace Leases

open Function

variable {Key Owner Time : Type*} [LinearOrder Time]

/-- A lease; without an end it never expires. -/
@[ext] structure Lease (Owner Time : Type*) where
  owner : Owner
  expiresAt : Option Time
  deriving DecidableEq, Repr

def Expired (expiresAt : Option Time) (now : Time) : Prop := ∃ time ∈ expiresAt, time ≤ now

instance (expiresAt : Option Time) (now : Time) : Decidable (Expired expiresAt now) :=
  inferInstanceAs (Decidable (∃ time ∈ expiresAt, time ≤ now))

variable {expiresAt : Option Time}

theorem Expired.later {now later : Time} (expired : Expired expiresAt now)
    (passed : now ≤ later) : Expired expiresAt later := by
  obtain ⟨time, ends, past⟩ := expired
  exact ⟨time, ends, past.trans passed⟩

/-- What every owner was last granted for every key and has not given back. -/
abbrev Grants (Key Owner Time : Type*) := Key → Owner → Option (Option Time)

/-- A grant that is not over. -/
def Valid (grants : Grants Key Owner Time) (now : Time) (key : Key) (owner : Owner) : Prop :=
  ∃ expiresAt, grants key owner = some expiresAt ∧ ¬ Expired expiresAt now

/-- No key has two owners. -/
def Exclusive (grants : Grants Key Owner Time) (now : Time) : Prop :=
  ∀ key first second, Valid grants now key first → Valid grants now key second → first = second

/-- Every grant that is not over is in the table. -/
def Backed (table : Key → Option (Lease Owner Time)) (grants : Grants Key Owner Time)
    (now : Time) : Prop :=
  ∀ key owner expiresAt, grants key owner = some expiresAt → ¬ Expired expiresAt now →
    table key = some ⟨owner, expiresAt⟩

variable {table changed : Key → Option (Lease Owner Time)} {grants : Grants Key Owner Time}
  {now : Time} {key : Key} {owner : Owner}

section

variable (backed : Backed table grants now)

include backed

theorem Backed.exclusive : Exclusive grants now := by
  rintro key first second ⟨firstEnd, granted, runs⟩ ⟨secondEnd, regranted, lasts⟩
  have one := backed key first firstEnd granted runs
  have two := backed key second secondEnd regranted lasts
  exact congrArg Lease.owner (Option.mem_unique one two)

theorem Backed.later {later : Time} (passed : now ≤ later) : Backed table grants later :=
  fun key owner expiresAt granted runs =>
    backed key owner expiresAt granted fun expired => runs (expired.later passed)

/-- A stored lease leaves no grant to other owners. -/
theorem Backed.not_valid_of_ne {lease : Lease Owner Time} (got : table key = some lease)
    (ne : owner ≠ lease.owner) : ¬ Valid grants now key owner := by
  rintro ⟨expiresAt, granted, runs⟩
  have same := (backed key owner expiresAt granted runs).symm.trans got
  exact ne (congrArg Lease.owner (Option.some.inj same))

theorem Backed.not_valid_of_none (free : table key = none) (owner : Owner) :
    ¬ Valid grants now key owner := by
  rintro ⟨expiresAt, granted, runs⟩
  have got := backed key owner expiresAt granted runs
  rw [free] at got
  cases got

/-- A table that keeps the leases that are not over. -/
theorem Backed.of_kept (kept : ∀ key lease, table key = some lease → ¬ Expired lease.expiresAt now →
      changed key = some lease) : Backed changed grants now :=
  fun key owner expiresAt granted runs =>
    kept key ⟨owner, expiresAt⟩ (backed key owner expiresAt granted runs) runs

end

variable [DecidableEq Key] [DecidableEq Owner]

/-- Set what an owner is granted for a key. -/
def Grants.record (grants : Grants Key Owner Time) (key : Key) (owner : Owner)
    (granted : Option (Option Time)) : Grants Key Owner Time :=
  Function.update grants key (Function.update (grants key) owner granted)

omit [LinearOrder Time] in
theorem record_eq_some {key other : Key} {owner holder : Owner} {granted : Option (Option Time)}
    (noted : grants.record key owner granted other holder = some expiresAt) :
    (other = key ∧ holder = owner ∧ granted = some expiresAt) ∨
      ((other ≠ key ∨ holder ≠ owner) ∧ grants other holder = some expiresAt) := by
  unfold Grants.record at noted
  by_cases same : other = key
  · subst same
    rw [update_self] at noted
    by_cases own : holder = owner
    · subst own
      rw [update_self] at noted
      exact .inl ⟨rfl, rfl, noted⟩
    · rw [update_of_ne own] at noted
      exact .inr ⟨.inr own, noted⟩
  · rw [update_of_ne same] at noted
    exact .inr ⟨.inl same, noted⟩

/-- A lease that is written for a key without another owner is granted. -/
theorem Backed.grant (backed : Backed table grants now)
    (others : ∀ other, other ≠ owner → ¬ Valid grants now key other)
    (wrote : changed key = some ⟨owner, expiresAt⟩)
    (elsewhere : ∀ other, other ≠ key → changed other = table other) :
    Backed changed (grants.record key owner (some expiresAt)) now := by
  intro other holder granted noted runs
  rcases record_eq_some noted with ⟨rfl, rfl, same⟩ | ⟨ne, kept⟩
  · rw [wrote, Option.some.inj same]
  · by_cases same : other = key
    · subst same
      have foreign : holder ≠ owner := ne.resolve_left (not_not_intro rfl)
      exact absurd ⟨granted, kept, runs⟩ (others holder foreign)
    · rw [elsewhere other same]
      exact backed other holder granted kept runs

/-- A lease that its owner gives back is granted no longer. -/
theorem Backed.giveBack (backed : Backed table grants now)
    (others : ∀ other, other ≠ owner → ¬ Valid grants now key other)
    (elsewhere : ∀ other, other ≠ key → changed other = table other) :
    Backed changed (grants.record key owner none) now := by
  intro other holder granted noted runs
  rcases record_eq_some noted with ⟨-, -, absurdity⟩ | ⟨ne, kept⟩
  · cases absurdity
  · by_cases same : other = key
    · subst same
      have foreign : holder ≠ owner := ne.resolve_left (not_not_intro rfl)
      exact absurd ⟨granted, kept, runs⟩ (others holder foreign)
    · rw [elsewhere other same]
      exact backed other holder granted kept runs

end Leases
