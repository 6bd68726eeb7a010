import Mathlib.Logic.Relation

/-! # Delegation chains

Each account may name another one to which it delegates, and a chain follows the
names. A chain may end, or run into a cycle; resolving it takes a bounded number
of hops and stops at an account that names nobody or itself.

An account that a chain reaches leads back to the start of the chain exactly
when the start lies on a cycle (`Delegation.leads_back_iff`).
-/

namespace Delegation

variable {α : Type*} (delegate : α → Option α)

def Hop (source target : α) : Prop := delegate source = some target

/-- A chain of one or more hops. -/
def Leads : α → α → Prop := Relation.TransGen (Hop delegate)

/-- A chain of any number of hops. -/
def Reaches : α → α → Prop := Relation.ReflTransGen (Hop delegate)

/-- Follow a chain for at most a number of hops. -/
def resolve [DecidableEq α] : Nat → α → α
  | 0, account => account
  | hops + 1, account =>
      match delegate account with
      | some target => if target ≠ account then resolve hops target else account
      | none => account

variable {delegate}

theorem Hop.unique {source first second : α} (left : Hop delegate source first)
    (right : Hop delegate source second) : first = second :=
  Option.mem_unique left right

/-- Following a chain leads along it. -/
theorem reaches_resolve [DecidableEq α] (hops : Nat) (account : α) :
    Reaches delegate account (resolve delegate hops account) := by
  induction hops generalizing account with
  | zero => exact .refl
  | succ _ ih =>
    unfold resolve
    split
    · next target named =>
      split
      · exact .head named (ih target)
      · exact .refl
    · exact .refl

theorem resolve_of_none [DecidableEq α] {account : α} (ends : delegate account = none)
    (hops : Nat) : resolve delegate hops account = account := by
  cases hops with
  | zero => rfl
  | succ => rw [resolve, ends]

/-- An account that delegates leads to where its chain resolves, if any hop is
allowed. -/
theorem leads_resolve [DecidableEq α] {account target : α} (named : delegate account = some target)
    (hops : Nat) : Leads delegate account (resolve delegate (hops + 1) account) := by
  rw [resolve, named]
  show Leads delegate account (if target ≠ account then resolve delegate hops target else account)
  split
  · exact Relation.TransGen.head' named (reaches_resolve hops target)
  · next same =>
    have self : target = account := Classical.not_not.mp same
    exact .single (self ▸ named)

/-- A chain either ends with its first hop or goes on from there. -/
theorem Leads.cases_hop {source target last : α} (leads : Leads delegate source last)
    (named : delegate source = some target) : target = last ∨ Leads delegate target last := by
  obtain ⟨_, first, rest⟩ := Relation.TransGen.head'_iff.mp leads
  obtain rfl := Hop.unique named first
  exact (Relation.reflTransGen_iff_eq_or_transGen.mp rest).imp Eq.symm id

/-- No chain starts at an account that names nobody. -/
theorem not_leads_of_none {source last : α} (ends : delegate source = none) :
    ¬ Leads delegate source last := by
  intro leads
  obtain ⟨_, first, -⟩ := Relation.TransGen.head'_iff.mp leads
  cases ends.symm.trans first

/-- Every account on the way from an account on a cycle leads back to it. -/
theorem reaches_back {account reached : α} (cycle : Leads delegate account account)
    (chain : Reaches delegate account reached) : Reaches delegate reached account := by
  induction chain with
  | refl => exact .refl
  | @tail middle last _ hop ih =>
    have onward : Leads delegate middle account := by
      rcases Relation.ReflTransGen.cases_head ih with same | ⟨after, first, rest⟩
      · exact same ▸ cycle
      · exact Relation.TransGen.head' first rest
    obtain ⟨_, first, rest⟩ := Relation.TransGen.head'_iff.mp onward
    obtain rfl := Hop.unique first hop
    exact rest

/-- Where a chain of at least one hop ends leads back to its start exactly when
the start lies on a cycle. -/
theorem leads_back_iff {account reached : α} (chain : Leads delegate account reached) :
    (reached = account ∨ Leads delegate reached account) ↔ Leads delegate account account := by
  constructor
  · rintro (rfl | back)
    · exact chain
    · exact chain.trans back
  · intro cycle
    rcases Relation.reflTransGen_iff_eq_or_transGen.mp (reaches_back cycle chain.to_reflTransGen)
      with same | back
    · exact .inl same.symm
    · exact .inr back

end Delegation
