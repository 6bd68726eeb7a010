import Mathlib.Algebra.Order.Ring.Int
import SorobanPlayground.Library.Leases
import SorobanPlayground.Library.OrderedMap

/-! # The lock store in memory

Every function reads the clock when it tests an expiry and, where it writes one, a second time.
-/

namespace SorobanPlayground.Backend.OracleLocks

open Leases

/-- The owner and the expiry of every locked key. -/
abbrev MemoryBackend (Owner : Type) := OrderedMap String (Lease Owner Int)

/-- A TTL that is not positive never ends. -/
def expiry (now ttlMs : Int) : Option Int := if 0 < ttlMs then some (now + ttlMs) else none

namespace MemoryBackend

variable {Owner : Type} (store : MemoryBackend Owner) (key : String)

/-- Delete an entry that has expired. -/
def gc (now : Int) : MemoryBackend Owner :=
  match store.get key with
  | some entry => if Expired entry.expiresAt now then store.remove key else store
  | none => store

variable (owner : Owner)

def tryAcquire (ttlMs now later : Int) : Bool × MemoryBackend Owner :=
  match (store.gc key now).get key with
  | some _ => (false, store.gc key now)
  | none => (true, (store.gc key now).set key ⟨owner, expiry later ttlMs⟩)

variable [DecidableEq Owner]

def release (now : Int) : Bool × MemoryBackend Owner :=
  match store.get key with
  | none => (false, store)
  | some entry =>
      if Expired entry.expiresAt now then (false, store.remove key)
      else if entry.owner ≠ owner then (false, store)
      else (true, store.remove key)

def extend (ttlMs now later : Int) : Bool × MemoryBackend Owner :=
  match store.get key with
  | none => (false, store)
  | some entry =>
      if Expired entry.expiresAt now then (false, store.remove key)
      else if entry.owner ≠ owner then (false, store)
      else (true, store.set key { entry with expiresAt := expiry later ttlMs })

omit [DecidableEq Owner] in
def inspect (now : Int) : Option (Lease Owner Int) × MemoryBackend Owner :=
  match store.get key with
  | none => (none, store)
  | some entry =>
      if Expired entry.expiresAt now then (none, store.remove key) else (some entry, store)

/-- A store keeps every entry that has not expired. -/
def Keeps (now : Int) (next : MemoryBackend Owner) : Prop :=
  ∀ other entry, store.get other = some entry → ¬ Expired entry.expiresAt now →
    next.get other = some entry

variable {store key owner} {next : MemoryBackend Owner} {now later ttlMs : Int}

omit [DecidableEq Owner]

theorem Keeps.refl (store : MemoryBackend Owner) (now : Int) : store.Keeps now store :=
  fun _ _ got _ => got

variable {entry : Lease Owner Int}

theorem keeps_remove (got : store.get key = some entry)
    (expired : Expired entry.expiresAt now) : store.Keeps now (store.remove key) := by
  intro other found here runs
  by_cases same : other = key
  · subst same
    cases got.symm.trans here
    exact absurd expired runs
  · exact (OrderedMap.get_remove_of_ne store same).trans here

theorem gc_keeps : store.Keeps now (store.gc key now) := by
  unfold gc
  split
  · next entry got =>
    split
    · next expired => exact keeps_remove got expired
    · exact Keeps.refl store now
  · exact Keeps.refl store now

theorem gc_get_of_ne {other : String} (ne : other ≠ key) :
    (store.gc key now).get other = store.get other := by
  unfold gc
  split
  · split
    · exact OrderedMap.get_remove_of_ne store ne
    · rfl
  · rfl

theorem gc_free (free : (store.gc key now).get key = none)
    (got : store.get key = some entry) : Expired entry.expiresAt now := by
  unfold gc at free
  rw [got] at free
  dsimp only at free
  split at free
  · assumption
  · rw [got] at free
    cases free

theorem tryAcquire_cases {acquired : Bool}
    (tried : store.tryAcquire key owner ttlMs now later = (acquired, next)) :
    (acquired = false ∧ store.Keeps now next) ∨
      (acquired = true ∧ (∀ entry, store.get key = some entry → Expired entry.expiresAt now) ∧
        next.get key = some ⟨owner, expiry later ttlMs⟩ ∧
        ∀ other, other ≠ key → next.get other = store.get other) := by
  unfold tryAcquire at tried
  split at tried
  · cases tried
    exact .inl ⟨rfl, gc_keeps⟩
  · next free =>
    cases tried
    refine .inr ⟨rfl, fun entry got => gc_free free got, ?_, fun other ne => ?_⟩
    · exact OrderedMap.get_set_self _ key _
    · exact (OrderedMap.get_set_of_ne _ _ ne).trans (gc_get_of_ne ne)

variable [DecidableEq Owner]

theorem release_cases {ok : Bool} (released : store.release key owner now = (ok, next)) :
    (ok = false ∧ store.Keeps now next) ∨
      (ok = true ∧ (∃ entry, store.get key = some entry ∧ entry.owner = owner) ∧
        ∀ other, other ≠ key → next.get other = store.get other) := by
  unfold release at released
  split at released
  · cases released
    exact .inl ⟨rfl, Keeps.refl store now⟩
  · next entry got =>
    split_ifs at released with expired foreign
    · cases released
      exact .inl ⟨rfl, keeps_remove got expired⟩
    · cases released
      exact .inl ⟨rfl, Keeps.refl store now⟩
    · cases released
      exact .inr ⟨rfl, ⟨entry, got, not_not.mp foreign⟩, fun other ne =>
        OrderedMap.get_remove_of_ne store ne⟩

theorem extend_cases {ok : Bool} (extended : store.extend key owner ttlMs now later = (ok, next)) :
    (ok = false ∧ store.Keeps now next) ∨
      (ok = true ∧ (∃ entry, store.get key = some entry ∧ entry.owner = owner) ∧
        next.get key = some ⟨owner, expiry later ttlMs⟩ ∧
        ∀ other, other ≠ key → next.get other = store.get other) := by
  unfold extend at extended
  split at extended
  · cases extended
    exact .inl ⟨rfl, Keeps.refl store now⟩
  · next entry got =>
    split_ifs at extended with expired foreign
    · cases extended
      exact .inl ⟨rfl, keeps_remove got expired⟩
    · cases extended
      exact .inl ⟨rfl, Keeps.refl store now⟩
    · cases extended
      refine .inr ⟨rfl, ⟨entry, got, not_not.mp foreign⟩, ?_, fun other ne =>
        OrderedMap.get_set_of_ne store _ ne⟩
      rw [OrderedMap.get_set_self, not_not.mp foreign]

omit [DecidableEq Owner] in
theorem inspect_keeps {found : Option (Lease Owner Int)}
    (inspected : store.inspect key now = (found, next)) : store.Keeps now next := by
  unfold inspect at inspected
  split at inspected
  · cases inspected
    exact Keeps.refl store now
  · next entry got =>
    split at inspected
    · next expired =>
      cases inspected
      exact keeps_remove got expired
    · cases inspected
      exact Keeps.refl store now

end MemoryBackend

end SorobanPlayground.Backend.OracleLocks
