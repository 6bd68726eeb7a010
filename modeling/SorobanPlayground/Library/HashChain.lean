import Mathlib.Data.List.Infix
import Mathlib.Data.List.Nodup

/-! # Hash chains

A link names the digest of the link before it and carries a digest of that name and of its data.
Links of one chain that verify are consecutive in it, as long as its digests do not collide.
-/

namespace HashChain

open List

structure Link (Digest Data : Type*) where
  prev : Digest
  data : Data
  digest : Digest

variable {Digest Data : Type*} (hash : Digest → Data → Digest)

/-- Each link has its digest and names the digest of the link before it; the first one names
`start`. -/
def Verifies : Digest → List (Link Digest Data) → Prop
  | _, [] => True
  | start, link :: links =>
      link.prev = start ∧ link.digest = hash link.prev link.data ∧ Verifies link.digest links

/-- The links verify from the digest that the first of them names. -/
def Consistent : List (Link Digest Data) → Prop
  | [] => True
  | link :: links => Verifies hash link.prev (link :: links)

/-- The digest that the next link has to name. -/
def head (start : Digest) (links : List (Link Digest Data)) : Digest :=
  links.foldl (fun _ link => link.digest) start

/-- No two of the links have one digest for different contents, and none has the first digest. -/
structure CollisionFree (start : Digest) (links : List (Link Digest Data)) : Prop where
  distinct : ∀ first ∈ links, ∀ second ∈ links,
    hash first.prev first.data = hash second.prev second.data → first.prev = second.prev
  start : ∀ link ∈ links, hash link.prev link.data ≠ start

variable {hash} {start : Digest} {log links : List (Link Digest Data)}

theorem head_append (start : Digest) (links : List (Link Digest Data))
    (link : Link Digest Data) : head start (links ++ [link]) = link.digest :=
  foldl_concat _ _ _ _

theorem verifies_append {first second : List (Link Digest Data)} :
    Verifies hash start (first ++ second) ↔
      Verifies hash start first ∧ Verifies hash (head start first) second := by
  induction first generalizing start with
  | nil => exact (and_iff_right trivial).symm
  | cons _ _ ih =>
    refine (and_congr_right fun _ => and_congr_right fun _ => ih).trans ?_
    rw [← and_assoc, ← and_assoc]
    exact and_congr_left fun _ => and_assoc

variable {link : Link Digest Data}

/-- The chain grows by a link that names its head. -/
theorem Verifies.concat (verifies : Verifies hash start links) (prev : link.prev = head start links)
    (digest : link.digest = hash link.prev link.data) : Verifies hash start (links ++ [link]) :=
  verifies_append.mpr ⟨verifies, prev, digest, trivial⟩

theorem Verifies.digest_eq (verifies : Verifies hash start links) (mem : link ∈ links) :
    link.digest = hash link.prev link.data := by
  obtain ⟨_, _, rfl⟩ := append_of_mem mem
  exact (verifies_append.mp verifies).2.2.1

variable {first second : Link Digest Data}

/-- A link names the digest of the one before it. -/
theorem Verifies.linked (before : List (Link Digest Data)) {after : List (Link Digest Data)}
    (verifies : Verifies hash start (before ++ first :: second :: after)) :
    second.prev = first.digest :=
  (verifies_append.mp verifies).2.2.2.1

theorem Consistent.digest_eq (consistent : Consistent hash links) (mem : link ∈ links) :
    link.digest = hash link.prev link.data := by
  cases links with
  | nil => cases mem
  | cons => exact Verifies.digest_eq consistent mem

variable {before after : List (Link Digest Data)}

theorem Consistent.linked (consistent : Consistent hash (before ++ first :: second :: after)) :
    second.prev = first.digest := by
  cases before with
  | nil => exact Verifies.linked [] consistent
  | cons link before => exact Verifies.linked (link :: before) consistent

/-- A part of a chain verifies. -/
theorem Verifies.consistent
    (verifies : Verifies hash start (before ++ links ++ after)) : Consistent hash links := by
  have part := (verifies_append.mp (verifies_append.mp verifies).1).2
  cases links with
  | nil => trivial
  | cons link =>
    have named : link.prev = head start before := part.1
    rw [← named] at part
    exact part

section

variable (verifies : Verifies hash start log)

include verifies

theorem Verifies.prev_zero (some : 0 < log.length) : log[0].prev = start := by
  cases log with
  | nil => cases some
  | cons => exact verifies.1

theorem Verifies.prev_succ {index : Nat} (bound : index + 1 < log.length) :
    log[index + 1].prev = log[index].digest := by
  induction log generalizing start index with
  | nil => cases bound
  | cons _ _ ih =>
    cases index with
    | zero => exact verifies.2.2.prev_zero (Nat.lt_of_succ_lt_succ bound)
    | succ => exact ih verifies.2.2 (Nat.lt_of_succ_lt_succ bound)

variable (free : CollisionFree hash start log)
include free

/-- The links of a chain have different digests. -/
theorem Verifies.nodup : (log.map Link.digest).Nodup := by
  refine pairwise_map.mpr (pairwise_iff_getElem.mpr ?_)
  intro first second firstBound secondBound before same
  have digest : ∀ index (bound : index < log.length),
      log[index].digest = hash log[index].prev log[index].data :=
    fun index bound => verifies.digest_eq (getElem_mem bound)
  -- Two equal digests belong to links that name equal digests, down to the first link.
  induction first generalizing second with
  | zero =>
    cases second with
    | zero => cases before
    | succ second =>
      rw [digest 0 firstBound, digest (second + 1) secondBound] at same
      have named := free.distinct _ (getElem_mem _) _ (getElem_mem _) same
      rw [verifies.prev_zero, verifies.prev_succ, digest] at named
      exact free.start _ (getElem_mem _) named.symm
  | succ first ih =>
    cases second with
    | zero => cases before
    | succ second =>
      rw [digest (first + 1) firstBound, digest (second + 1) secondBound] at same
      have named := free.distinct _ (getElem_mem _) _ (getElem_mem _) same
      rw [verifies.prev_succ, verifies.prev_succ] at named
      exact ih second _ _ (Nat.lt_of_succ_lt_succ before) named

theorem Verifies.eq_of_digest (one : first ∈ log)
    (two : second ∈ log) (same : first.digest = second.digest) : first = second :=
  inj_on_of_nodup_map (verifies.nodup free) one two same

/-- Links of a chain verify exactly when they are consecutive in it. -/
theorem Verifies.consistent_iff
    (drawn : ∀ link ∈ links, link ∈ log) : Consistent hash links ↔ links <:+: log := by
  constructor
  · intro consistent
    induction links with
    | nil => exact nil_infix
    | cons link links ih =>
      have mem := drawn link (mem_cons_self ..)
      cases links with
      | nil =>
        obtain ⟨before, after, split⟩ := append_of_mem mem
        exact ⟨before, after, by rw [split, append_assoc]; rfl⟩
      | cons second links =>
        have named : second.prev = link.digest := consistent.2.2.1
        have rest : Consistent hash (second :: links) := by
          have verified := consistent.2.2
          rw [← named] at verified
          exact verified
        obtain ⟨before, after, split⟩ :=
          ih (fun other mem => drawn other (mem_cons_of_mem link mem)) rest
        -- The link before `second` in the chain has the digest of `link`.
        rcases eq_nil_or_concat before with rfl | ⟨before, last, rfl⟩
        · rw [← split] at verifies
          have first : second.prev = start := verifies.1
          refine absurd ?_ (free.start link mem)
          rw [← consistent.2.1, ← named, first]
        · have chain : log = before ++ last :: second :: (links ++ after) := by
            rw [← split]
            simp
          have linked : second.prev = last.digest := Verifies.linked before (chain ▸ verifies)
          have same : last = link := by
            refine verifies.eq_of_digest free ?_ mem (linked.symm.trans named)
            rw [chain]
            exact mem_append_right before (mem_cons_self ..)
          refine ⟨before, after, ?_⟩
          rw [chain, same]
          simp
  · rintro ⟨_, _, split⟩
    rw [← split] at verifies
    exact verifies.consistent

/-- A chain without one of its inner links does not verify. -/
theorem Verifies.gap {before after left right : List (Link Digest Data)}
    {first middle last : Link Digest Data}
    (split : log = before ++ first :: middle :: last :: after)
    (gap : links = left ++ first :: last :: right) : ¬ Consistent hash links := by
  intro consistent
  rw [gap] at consistent
  rw [split] at verifies free
  have named : last.prev = first.digest := consistent.linked
  have inner : log = (before ++ [first]) ++ middle :: last :: after := by
    rw [split]
    simp
  have chained : last.prev = middle.digest := by
    rw [← split, inner] at verifies
    exact Verifies.linked (before ++ [first]) verifies
  have distinct := verifies.nodup free
  rw [map_append, map_cons, map_cons] at distinct
  have apart := (nodup_cons.mp (nodup_append.mp distinct).2.1).1
  exact apart (mem_cons.mpr (.inl (named.symm.trans chained)))

end

end HashChain
