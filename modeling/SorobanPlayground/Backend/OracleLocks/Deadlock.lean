import SorobanPlayground.Library.OrderedMap

/-! # The wait-for graph

Every edge leads from an owner that waits for a key to the owner that holds it.
-/

namespace SorobanPlayground.Backend.OracleLocks

open List

structure DeadlockDetector (Owner : Type) where
  /-- The owners that an owner waits for. -/
  waitsFor : OrderedMap Owner (OrderedSet Owner) := ∅
  /-- The owner that holds a key. -/
  holders : OrderedMap String Owner := ∅

namespace DeadlockDetector

variable {Owner : Type} [DecidableEq Owner] (detector : DeadlockDetector Owner)

omit [DecidableEq Owner] in
def registerHold (key : String) (owner : Owner) : DeadlockDetector Owner :=
  { detector with holders := detector.holders.set key owner }

def releaseHold (key : String) (owner : Owner) : DeadlockDetector Owner :=
  if detector.holders.get key = some owner then
    { detector with holders := detector.holders.remove key }
  else detector

/-- The owners with waits that a search has not visited. -/
def unvisited (visited : List Owner) : List Owner :=
  detector.waitsFor.keys.filter fun owner => owner ∉ visited

variable {detector} in
theorem unvisited_length_lt {visited : List Owner} {node : Owner} {next : OrderedSet Owner}
    (fresh : node ∉ visited) (waits : detector.waitsFor.get node = some next) :
    (detector.unvisited (node :: visited)).length < (detector.unvisited visited).length := by
  have here : node ∈ detector.unvisited visited := by
    rw [unvisited, mem_filter]
    exact ⟨OrderedMap.mem_keys.mpr ⟨next, waits⟩, decide_eq_true fresh⟩
  have fewer : detector.unvisited (node :: visited) =
      (detector.unvisited visited).filter fun owner => owner ≠ node := by
    rw [unvisited, unvisited, filter_filter]
    simp
  rw [fewer]
  exact length_filter_lt_length_iff_exists.mpr ⟨node, here, by simp⟩

theorem unvisited_length_le (visited : List Owner) (node : Owner) :
    (detector.unvisited (node :: visited)).length ≤ (detector.unvisited visited).length := by
  refine List.Sublist.length_le (monotone_filter_right _ fun owner fresh => ?_)
  simp only [mem_cons, not_or, decide_eq_true_eq] at fresh ⊢
  exact fresh.2

/-- The search from the nodes of a stack, whose last pushed node is its head. -/
def search (goal : Owner) (visited : List Owner) : List Owner → Bool
  | [] => false
  | node :: stack =>
      if node = goal then true
      else if _ : node ∈ visited then search goal visited stack
      else match _ : detector.waitsFor.get node with
        | none => search goal (node :: visited) stack
        | some next => search goal (node :: visited) (next.keys.reverse ++ stack)
termination_by stack => ((detector.unvisited visited).length, stack.length)
decreasing_by
  · exact Prod.Lex.right _ (Nat.lt_succ_self _)
  · rcases Nat.lt_or_eq_of_le (detector.unvisited_length_le visited node) with fewer | same
    · exact Prod.Lex.left _ _ fewer
    · rw [same]
      exact Prod.Lex.right _ (Nat.lt_succ_self _)
  · exact Prod.Lex.left _ _ (unvisited_length_lt ‹_› ‹_›)

/-- Whether an owner is reachable from another one along the waits. -/
def reachable (source goal : Owner) : Bool := detector.search goal [] [source]

/-- One owner waits for another one. -/
def Waits (waiter target : Owner) : Prop :=
  ∃ targets, detector.waitsFor.get waiter = some targets ∧ target ∈ targets.keys

variable {detector}

variable {visited stack : List Owner}

theorem search_sound {goal : Owner} (found : detector.search goal visited stack = true) :
    ∃ source ∈ stack, Relation.ReflTransGen detector.Waits source goal := by
  induction visited, stack using search.induct detector goal with
  | case1 =>
    rw [search] at found
    cases found
  | case2 => exact ⟨goal, mem_cons_self, .refl⟩
  | case3 _ node _ ne seen ih =>
    rw [search, if_neg ne, dif_pos seen] at found
    obtain ⟨source, mem, path⟩ := ih found
    exact ⟨source, mem_cons_of_mem node mem, path⟩
  | case4 _ node _ ne fresh idle ih =>
    rw [search, if_neg ne, dif_neg fresh] at found
    split at found
    · obtain ⟨source, mem, path⟩ := ih found
      exact ⟨source, mem_cons_of_mem node mem, path⟩
    · next next waits =>
      rw [idle] at waits
      cases waits
  | case5 _ node _ ne fresh next waits ih =>
    rw [search, if_neg ne, dif_neg fresh] at found
    split at found
    · next idle =>
      rw [idle] at waits
      cases waits
    · next other same =>
      cases waits.symm.trans same
      obtain ⟨source, mem, path⟩ := ih found
      rcases mem_append.mp mem with pushed | kept
      · exact ⟨node, mem_cons_self, .head ⟨next, waits, mem_reverse.mp pushed⟩ path⟩
      · exact ⟨source, mem_cons_of_mem node kept, path⟩

theorem search_complete {goal : Owner} (missed : detector.search goal visited stack = false)
    (explored : ∀ node ∈ visited, node ≠ goal ∧ ∀ target, detector.Waits node target →
      target ∈ visited ∨ target ∈ stack) :
    ∃ closed : Owner → Prop, (∀ node ∈ stack, closed node) ∧ (∀ node ∈ visited, closed node) ∧
      ¬ closed goal ∧ ∀ node target, closed node → detector.Waits node target → closed target := by
  induction visited, stack using search.induct detector goal with
  | case1 visited =>
    refine ⟨(· ∈ visited), nofun, fun _ => id, fun mem => (explored goal mem).1 rfl, ?_⟩
    intro node target mem waits
    exact ((explored node mem).2 target waits).resolve_right nofun
  | case2 =>
    rw [search, if_pos rfl] at missed
    cases missed
  | case3 _ _ _ ne seen ih =>
    rw [search, if_neg ne, dif_pos seen] at missed
    obtain ⟨closed, stacked, kept, outside, closing⟩ := ih missed fun other mem => by
      refine ⟨(explored other mem).1, fun target waits => ?_⟩
      rcases (explored other mem).2 target waits with old | new
      · exact .inl old
      · rcases mem_cons.mp new with rfl | later
        · exact .inl seen
        · exact .inr later
    refine ⟨closed, fun other mem => ?_, kept, outside, closing⟩
    rcases mem_cons.mp mem with rfl | later
    · exact kept other seen
    · exact stacked other later
  | case4 _ node _ ne fresh idle ih =>
    rw [search, if_neg ne, dif_neg fresh] at missed
    split at missed
    · obtain ⟨closed, stacked, kept, outside, closing⟩ := ih missed fun other mem => by
        rcases mem_cons.mp mem with rfl | old
        · refine ⟨ne, fun target ⟨next, waits, _⟩ => ?_⟩
          rw [idle] at waits
          cases waits
        · refine ⟨(explored other old).1, fun target waits => ?_⟩
          rcases (explored other old).2 target waits with before | new
          · exact .inl (mem_cons_of_mem node before)
          · rcases mem_cons.mp new with rfl | later
            · exact .inl mem_cons_self
            · exact .inr later
      refine ⟨closed, fun other mem => ?_, fun other mem =>
        kept other (mem_cons_of_mem node mem), outside, closing⟩
      rcases mem_cons.mp mem with rfl | later
      · exact kept other mem_cons_self
      · exact stacked other later
    · next next waits =>
      rw [idle] at waits
      cases waits
  | case5 _ node _ ne fresh next waits ih =>
    rw [search, if_neg ne, dif_neg fresh] at missed
    split at missed
    · next idle =>
      rw [idle] at waits
      cases waits
    · next other same =>
      cases waits.symm.trans same
      obtain ⟨closed, stacked, kept, outside, closing⟩ := ih missed fun other mem => by
        rcases mem_cons.mp mem with rfl | old
        · refine ⟨ne, fun target ⟨targets, got, mem⟩ => .inr ?_⟩
          cases waits.symm.trans got
          exact mem_append_left _ (mem_reverse.mpr mem)
        · refine ⟨(explored other old).1, fun target step => ?_⟩
          rcases (explored other old).2 target step with before | new
          · exact .inl (mem_cons_of_mem node before)
          · rcases mem_cons.mp new with rfl | later
            · exact .inl mem_cons_self
            · exact .inr (mem_append_right _ later)
      refine ⟨closed, fun other mem => ?_, fun other mem =>
        kept other (mem_cons_of_mem node mem), outside, closing⟩
      rcases mem_cons.mp mem with rfl | later
      · exact kept other mem_cons_self
      · exact stacked other (mem_append_right _ later)

theorem reachable_iff {source goal : Owner} :
    detector.reachable source goal = true ↔ Relation.ReflTransGen detector.Waits source goal := by
  constructor
  · intro found
    obtain ⟨_, mem, path⟩ := search_sound found
    rwa [mem_singleton.mp mem] at path
  · intro path
    by_contra missed
    obtain ⟨closed, stacked, -, outside, closing⟩ :=
      search_complete (Bool.eq_false_of_not_eq_true missed) nofun
    have inside : ∀ node, Relation.ReflTransGen detector.Waits source node → closed node := by
      intro node led
      induction led with
      | refl => exact stacked source mem_cons_self
      | tail _ waits ih => exact closing _ _ ih waits
    exact outside (inside goal path)

variable (detector)

structure WaitCheck (Owner : Type) where
  deadlock : Bool
  detector : DeadlockDetector Owner

/-- A wait that would close a cycle is not recorded. -/
def declareWait (waiter : Owner) (key : String) : WaitCheck Owner :=
  match detector.holders.get key with
  | none => ⟨false, detector⟩
  | some target =>
      if target = waiter then ⟨false, detector⟩
      else if detector.reachable target waiter = true then ⟨true, detector⟩
      else
        let targets := (detector.waitsFor.get waiter).getD ∅
        ⟨false, { detector with waitsFor := detector.waitsFor.set waiter (targets.add target) }⟩

/-- Write the waits of an owner, or none where the set is empty. -/
def setWaits (waiter : Owner) (targets : OrderedSet Owner) : DeadlockDetector Owner :=
  if targets.keys = [] then { detector with waitsFor := detector.waitsFor.remove waiter }
  else { detector with waitsFor := detector.waitsFor.set waiter targets }

def clearWait (waiter : Owner) (key : String) : DeadlockDetector Owner :=
  match detector.holders.get key with
  | none => { detector with waitsFor := detector.waitsFor.remove waiter }
  | some target =>
      match detector.waitsFor.get waiter with
      | none => detector
      | some targets => detector.setWaits waiter (targets.remove target)

/-- Remove the waits of an owner, its keys and the waits for it. -/
def forgetOwner (owner : Owner) : DeadlockDetector Owner :=
  let holders := detector.holders.filter fun entry => entry.2 ≠ owner
  let waiting := (detector.waitsFor.remove owner).keys
  waiting.foldl
    (fun detector waiter =>
      detector.setWaits waiter (((detector.waitsFor.get waiter).getD ∅).remove owner))
    { waitsFor := detector.waitsFor.remove owner, holders }

variable {detector} {waiter : Owner} {key : String}

theorem declareWait_deadlock :
    (detector.declareWait waiter key).deadlock = true ↔
      ∃ target, detector.holders.get key = some target ∧ target ≠ waiter ∧
        Relation.ReflTransGen detector.Waits target waiter := by
  unfold declareWait
  split
  · next free => exact iff_of_false (by simp) (by simp [free])
  · next holder held =>
    split_ifs with own path
    · refine iff_of_false (by simp) ?_
      rintro ⟨target, got, ne, -⟩
      cases held.symm.trans got
      exact ne own
    · exact iff_of_true rfl ⟨holder, held, own, reachable_iff.mp path⟩
    · refine iff_of_false (by simp) ?_
      rintro ⟨_, got, -, led⟩
      cases held.symm.trans got
      exact path (reachable_iff.mpr led)

end DeadlockDetector

end SorobanPlayground.Backend.OracleLocks
