import Mathlib.Algebra.Group.Nat.Defs
import Mathlib.Data.List.MinMax
import SorobanPlayground.Library.CallMachine

/-! # Ledgers

Ingested ledgers are stored by sequence and linked by the hashes of their parents. A ledger right
above the tip with another parent rolls the stored ledgers back.
-/

namespace SorobanPlayground.Indexer.Ledgers

open List

structure Ledger where
  sequence : Nat
  ledgerHash : String
  parentLedgerHash : String
  deriving DecidableEq, Repr

/-- A row of `events`. -/
structure EventRow where
  id : String
  ledger : Nat
  deriving DecidableEq, Repr

inductive LedgerInsert where
  | inserted
  | duplicate
  | reorg (forkSequence : Nat)
  deriving DecidableEq, Repr

structure Database where
  ledgers : List Ledger := []
  events : List EventRow := []
  deriving DecidableEq, Repr

namespace Database

variable (database : Database)

/-- The insert fails when the id is taken. -/
def saveEvent (event : EventRow) : Option Database :=
  if ∃ stored ∈ database.events, stored.id = event.id then none
  else some { database with events := database.events ++ [event] }

def getLedgerTip : Option Ledger := database.ledgers.argmax Ledger.sequence

def findForkSequence (parentHash : String) : Nat :=
  ((database.ledgers.find? fun row => row.ledgerHash = parentHash).map Ledger.sequence).getD 0

/-- `ON CONFLICT (sequence) DO NOTHING`. -/
def insertLedger (ledger : Ledger) : Database :=
  if ∃ row ∈ database.ledgers, row.sequence = ledger.sequence then database
  else { database with ledgers := database.ledgers ++ [ledger] }

/-- A ledger right above the tip that names another parent. -/
def Forks (ledger : Ledger) : Prop :=
  ∃ tip ∈ database.getLedgerTip, tip.sequence + 1 = ledger.sequence ∧ tip.ledgerHash ≠ "" ∧
    ledger.parentLedgerHash ≠ "" ∧ tip.ledgerHash ≠ ledger.parentLedgerHash

def saveLedger (ledger : Ledger) : Database × LedgerInsert :=
  match database.getLedgerTip with
  | none => (database.insertLedger ledger, .inserted)
  | some tip =>
      if ledger.sequence ≤ tip.sequence then (database, .duplicate)
      else if tip.sequence + 1 = ledger.sequence ∧ tip.ledgerHash ≠ "" ∧
          ledger.parentLedgerHash ≠ "" ∧ tip.ledgerHash ≠ ledger.parentLedgerHash then
        (database, .reorg (database.findForkSequence ledger.parentLedgerHash))
      else (database.insertLedger ledger, .inserted)

def rollbackFromLedger (sequence : Nat) : Database where
  ledgers := database.ledgers.filter fun row => row.sequence < sequence
  events := database.events.filter fun event => event.ledger < sequence

/-- `None` says that `tip.sequence + 1` overflows. -/
def saveLedgerBlock (ledger : Ledger) : Option (Database × Bool) :=
  if ∃ tip ∈ database.getLedgerTip, tip.sequence + 1 = 2 ^ 32 then none
  else
    match database.saveLedger ledger with
    | (saved, .inserted) => some (saved, true)
    | (saved, .duplicate) => some (saved, false)
    | (_, .reorg forkSequence) =>
        some (((database.rollbackFromLedger forkSequence).saveLedger ledger).1, true)

end Database

inductive Event where
  | saveEvent (event : EventRow)
  | saveLedgerBlock (ledger : Ledger)
  deriving DecidableEq

def step (database : Database) : Event → Option Database
  | .saveEvent event => database.saveEvent event
  | .saveLedgerBlock ledger => (database.saveLedgerBlock ledger).map Prod.fst

def machine : CallMachine Database Event Unit := CallMachine.ofStep step

/-- Some ledgers lead to a ledger by the hashes of their parents. -/
inductive Ancestor (given : List Ledger) (ancestor : Ledger) : Ledger → Prop
  | parent {ledger : Ledger} (named : ancestor.ledgerHash = ledger.parentLedgerHash) :
      Ancestor given ancestor ledger
  | older {middle ledger : Ledger} (known : middle ∈ given)
      (named : middle.ledgerHash = ledger.parentLedgerHash)
      (before : Ancestor given ancestor middle) : Ancestor given ancestor ledger

/-- The ledgers that were given to `save_ledger_block`. -/
def follow (_ : Database) (event : Event) (_ : Database) (given : List Ledger) : List Ledger :=
  match event with
  | .saveEvent _ => given
  | .saveLedgerBlock ledger => given ++ [ledger]

/-- The database beside the given ledgers. -/
def recording : CallMachine (Database × List Ledger) Event Unit := machine.withGhost follow

/-- Stored ledgers with consecutive sequences are linked. -/
def Linked (database : Database) : Prop :=
  ∀ first ∈ database.ledgers, ∀ second ∈ database.ledgers,
    second.sequence = first.sequence + 1 → second.parentLedgerHash = first.ledgerHash

/-- A call that returns true has stored its ledger. -/
def Stores (database : Database) : Event → Prop
  | .saveEvent _ => True
  | .saveLedgerBlock ledger => ∀ next, database.saveLedgerBlock ledger = some (next, true) →
      ledger ∈ next.ledgers

/-- A call keeps the stored ancestors of its ledger and what is before them. -/
def Keeps (state : Database × List Ledger) : Event → Prop
  | .saveEvent _ => True
  | .saveLedgerBlock ledger => ∀ next returned,
      state.1.saveLedgerBlock ledger = some (next, returned) →
      ∀ ancestor ∈ state.1.ledgers, Ancestor state.2 ancestor ledger →
        (∀ row ∈ state.1.ledgers, row.sequence ≤ ancestor.sequence → row ∈ next.ledgers) ∧
          ∀ event ∈ state.1.events, event.ledger ≤ ancestor.sequence → event ∈ next.events

/-- A ledger that forks has no stored ancestor. -/
def Unrelated (state : Database × List Ledger) : Event → Prop
  | .saveEvent _ => True
  | .saveLedgerBlock ledger => state.1.Forks ledger →
      ∀ ancestor ∈ state.1.ledgers, ¬ Ancestor state.2 ancestor ledger

/-- The hashes of a given ledger are not empty. -/
def Named : Event → Prop
  | .saveEvent _ => True
  | .saveLedgerBlock ledger => ledger.ledgerHash ≠ "" ∧ ledger.parentLedgerHash ≠ ""

variable {database next : Database} {ledger tip : Ledger}

theorem le_tip (found : database.getLedgerTip = some tip) {row : Ledger}
    (mem : row ∈ database.ledgers) : row.sequence ≤ tip.sequence :=
  le_of_mem_argmax mem found

theorem tip_mem (found : database.getLedgerTip = some tip) : tip ∈ database.ledgers :=
  argmax_mem found

theorem insertLedger_eq (above : ∀ row ∈ database.ledgers, row.sequence < ledger.sequence) :
    database.insertLedger ledger =
      { database with ledgers := database.ledgers ++ [ledger] } := by
  refine if_neg ?_
  rintro ⟨row, mem, same⟩
  exact (above row mem).ne same

/-- What `save_ledger` does. -/
inductive Saving (database : Database) (ledger : Ledger) : Database → LedgerInsert → Prop
  | inserted (above : ∀ row ∈ database.ledgers, row.sequence < ledger.sequence)
      (free : ¬ database.Forks ledger) :
      Saving database ledger { database with ledgers := database.ledgers ++ [ledger] } .inserted
  | duplicate (free : ¬ database.Forks ledger) : Saving database ledger database .duplicate
  | reorg (above : ∀ row ∈ database.ledgers, row.sequence < ledger.sequence)
      (forks : database.Forks ledger) :
      Saving database ledger database (.reorg (database.findForkSequence ledger.parentLedgerHash))

theorem saveLedger_saving (database : Database) (ledger : Ledger) :
    Saving database ledger (database.saveLedger ledger).1 (database.saveLedger ledger).2 := by
  unfold Database.saveLedger
  split
  · next gone =>
    have empty : database.ledgers = [] := argmax_eq_none.mp gone
    have above : ∀ row ∈ database.ledgers, row.sequence < ledger.sequence := by
      rw [empty]
      exact nofun
    rw [insertLedger_eq above]
    refine .inserted above ?_
    rintro ⟨tip, found, -⟩
    rw [gone] at found
    cases found
  · next tip found =>
    have own : database.Forks ledger ↔ tip.sequence + 1 = ledger.sequence ∧
        tip.ledgerHash ≠ "" ∧ ledger.parentLedgerHash ≠ "" ∧
          tip.ledgerHash ≠ ledger.parentLedgerHash := by
      constructor
      · rintro ⟨_, same, forks⟩
        cases found.symm.trans same
        exact forks
      · exact fun forks => ⟨tip, found, forks⟩
    split
    · refine .duplicate fun forks => ?_
      have next_sequence := (own.mp forks).1
      omega
    · next new =>
      have above : ∀ row ∈ database.ledgers, row.sequence < ledger.sequence :=
        fun row mem => (le_tip found mem).trans_lt (Nat.lt_of_not_le new)
      split
      · next forks => exact .reorg above (own.mpr forks)
      · next linked =>
        rw [insertLedger_eq above]
        exact .inserted above fun forks => linked (own.mp forks)

theorem saveLedger_of_gap (gap : ∀ row ∈ database.ledgers, row.sequence + 1 < ledger.sequence) :
    database.saveLedger ledger =
      ({ database with ledgers := database.ledgers ++ [ledger] }, .inserted) := by
  have above : ∀ row ∈ database.ledgers, row.sequence < ledger.sequence :=
    fun row mem => (Nat.lt_succ_self _).trans (gap row mem)
  unfold Database.saveLedger
  split
  · rw [insertLedger_eq above]
  · next tip found =>
    have far := gap tip (tip_mem found)
    rw [if_neg (by omega), if_neg fun forks => far.ne forks.1, insertLedger_eq above]

theorem findForkSequence_le (found : database.getLedgerTip = some tip) (hash : String) :
    database.findForkSequence hash ≤ tip.sequence := by
  unfold Database.findForkSequence
  cases search : database.ledgers.find? fun row => row.ledgerHash = hash with
  | none => exact Nat.zero_le _
  | some => exact le_tip found (mem_of_find?_eq_some search)

/-- What `save_ledger_block` does. -/
inductive Effect (database : Database) (ledger : Ledger) : Database → Bool → Prop
  | inserted (above : ∀ row ∈ database.ledgers, row.sequence < ledger.sequence)
      (free : ¬ database.Forks ledger) :
      Effect database ledger { database with ledgers := database.ledgers ++ [ledger] } true
  | duplicate (free : ¬ database.Forks ledger) : Effect database ledger database false
  | reorg (above : ∀ row ∈ database.ledgers, row.sequence < ledger.sequence)
      (forks : database.Forks ledger) (forkSequence : Nat)
      (found : forkSequence = database.findForkSequence ledger.parentLedgerHash)
      (below : forkSequence < ledger.sequence) :
      Effect database ledger
        { ledgers := (database.rollbackFromLedger forkSequence).ledgers ++ [ledger]
          events := (database.rollbackFromLedger forkSequence).events } true

theorem saveLedgerBlock_effect {returned : Bool}
    (saved : database.saveLedgerBlock ledger = some (next, returned)) :
    Effect database ledger next returned := by
  unfold Database.saveLedgerBlock at saved
  split at saved
  · cases saved
  · have saving := saveLedger_saving database ledger
    generalize database.saveLedger ledger = result at saved saving
    obtain ⟨_, _⟩ := result
    dsimp only at saving
    cases saving with
    | inserted above free =>
      cases saved
      exact .inserted above free
    | duplicate free =>
      cases saved
      exact .duplicate free
    | reorg above forks =>
      cases saved
      obtain ⟨_, found, _, -⟩ := id forks
      have below := findForkSequence_le found ledger.parentLedgerHash
      rw [saveLedger_of_gap]
      · exact .reorg above forks _ rfl (by omega)
      · intro row mem
        have kept : row.sequence < _ := of_decide_eq_true (mem_filter.mp mem).2
        omega

/-- Sequences are unique, hashes are not empty and consecutive ledgers are linked. -/
structure Chained (database : Database) : Prop where
  unique : ∀ first ∈ database.ledgers, ∀ second ∈ database.ledgers,
    first.sequence = second.sequence → first = second
  named : ∀ row ∈ database.ledgers, row.ledgerHash ≠ ""
  linked : Linked database

theorem chained_empty : Chained {} := ⟨nofun, nofun, nofun⟩

section

variable (chained : Chained database)
include chained

theorem Chained.rollback (sequence : Nat) : Chained (database.rollbackFromLedger sequence) := by
  have kept : ∀ row ∈ (database.rollbackFromLedger sequence).ledgers, row ∈ database.ledgers :=
    fun row mem => (mem_filter.mp mem).1
  exact ⟨fun first one second two => chained.unique first (kept first one) second (kept second two),
    fun row mem => chained.named row (kept row mem),
    fun first one second two => chained.linked first (kept first one) second (kept second two)⟩

theorem Chained.append {events : List EventRow} (named : ledger.ledgerHash ≠ "")
    (above : ∀ row ∈ database.ledgers, row.sequence < ledger.sequence)
    (linked : ∀ row ∈ database.ledgers, row.sequence + 1 = ledger.sequence →
      ledger.parentLedgerHash = row.ledgerHash) :
    Chained { ledgers := database.ledgers ++ [ledger], events } := by
  have cases : ∀ row ∈ database.ledgers ++ [ledger], row ∈ database.ledgers ∨ row = ledger :=
    fun row mem => (mem_append.mp mem).imp_right mem_singleton.mp
  refine ⟨fun first one second two same => ?_, fun row mem => ?_,
    fun first one second two consecutive => ?_⟩
  · rcases cases first one with old | rfl
    · rcases cases second two with other | rfl
      · exact chained.unique first old second other same
      · exact absurd same (above first old).ne
    · rcases cases second two with other | rfl
      · exact absurd same.symm (above second other).ne
      · rfl
  · rcases cases row mem with got | rfl
    · exact chained.named row got
    · exact named
  · rcases cases first one with old | rfl
    · rcases cases second two with other | rfl
      · exact chained.linked first old second other consecutive
      · exact linked first old consecutive.symm
    · rcases cases second two with other | rfl
      · have below := above second other
        omega
      · omega

theorem linked_of_free (above : ∀ row ∈ database.ledgers, row.sequence < ledger.sequence)
    (named : ledger.parentLedgerHash ≠ "") (free : ¬ database.Forks ledger) :
    ∀ row ∈ database.ledgers, row.sequence + 1 = ledger.sequence →
      ledger.parentLedgerHash = row.ledgerHash := by
  intro row mem consecutive
  by_contra ne
  refine free ⟨row, ?_, consecutive, chained.named row mem, named, Ne.symm ne⟩
  cases found : database.getLedgerTip with
  | none =>
    rw [argmax_eq_none.mp found] at mem
    cases mem
  | some tip =>
    have low := le_tip found mem
    have high := above tip (tip_mem found)
    exact congrArg some (chained.unique tip (tip_mem found) row mem (by omega))

theorem step_chained {event : Event} (named : Named event)
    (stepped : step database event = some next) : Chained next := by
  cases event with
  | saveEvent =>
    unfold step Database.saveEvent at stepped
    dsimp only at stepped
    split at stepped
    · cases stepped
    · cases stepped
      exact ⟨chained.unique, chained.named, chained.linked⟩
  | saveLedgerBlock ledger =>
    obtain ⟨⟨_, _⟩, ran, rfl⟩ := Option.map_eq_some_iff.mp stepped
    cases saveLedgerBlock_effect ran with
    | inserted above free =>
      exact chained.append named.1 above (linked_of_free chained above named.2 free)
    | duplicate => exact chained
    | reorg _ _ forkSequence =>
      have gap : ∀ row ∈ (database.rollbackFromLedger forkSequence).ledgers,
          row.sequence + 1 < ledger.sequence := by
        intro row mem
        have kept : row.sequence < _ := of_decide_eq_true (mem_filter.mp mem).2
        omega
      exact (chained.rollback forkSequence).append named.1
        (fun row mem => (Nat.lt_succ_self _).trans (gap row mem))
        fun row mem consecutive => absurd consecutive (gap row mem).ne

end

theorem stores_of_effect (database : Database) (event : Event) : Stores database event := by
  cases event with
  | saveEvent => trivial
  | saveLedgerBlock =>
    intro next saved
    cases saveLedgerBlock_effect saved with
    | inserted | reorg => exact mem_append_right _ (mem_singleton_self _)

theorem keeps_iff {given : List Ledger} {event : Event}
    (stepped : step database event = some next) :
    Keeps (database, given) event ↔ Unrelated (database, given) event := by
  cases event with
  | saveEvent => exact Iff.rfl
  | saveLedgerBlock ledger =>
    obtain ⟨⟨_, returned⟩, ran, rfl⟩ := Option.map_eq_some_iff.mp stepped
    have effect := saveLedgerBlock_effect ran
    constructor
    · intro keeps forks ancestor got leads
      cases effect with
      | inserted above free | duplicate free => exact free forks
      | reorg above _ forkSequence found =>
        have gone : ∀ row ∈ database.ledgers, Ancestor given row ledger →
            forkSequence ≤ row.sequence → False := by
          intro row mem leads removed
          have kept := (keeps _ _ ran row mem leads).1 row mem le_rfl
          rcases mem_append.mp kept with old | same
          · have low : row.sequence < _ := of_decide_eq_true (mem_filter.mp old).2
            omega
          · exact (above row mem).ne (congrArg Ledger.sequence (mem_singleton.mp same))
        cases search : database.ledgers.find? fun row =>
            row.ledgerHash = ledger.parentLedgerHash with
        | none =>
          unfold Database.findForkSequence at found
          rw [search] at found
          exact gone ancestor got leads (found.trans_le (Nat.zero_le _))
        | some parent =>
          unfold Database.findForkSequence at found
          rw [search] at found
          have named : parent.ledgerHash = ledger.parentLedgerHash := by
            simpa using List.find?_some search
          exact gone parent (mem_of_find?_eq_some search) (.parent named) found.le
    · intro unrelated next returned ran ancestor got leads
      cases saveLedgerBlock_effect ran with
      | inserted =>
        exact ⟨fun row mem _ => mem_append_left _ mem, fun event mem _ => mem⟩
      | duplicate => exact ⟨fun row mem _ => mem, fun event mem _ => mem⟩
      | reorg _ forks => exact absurd leads (unrelated forks ancestor got)

/-- A ledger follows one that was reported as a duplicate of the tip. -/
def forked : List Event :=
  [.saveLedgerBlock ⟨10, "h10", "h9"⟩, .saveLedgerBlock ⟨11, "h11", "h10"⟩,
    .saveLedgerBlock ⟨11, "other11", "h10"⟩, .saveLedgerBlock ⟨12, "other12", "other11"⟩]

/-- Stored ledgers are linked and calls that return true store theirs; ancestors of a ledger are
kept exactly in the runs in which no ledger forks from a stored ancestor. -/
theorem ledgers_continue (events : List Event) (named : ∀ event ∈ events, Named event) :
    machine.Always Linked {} events ∧ machine.Meets Stores {} events ∧
      (recording.Meets Keeps ({}, []) events ↔ recording.Meets Unrelated ({}, []) events) := by
  refine ⟨?_, ?_, ?_⟩
  · have meets : machine.Meets (fun _ event => Named event) {} events :=
      meets_of_mem (fun event mem _ => named event mem) _
    refine CallMachine.Always.mono (fun database chained => Chained.linked chained)
      (always_of_meets ?_ chained_empty meets)
    intro database event next chained named ran
    exact step_chained chained named (ofStep_exec_eq_ok.mp ran)
  · exact meets_of_mem (fun event _ database => stores_of_effect database event) _
  · refine CallMachine.meets_congr (fun _ _ _ (_ : True) _ => trivial) ?_ trivial events
    intro state event next _ ran
    have stepped := (withGhost_exec_eq_ok.mp ran).1
    exact keeps_iff (ofStep_exec_eq_ok.mp stepped)

theorem ledgers_continue_forked :
    machine.Always Linked {} forked ∧ machine.Meets Stores {} forked ∧
      (recording.Meets Keeps ({}, []) forked ↔ recording.Meets Unrelated ({}, []) forked) := by
  refine ledgers_continue forked fun event mem => ?_
  simp only [forked, mem_cons, not_mem_nil, or_false] at mem
  rcases mem with rfl | rfl | rfl | rfl
  · exact ⟨by decide, by decide⟩
  · exact ⟨by decide, by decide⟩
  · exact ⟨by decide, by decide⟩
  · exact ⟨by decide, by decide⟩

/-- The ledger that both forks have in common is removed. -/
theorem forked_removes : ¬ recording.Meets Keeps ({}, []) forked := by
  intro keeps
  obtain ⟨-, -, -, last, -⟩ := keeps
  have leads : Ancestor
      [⟨10, "h10", "h9"⟩, ⟨11, "h11", "h10"⟩, ⟨11, "other11", "h10"⟩] ⟨10, "h10", "h9"⟩
      ⟨12, "other12", "other11"⟩ :=
    .older (.tail _ (.tail _ (.head _))) rfl (.parent rfl)
  have kept := last ⟨_, rfl⟩ _ _ rfl _ (.head _) leads
  exact absurd (kept.1 _ (.head _) le_rfl) (by decide)

end SorobanPlayground.Indexer.Ledgers
