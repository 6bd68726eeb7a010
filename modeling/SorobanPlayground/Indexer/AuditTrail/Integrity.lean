import Mathlib.Data.List.Sort
import Mathlib.Data.String.Basic
import SorobanPlayground.Library.CallMachine
import SorobanPlayground.Library.HashChain

/-! # The audit trail

Entries are chained by their hashes and read back in the order of their timestamps. SHA-256 in hex
and the order in which the database returns rows are parameters. The entries in the order of
insertion are a hash chain. Verification is a check of the newest links by timestamp, and sees of an
entry only its payload and its hashes.
-/

namespace SorobanPlayground.Indexer.AuditTrail

open List hiding head_append
open HashChain

section

structure AuditEntry where
  id : String
  eventType : String
  actor : String
  payload : String
  prevHash : String
  entryHash : String
  merkleRoot : String
  timestamp : String
  deriving DecidableEq, Repr

/-- `"0".repeat(64)`. -/
def genesisHash : String := String.ofList (List.replicate 64 '0')

variable (sha256 : String → String) (order : List AuditEntry → List AuditEntry)

def calculateEntryHash (prevHash data : String) : String := sha256 (prevHash ++ data)

/-- `ORDER BY timestamp DESC LIMIT ? OFFSET ?`. -/
def getAuditTrail (trail : List AuditEntry) (limit offset : Nat) : List AuditEntry :=
  ((order trail).drop offset).take limit

/-- `ORDER BY timestamp DESC LIMIT 1`. -/
def getLastAuditEntry (trail : List AuditEntry) : Option AuditEntry := (order trail).head?

/-- The insert fails when the id is taken. -/
def saveAuditEntry (trail : List AuditEntry) (entry : AuditEntry) : Option (List AuditEntry) :=
  if ∃ stored ∈ trail, stored.id = entry.id then none else some (trail ++ [entry])

structure State where
  /-- The rows in the order of insertion. -/
  trail : List AuditEntry := []
  lastHash : String := genesisHash
  deriving DecidableEq

inductive Event where
  /-- A restart of the manager. -/
  | new
  | logEvent (eventType actor payload id timestamp : String)
  deriving DecidableEq

def new (state : State) : State :=
  let lastEntry := getLastAuditEntry order state.trail
  { state with lastHash := (lastEntry.map AuditEntry.entryHash).getD genesisHash }

def logEvent (state : State) (eventType actor payload id timestamp : String) : Option State :=
  let entryHash := calculateEntryHash sha256 state.lastHash payload
  let entry : AuditEntry :=
    { id, eventType, actor, payload, prevHash := state.lastHash, entryHash,
      merkleRoot := entryHash, timestamp }
  (saveAuditEntry state.trail entry).map fun trail => { trail, lastHash := entryHash }

def step (state : State) : Event → Option State
  | .new => some (new order state)
  | .logEvent eventType actor payload id timestamp =>
      logEvent sha256 state eventType actor payload id timestamp

def machine : CallMachine State Event Unit := CallMachine.ofStep (step sha256 order)

/-- The loop of `verify_integrity`. -/
def verifyEntries : String → List AuditEntry → Bool
  | _, [] => true
  | expectedPrevHash, entry :: entries =>
      if entry.prevHash ≠ expectedPrevHash then false
      else if entry.entryHash ≠ calculateEntryHash sha256 entry.prevHash entry.payload then false
      else verifyEntries entry.entryHash entries

/-- The rows that are verified, from the oldest on. -/
def window (trail : List AuditEntry) : List AuditEntry := (getAuditTrail order trail 1000 0).reverse

def verifyIntegrity (trail : List AuditEntry) : Bool :=
  match window order trail with
  | [] => true
  | oldest :: entries => verifyEntries sha256 oldest.prevHash (oldest :: entries)

end

/-- Rows come back with the latest timestamp first. -/
structure Orders (order : List AuditEntry → List AuditEntry) : Prop where
  perm : ∀ rows, (order rows).Perm rows
  sorted : ∀ rows, (order rows).Pairwise fun first second => second.timestamp ≤ first.timestamp

def HexDigests (sha256 : String → String) : Prop := ∀ input, (sha256 input).length = 64

def AuditEntry.hashInput (entry : AuditEntry) : String := entry.prevHash ++ entry.payload

/-- Different inputs have different digests, and none has the one that starts the chain. -/
structure CollisionFree (sha256 : String → String) (inputs : List String) : Prop where
  distinct : ∀ first ∈ inputs, ∀ second ∈ inputs, sha256 first = sha256 second → first = second
  start : ∀ input ∈ inputs, sha256 input ≠ genesisHash

def AuditEntry.link (entry : AuditEntry) : Link String String where
  prev := entry.prevHash
  data := entry.payload
  digest := entry.entryHash

/-- A change of the payload, the hash or the previous hash of an entry. -/
inductive Edited (entry : AuditEntry) : AuditEntry → Prop
  | payload (value : String) (changed : value ≠ entry.payload) :
      Edited entry { entry with payload := value }
  | prevHash (value : String) (changed : value ≠ entry.prevHash) :
      Edited entry { entry with prevHash := value }
  | entryHash (value : String) (changed : value ≠ entry.entryHash) :
      Edited entry { entry with entryHash := value }

/-- Which changes of a trail its verification finds. -/
structure Guarded (sha256 : String → String) (order : List AuditEntry → List AuditEntry)
    (trail : List AuditEntry) : Prop where
  intact : verifyIntegrity sha256 order trail = true
  edited : ∀ index entry changed, trail[index]? = some entry → Edited entry changed →
    CollisionFree sha256 [entry.hashInput, changed.hashInput] →
    (verifyIntegrity sha256 order (trail.set index changed) = false ↔ trail.length ≤ index + 1000)
  removed : CollisionFree sha256 (trail.map AuditEntry.hashInput) →
    ∀ index, index < trail.length →
    (verifyIntegrity sha256 order (trail.eraseIdx index) = false ↔
      0 < index ∧ index + 1 < trail.length ∧ trail.length ≤ index + 1000)
  /-- Other fields than those of the links, removals and reorderings. -/
  rearranged : CollisionFree sha256 (trail.map AuditEntry.hashInput) →
    ∀ tampered : List AuditEntry, (∀ entry ∈ tampered, entry.link ∈ trail.map AuditEntry.link) →
    (verifyIntegrity sha256 order tampered = false ↔
      ¬ (window order tampered).map AuditEntry.link <:+: trail.map AuditEntry.link)

/-- The timestamp of a new entry is later than those before it. -/
def Later (state : State) : Event → Prop
  | .new => True
  | .logEvent _ _ _ _ timestamp => ∀ entry ∈ state.trail, entry.timestamp < timestamp

instance (state : State) (event : Event) : Decidable (Later state event) :=
  match event with
  | .new => isTrue trivial
  | .logEvent _ _ _ _ timestamp =>
      inferInstanceAs (Decidable (∀ entry ∈ state.trail, entry.timestamp < timestamp))

variable {sha256 : String → String} {order : List AuditEntry → List AuditEntry}
  {entries : List AuditEntry}

theorem verifyEntries_iff {expectedPrevHash : String} :
    verifyEntries sha256 expectedPrevHash entries = true ↔
      Verifies (calculateEntryHash sha256) expectedPrevHash (entries.map AuditEntry.link) := by
  induction entries generalizing expectedPrevHash with
  | nil => exact iff_of_true rfl trivial
  | cons _ _ ih =>
    unfold verifyEntries
    split
    · next ne => exact iff_of_false nofun fun verifies => ne verifies.1
    · next same =>
      split
      · next wrong => exact iff_of_false nofun fun verifies => wrong verifies.2.1
      · next right =>
        refine ih.trans ⟨fun rest => ⟨not_not.mp same, not_not.mp right, rest⟩, ?_⟩
        exact fun verifies => verifies.2.2

variable {trail : List AuditEntry}

theorem verifyIntegrity_iff :
    verifyIntegrity sha256 order trail = true ↔
      Consistent (calculateEntryHash sha256) ((window order trail).map AuditEntry.link) := by
  unfold verifyIntegrity
  cases window order trail with
  | nil => exact iff_of_true rfl trivial
  | cons => exact verifyEntries_iff

theorem verifyIntegrity_eq_false :
    verifyIntegrity sha256 order trail = false ↔
      ¬ Consistent (calculateEntryHash sha256) ((window order trail).map AuditEntry.link) := by
  rw [← verifyIntegrity_iff, Bool.not_eq_true]

/-- Entries that were stored in the order of their timestamps. -/
def Chronological (trail : List AuditEntry) : Prop :=
  trail.Pairwise fun first second => first.timestamp < second.timestamp

theorem order_eq (orders : Orders order) (chronological : Chronological trail) :
    order trail = trail.reverse := by
  refine List.Perm.eq_of_pairwise ?_ (orders.sorted trail) ?_
    ((orders.perm trail).trans trail.reverse_perm.symm)
  · intro first second one two before after
    have one : first ∈ trail := (orders.perm trail).mem_iff.mp one
    have two : second ∈ trail := mem_reverse.mp two
    have apart : (trail.map AuditEntry.timestamp).Nodup :=
      pairwise_map.mpr (chronological.imp ne_of_lt)
    exact inj_on_of_nodup_map apart one two (le_antisymm after before)
  · exact (pairwise_reverse.mpr chronological).imp fun earlier => le_of_lt earlier

theorem window_eq (orders : Orders order) (chronological : Chronological trail) :
    window order trail = trail.drop (trail.length - 1000) := by
  unfold window getAuditTrail
  rw [drop_zero, order_eq orders chronological, reverse_take, reverse_reverse,
    length_reverse]

/-- The stored entries are the chain that the manager continues. -/
structure Logged (sha256 : String → String) (state : State) : Prop where
  verifies : Verifies (calculateEntryHash sha256) genesisHash (state.trail.map AuditEntry.link)
  lastHash : state.lastHash = head genesisHash (state.trail.map AuditEntry.link)
  chronological : Chronological state.trail

theorem logged_empty : Logged sha256 {} := ⟨trivial, rfl, List.Pairwise.nil⟩

variable {state : State}

theorem Logged.new (logged : Logged sha256 state) (orders : Orders order) :
    new order state = state := by
  have read : ((getLastAuditEntry order state.trail).map AuditEntry.entryHash).getD genesisHash =
      head genesisHash (state.trail.map AuditEntry.link) := by
    unfold getLastAuditEntry
    rw [order_eq orders logged.chronological, List.head?_reverse]
    rcases eq_nil_or_concat state.trail with empty | ⟨_, _, split⟩
    · rw [empty]
      rfl
    · rw [split, concat_eq_append, List.getLast?_concat, map_append,
        map_singleton, head_append]
      rfl
  unfold AuditTrail.new
  dsimp only
  rw [read, ← logged.lastHash]

theorem Logged.step {state next : State} {event : Event} (logged : Logged sha256 state)
    (orders : Orders order) (later : Later state event)
    (ran : step sha256 order state event = some next) : Logged sha256 next := by
  cases event with
  | new =>
    cases ran
    rwa [logged.new orders]
  | logEvent =>
    obtain ⟨_, saved, rfl⟩ := Option.map_eq_some_iff.mp ran
    unfold saveAuditEntry at saved
    split at saved
    · cases saved
    · cases saved
      refine ⟨?_, ?_, ?_⟩
      · rw [map_append]
        exact logged.verifies.concat logged.lastHash rfl
      · rw [map_append, map_singleton, head_append]
        rfl
      · refine pairwise_append.mpr ⟨logged.chronological, pairwise_singleton _ _, ?_⟩
        intro earlier mem added same
        obtain rfl := mem_singleton.mp same
        exact later earlier mem

theorem window_subset (orders : Orders order) {entry : AuditEntry}
    (mem : entry ∈ window order trail) : entry ∈ trail := by
  refine (orders.perm trail).mem_iff.mp ?_
  exact mem_of_mem_drop (mem_of_mem_take (mem_reverse.mp mem))

theorem genesisHash_length : genesisHash.length = 64 := by
  unfold genesisHash
  rw [String.length_ofList, length_replicate]

theorem prev_length (digests : HexDigests sha256) {start : String}
    {links : List (Link String String)} (length : start.length = 64)
    (verifies : Verifies (calculateEntryHash sha256) start links) :
    ∀ link ∈ links, link.prev.length = 64 := by
  induction links generalizing start with
  | nil => exact nofun
  | cons _ _ ih =>
    obtain ⟨named, digest, rest⟩ := verifies
    intro other mem
    rcases mem_cons.mp mem with same | later
    · rw [same, named, length]
    · refine ih ?_ rest other later
      rw [digest]
      exact digests _

theorem Logged.collisionFree (logged : Logged sha256 state) (digests : HexDigests sha256)
    (free : CollisionFree sha256 (state.trail.map AuditEntry.hashInput)) :
    HashChain.CollisionFree (calculateEntryHash sha256) genesisHash
      (state.trail.map AuditEntry.link) := by
  have lengths := prev_length digests genesisHash_length logged.verifies
  have hashed : ∀ link ∈ state.trail.map AuditEntry.link,
      link.prev ++ link.data ∈ state.trail.map AuditEntry.hashInput := by
    intro link mem
    obtain ⟨_, got, rfl⟩ := mem_map.mp mem
    exact mem_map_of_mem got
  refine ⟨fun first one second two same => ?_, fun link mem => free.start _ (hashed link mem)⟩
  have texts := free.distinct _ (hashed first one) _ (hashed second two) same
  have lists := congrArg String.toList texts
  rw [String.toList_append, String.toList_append] at lists
  refine String.toList_inj.mp (append_inj_left lists ?_)
  rw [String.length_toList, String.length_toList, lengths first one, lengths second two]

theorem Logged.intact (logged : Logged sha256 state) (orders : Orders order) :
    verifyIntegrity sha256 order state.trail = true := by
  rw [verifyIntegrity_iff, window_eq orders logged.chronological]
  generalize state.trail.length - 1000 = skipped
  have split := logged.verifies
  rw [← take_append_drop skipped state.trail, map_append, ← append_nil (_ ++
    _)] at split
  exact split.consistent

variable {entry changed : AuditEntry}

theorem Edited.broken (edited : Edited entry changed)
    (free : CollisionFree sha256 [entry.hashInput, changed.hashInput])
    (hashed : entry.entryHash = sha256 entry.hashInput) :
    changed.entryHash ≠ sha256 changed.hashInput := by
  intro still
  have texts : changed.entryHash = entry.entryHash → entry.hashInput = changed.hashInput :=
    fun same => free.distinct _ (.head _) _ (.tail _ (.head _))
      (hashed.symm.trans (same.symm.trans still))
  cases edited with
  | payload _ ne =>
    have lists := congrArg String.toList (texts rfl)
    unfold AuditEntry.hashInput at lists
    rw [String.toList_append, String.toList_append] at lists
    exact ne (String.toList_inj.mp (append_cancel_left lists)).symm
  | prevHash _ ne =>
    have lists := congrArg String.toList (texts rfl)
    unfold AuditEntry.hashInput at lists
    rw [String.toList_append, String.toList_append] at lists
    exact ne (String.toList_inj.mp (append_cancel_right lists)).symm
  | entryHash _ ne => exact ne (still.trans hashed.symm)

theorem Edited.timestamp (edited : Edited entry changed) : changed.timestamp = entry.timestamp := by
  cases edited with
  | payload | prevHash | entryHash => rfl

theorem Logged.edited {index : Nat} (logged : Logged sha256 state) (orders : Orders order)
    (got : state.trail[index]? = some entry) (edited : Edited entry changed)
    (free : CollisionFree sha256 [entry.hashInput, changed.hashInput]) :
    verifyIntegrity sha256 order (state.trail.set index changed) = false ↔
      state.trail.length ≤ index + 1000 := by
  obtain ⟨bound, found⟩ := List.getElem?_eq_some_iff.mp got
  have times : (state.trail.set index changed).map AuditEntry.timestamp =
      state.trail.map AuditEntry.timestamp := by
    rw [map_set, edited.timestamp, ← found, ← getElem_map AuditEntry.timestamp,
      set_getElem_self]
    rw [length_map]
    exact bound
  have chronological : Chronological (state.trail.set index changed) := by
    have sorted : (state.trail.map AuditEntry.timestamp).Pairwise (· < ·) :=
      pairwise_map.mpr logged.chronological
    rw [← times] at sorted
    exact pairwise_map.mp sorted
  have read : window order (state.trail.set index changed) =
      (state.trail.set index changed).drop (state.trail.length - 1000) := by
    rw [window_eq orders chronological, length_set]
  by_cases seen : state.trail.length ≤ index + 1000
  · refine iff_of_true (verifyIntegrity_eq_false.mpr fun consistent => ?_) seen
    have hashed : entry.entryHash = sha256 entry.hashInput :=
      logged.verifies.digest_eq (mem_map_of_mem (mem_of_getElem? got))
    refine edited.broken free hashed (consistent.digest_eq (mem_map_of_mem ?_))
    rw [read, drop_set, if_neg (by omega)]
    exact mem_set (by rw [length_drop]; omega) changed
  · refine iff_of_false ?_ seen
    rw [Bool.not_eq_false, verifyIntegrity_iff, read, drop_set_of_lt (by omega), ← window_eq
      orders logged.chronological, ← verifyIntegrity_iff]
    exact logged.intact orders

theorem eraseIdx_drop {index skipped : Nat} (le : index ≤ skipped)
    (bound : index < entries.length) :
    (entries.eraseIdx index).drop skipped = entries.drop (skipped + 1) := by
  have length : (entries.take index).length = index := length_take_of_le bound.le
  rw [eraseIdx_eq_take_drop_succ, drop_append, length, drop_eq_nil_of_le (by omega),
    nil_append, drop_drop]
  congr 1
  omega

theorem Logged.removed {index : Nat} (logged : Logged sha256 state) (orders : Orders order)
    (digests : HexDigests sha256)
    (free : CollisionFree sha256 (state.trail.map AuditEntry.hashInput))
    (bound : index < state.trail.length) :
    verifyIntegrity sha256 order (state.trail.eraseIdx index) = false ↔
      0 < index ∧ index + 1 < state.trail.length ∧ state.trail.length ≤ index + 1000 := by
  have free := logged.collisionFree digests free
  have chronological : Chronological (state.trail.eraseIdx index) :=
    List.Pairwise.sublist (eraseIdx_sublist _ _) logged.chronological
  rw [verifyIntegrity_eq_false, window_eq orders chronological, length_eraseIdx_of_lt bound]
  generalize window_skips : state.trail.length - 1 - 1000 = skipped
  by_cases inner : 0 < index ∧ index + 1 < state.trail.length ∧ state.trail.length ≤ index + 1000
  · refine iff_of_true ?_ inner
    obtain ⟨pos, _⟩ := inner
    obtain ⟨index, rfl⟩ := Nat.exists_eq_succ_of_ne_zero pos.ne'
    have split : state.trail = state.trail.take index ++ state.trail[index] ::
        state.trail[index + 1] :: state.trail[index + 2] :: state.trail.drop (index + 3) := by
      rw [getElem_cons_drop, getElem_cons_drop, getElem_cons_drop,
        take_append_drop]
    have erased : (state.trail.eraseIdx (index + 1)).drop skipped =
        (state.trail.take index).drop skipped ++ state.trail[index] ::
          state.trail[index + 2] :: state.trail.drop (index + 3) := by
      rw [getElem_cons_drop, eraseIdx_eq_take_drop_succ, take_succ_eq_append_getElem,
        append_assoc, drop_append_of_le_length]
      · rfl
      · rw [length_take]
        omega
    have chain := congrArg (List.map AuditEntry.link) split
    have gap := congrArg (List.map AuditEntry.link) erased
    rw [map_append] at chain gap
    exact logged.verifies.gap free chain gap
  · refine iff_of_false ?_ inner
    rw [not_not]
    have whole := logged.verifies
    by_cases newest : index + 1 = state.trail.length
    · rw [eraseIdx_eq_take_drop_succ, newest, drop_length, append_nil]
      rw [← take_append_drop index state.trail, ← take_append_drop skipped
        (state.trail.take index), map_append, map_append] at whole
      exact whole.consistent
    · rw [eraseIdx_drop (by omega) bound]
      rw [← take_append_drop (skipped + 1) state.trail, map_append, ← append_nil (_
        ++ _)] at whole
      exact whole.consistent

theorem Logged.rearranged (logged : Logged sha256 state) (orders : Orders order)
    (digests : HexDigests sha256)
    (free : CollisionFree sha256 (state.trail.map AuditEntry.hashInput))
    {tampered : List AuditEntry}
    (drawn : ∀ entry ∈ tampered, entry.link ∈ state.trail.map AuditEntry.link) :
    verifyIntegrity sha256 order tampered = false ↔
      ¬ (window order tampered).map AuditEntry.link <:+: state.trail.map AuditEntry.link := by
  refine verifyIntegrity_eq_false.trans (not_congr ?_)
  refine logged.verifies.consistent_iff (logged.collisionFree digests free) fun link mem => ?_
  obtain ⟨entry, read, rfl⟩ := mem_map.mp mem
  exact drawn entry (window_subset orders read)

theorem Logged.guarded (logged : Logged sha256 state) (orders : Orders order)
    (digests : HexDigests sha256) : Guarded sha256 order state.trail where
  intact := logged.intact orders
  edited _ _ _ got edited free := logged.edited orders got edited free
  removed free _ bound := logged.removed orders digests free bound
  rearranged free _ drawn := logged.rearranged orders digests free drawn

/-- Rows by timestamp, the latest first, and otherwise in the order of insertion. -/
def byTimestamp (rows : List AuditEntry) : List AuditEntry :=
  rows.insertionSort fun first second => second.timestamp ≤ first.timestamp

theorem byTimestamp_orders : Orders byTimestamp where
  perm := perm_insertionSort _
  sorted rows := by
    exact pairwise_insertionSort _ rows

/-- The digests of three texts. -/
def sampleDigest (input : String) : String :=
  if input = genesisHash ++ "a" then
    "798681f5061511d34f32f43ab175a3ee7007fecfdc844295e054315b0af2d23d"
  else if input = "798681f5061511d34f32f43ab175a3ee7007fecfdc844295e054315b0af2d23d" ++ "b" then
    "3682b038900167ad4cb4d1c4048581bd4473b2e74239b4abb490e156774c84b2"
  else if input = "3682b038900167ad4cb4d1c4048581bd4473b2e74239b4abb490e156774c84b2" ++ "c" then
    "5b3cd76765dacdd2c8f61365e210c47ffb703a6ec648f6824bccf8ae2cd111c3"
  else "e3b0c44298fc1c149afbf4c8996fb92427ae41e4649b934ca495991b7852b855"

/-- Three entries of one manager and a restart. -/
def threeEvents : List Event :=
  [.logEvent "deploy" "alice" "a" "1" "2026-01-01", .new,
    .logEvent "upgrade" "bob" "b" "2" "2026-01-02",
    .logEvent "invoke" "carol" "c" "3" "2026-01-03"]

/-- The clock is set back between two entries. -/
def setBack : List Event :=
  [.logEvent "deploy" "alice" "a" "1" "2026-01-02", .logEvent "upgrade" "bob" "b" "2" "2026-01-01"]

/-- In a log whose timestamps increase, verification holds of the stored entries, and fails exactly
after changes that its window shows. -/
theorem trail_guarded (sha256 : String → String) (order : List AuditEntry → List AuditEntry)
    (digests : HexDigests sha256) (orders : Orders order) (events : List Event)
    (later : (machine sha256 order).Meets Later {} events) :
    (machine sha256 order).Always (fun state => Guarded sha256 order state.trail) {} events := by
  refine CallMachine.Always.mono (fun state logged => Logged.guarded logged orders digests)
    (always_of_meets ?_ logged_empty later)
  intro state event next logged later ran
  exact logged.step orders later (ofStep_exec_eq_ok.mp ran)

/-- The removal of the second of three entries is found. -/
theorem trail_guarded_three :
    verifyIntegrity sampleDigest byTimestamp
      (((machine sampleDigest byTimestamp).run {} threeEvents).trail.eraseIdx 1) = false := by
  have digests : HexDigests sampleDigest := by
    intro input
    unfold sampleDigest
    split_ifs
    · decide
    · decide
    · decide
    · decide
  have guarded := (trail_guarded sampleDigest byTimestamp digests byTimestamp_orders threeEvents
    ⟨fun _ => nofun, fun _ => trivial, fun _ => by decide, fun _ => by decide, trivial⟩).final
  refine (guarded.removed ⟨by decide, by decide⟩ 1 (by decide)).mpr (by decide)

/-- An entry that is stored with an earlier timestamp breaks the verification, and another actor
does not. -/
theorem setBack_fails :
    verifyIntegrity sampleDigest byTimestamp
        ((machine sampleDigest byTimestamp).run {} setBack).trail = false ∧
      verifyIntegrity sampleDigest byTimestamp
        (((machine sampleDigest byTimestamp).run {} threeEvents).trail.map fun entry =>
          { entry with actor := "mallory" }) = true := by
  decide

end SorobanPlayground.Indexer.AuditTrail
