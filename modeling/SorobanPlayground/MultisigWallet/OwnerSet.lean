import SorobanPlayground.Library.IndexedSet
import SorobanPlayground.MultisigWallet.Contract

/-! # The owner set and the recorded confirmations

The owners are stored at the indices below their number and once more as flags,
and the confirmations of a transaction are counted on it and once more as flags.
Both pairs agree in every run. The counter follows the flags of all addresses,
whether or not they are owners still.
-/

namespace SorobanPlayground.MultisigWallet

open State List FiniteMap

variable {Address : Type} [DecidableEq Address] {contract : Address}

/-- The addresses with a recorded confirmation for a transaction. -/
def State.signers (state : State Address) (txId : Nat) : Finset Address :=
  (state.confirmations.keys.filter fun key => key.1 = txId).image Prod.snd

theorem State.mem_signers {state : State Address} {txId : Nat} {owner : Address} :
    owner ∈ state.signers txId ↔ state.isConfirmed txId owner = true := by
  unfold signers isConfirmed FiniteMap.has
  simp only [Finset.mem_image, Finset.mem_filter, Finmap.mem_keys, ← Finmap.lookup_isSome]
  constructor
  · rintro ⟨⟨_, _⟩, ⟨noted, rfl⟩, rfl⟩
    exact noted
  · intro noted
    exact ⟨(txId, owner), ⟨noted, rfl⟩, rfl⟩

theorem State.signers_congr {state next : State Address} {txId : Nat}
    (same : ∀ owner, next.isConfirmed txId owner = state.isConfirmed txId owner) :
    next.signers txId = state.signers txId := by
  ext owner
  rw [mem_signers, mem_signers, same]

/-- The numbers on the transactions agree with the flags. -/
structure Tallied (state : State Address) : Prop where
  unopened : state.initialized = false → ∀ id, state.transactions.get id = none
  named : ∀ id tx, state.transactions.get id = some tx → tx.id = id ∧ id < state.txCount
  confirmed : ∀ id owner, state.isConfirmed id owner = true →
    ∃ tx, state.transactions.get id = some tx
  counted : ∀ id tx, state.transactions.get id = some tx →
    tx.confirmations = (state.signers id).card

/-- A transaction that can still be executed. -/
def Transaction.Open (tx : Transaction Address) : Prop := tx.status = .pending ∨ tx.status = .ready

/-- A state that differs from another in one transaction and its flags. -/
structure Updates (txId : Nat) (updated : Transaction Address) (state next : State Address) :
    Prop where
  initialized : next.initialized = true
  threshold : next.threshold = state.threshold
  txCount : state.txCount ≤ next.txCount
  below : txId < next.txCount
  owners : next.isOwner = state.isOwner
  transactions : ∀ id, next.transactions.get id =
    if id = txId then some updated else state.transactions.get id
  flags : ∀ id owner, id ≠ txId → next.isConfirmed id owner = state.isConfirmed id owner
  id : updated.id = txId

/-- What a call leaves that files a transaction: the owner who calls may add a confirmation, and
a transaction that is ready has enough of them. -/
structure Filing (txId : Nat) (updated : Transaction Address) (state next : State Address) : Prop
    extends Updates txId updated state next where
  opened : state.initialized = true
  listing : next.ownerAt = state.ownerAt ∧ next.ownerCount = state.ownerCount
  delays : next.minDelay = state.minDelay ∧ next.maxDelay = state.maxDelay
  counted : updated.confirmations = (next.signers txId).card
  signers : ∀ owner, next.isConfirmed txId owner = true →
    state.hasOwner owner = true ∨ state.isConfirmed txId owner = true
  stays_open : updated.Open → ∀ tx, state.transactions.get txId = some tx → tx.Open
  ready : updated.status = .ready → state.threshold ≤ updated.confirmations

variable {call : Env Address contract × Operation Address}

section Calls

variable {env : Env Address contract} {caller : Address} {txId : Nat} {state next : State Address}

theorem Tallied.filing (tallied : Tallied state) {updated : Transaction Address}
    (filing : Filing txId updated state next) : Tallied next where
  unopened := by
    intro closed
    rw [filing.initialized] at closed
    cases closed
  named := by
    intro id tx got
    rw [filing.transactions] at got
    split at got
    · next same =>
      cases got
      exact ⟨filing.id.trans same.symm, same ▸ filing.below⟩
    · obtain ⟨named, below⟩ := tallied.named id tx got
      exact ⟨named, below.trans_le filing.txCount⟩
  confirmed := by
    intro id owner flagged
    rw [filing.transactions]
    split
    · exact ⟨updated, rfl⟩
    · next ne =>
      rw [filing.flags id owner ne] at flagged
      exact tallied.confirmed id owner flagged
  counted := by
    intro id tx got
    rw [filing.transactions] at got
    split at got
    · next same =>
      cases got
      rw [same]
      exact filing.counted
    · next ne =>
      rw [signers_congr fun owner => filing.flags id owner ne]
      exact tallied.counted id tx got

variable {tx updated : Transaction Address}

/-- A stored transaction is filed again, with other flags of its own. -/
theorem Tallied.refile (tallied : Tallied state) (opened : state.initialized = true)
    (got : state.transactions.get txId = some tx)
    (id : updated.id = tx.id) (stays_open : updated.Open → tx.Open)
    (ready : updated.status = .ready → state.threshold ≤ updated.confirmations)
    {confirmations : FiniteMap (Nat × Address) Bool}
    (others : ∀ id owner, id ≠ txId → confirmations.has (id, owner) = state.isConfirmed id owner)
    (counted : updated.confirmations = (signers { state with confirmations } txId).card)
    (signers : ∀ owner, confirmations.has (txId, owner) = true →
      state.hasOwner owner = true ∨ state.isConfirmed txId owner = true) :
    Filing txId updated state (setTx { state with confirmations } updated) :=
  have txIs := id.trans (tallied.named txId tx got).1
  { initialized := opened
    opened := opened
    threshold := rfl
    txCount := le_rfl
    below := (tallied.named txId tx got).2
    owners := rfl
    transactions := fun other => by
      rw [← txIs]
      exact get_set _ _ _ _
    flags := others
    id := txIs
    listing := ⟨rfl, rfl⟩
    delays := ⟨rfl, rfl⟩
    counted := counted
    signers := signers
    stays_open := fun isOpen _ found => Option.mem_unique got found ▸ stays_open isOpen
    ready := ready }

theorem Tallied.setTx (tallied : Tallied state) (opened : state.initialized = true)
    (got : state.transactions.get txId = some tx)
    (id : updated.id = tx.id) (confirmations : updated.confirmations = tx.confirmations)
    (closed : ¬ updated.Open) : Filing txId updated state (state.setTx updated) :=
  tallied.refile opened got id (fun isOpen => absurd isOpen closed)
    (fun isReady => absurd (.inr isReady) closed) (fun _ _ _ => rfl)
    (confirmations.trans (tallied.counted txId tx got)) fun _ => .inr

theorem submitTransaction_filing (tallied : Tallied state) {target : Address} {value : Int}
    {data : String} {delay newId : Nat}
    (ran : submitTransaction env caller target value data delay state = .ok (newId, next)) :
    ∃ updated, Filing state.txCount updated state next := by
  simp only [submitTransaction, call_ok, requireOwner_eq_ok, arith_ok] at ran
  obtain ⟨⟨opened, -, -⟩, -, -, -, -, -, -, rfl⟩ := ran
  have gone : ∀ tx, state.transactions.get state.txCount ≠ some tx := by
    intro tx got
    exact absurd (tallied.named _ tx got).2 (Nat.lt_irrefl _)
  have unsigned : state.signers state.txCount = ∅ := by
    apply Finset.eq_empty_of_forall_notMem
    intro owner mem
    obtain ⟨tx, got⟩ := tallied.confirmed _ owner (mem_signers.mp mem)
    exact gone tx got
  exact ⟨_,
    { initialized := opened
      opened := opened
      threshold := rfl
      txCount := Nat.le_succ _
      below := Nat.lt_succ_self _
      owners := rfl
      transactions := fun other => get_set _ _ _ _
      flags := fun _ _ _ => rfl
      id := rfl
      listing := ⟨rfl, rfl⟩
      delays := ⟨rfl, rfl⟩
      counted := (congrArg Finset.card unsigned).symm
      signers := fun _ => .inr
      stays_open := fun _ tx got => absurd got (gone tx)
      ready := by simp }⟩

section

omit [DecidableEq Address]

theorem Transaction.confirmed_spec {confirmations threshold now : Nat}
    (confirmed : tx.confirmed confirmations threshold now = .ok updated) :
    updated.id = tx.id ∧ updated.confirmations = confirmations ∧
      (updated.status = .ready → tx.status = .pending → threshold ≤ confirmations) := by
  unfold Transaction.confirmed at confirmed
  split at confirmed
  · next enough =>
    simp only [call_ok, arith_ok] at confirmed
    obtain ⟨_, -, rfl⟩ := confirmed
    exact ⟨rfl, rfl, fun _ _ => enough⟩
  · cases confirmed
    exact ⟨rfl, rfl, fun isReady isPending => by cases isReady.symm.trans isPending⟩

theorem Transaction.revoked_spec (tx : Transaction Address) (confirmations threshold : Nat) :
    (tx.revoked confirmations threshold).id = tx.id ∧
      (tx.revoked confirmations threshold).confirmations = confirmations ∧
      ((tx.revoked confirmations threshold).status = .ready → threshold ≤ confirmations) := by
  unfold Transaction.revoked
  split
  · exact ⟨rfl, rfl, nofun⟩
  · next kept => exact ⟨rfl, rfl, fun isReady => not_lt.mp fun low => kept ⟨isReady, low⟩⟩

end

theorem confirmTransaction_filing (tallied : Tallied state)
    (ran : confirmTransaction env caller txId state = .ok next) :
    ∃ updated, Filing txId updated state next := by
  simp only [confirmTransaction, getTx, call_ok, requireOwner_eq_ok, arith_ok] at ran
  obtain ⟨⟨opened, -, isOwner⟩, tx, got, pending, unflagged, -, updated, confirmed,
    rfl⟩ := ran
  obtain ⟨sameId, raised, isReady⟩ := Transaction.confirmed_spec confirmed
  have flag : ∀ id owner, (state.confirmations.set (txId, caller) true).has (id, owner) = true ↔
      (id, owner) = (txId, caller) ∨ state.isConfirmed id owner = true :=
    fun _ _ => has_set
  have signers : (state.recordConfirmation txId caller).signers txId =
      insert caller (state.signers txId) := by
    ext owner
    rw [mem_signers, Finset.mem_insert, mem_signers]
    exact (flag txId owner).trans (by simp)
  have fresh : caller ∉ state.signers txId := by
    rw [mem_signers, unflagged]
    exact Bool.false_ne_true
  refine ⟨updated, tallied.refile opened got sameId (fun _ => .inl pending)
    (fun readyNow => raised ▸ isReady readyNow pending) (fun id owner ne => ?_)
    (by rw [raised, tallied.counted txId tx got, ← Finset.card_insert_of_notMem fresh, ← signers]
        rfl)
    fun owner flagged => ?_⟩
  · rw [Bool.eq_iff_iff, flag, or_iff_right fun same => ne (congrArg Prod.fst same)]
  · exact ((flag txId owner).mp flagged).imp_left fun same =>
      (congrArg state.hasOwner (congrArg Prod.snd same)).trans isOwner

theorem revokeConfirmation_filing (tallied : Tallied state)
    (ran : revokeConfirmation env caller txId state = .ok next) :
    ∃ updated, Filing txId updated state next := by
  simp only [revokeConfirmation, getTx, call_ok, requireOwner_eq_ok,
    checkedSubUnsigned_eq_ok] at ran
  obtain ⟨⟨opened, -, -⟩, tx, got, isOpen, flagged, _, ⟨-, rfl⟩, rfl⟩ := ran
  obtain ⟨sameId, lowered, isReady⟩ :=
    tx.revoked_spec (tx.confirmations - 1) state.threshold
  have flag : ∀ id owner, (state.confirmations.remove (txId, caller)).has (id, owner) = true ↔
      (id, owner) ≠ (txId, caller) ∧ state.isConfirmed id owner = true :=
    fun _ _ => has_remove
  have signers : (state.removeConfirmation txId caller).signers txId =
      (state.signers txId).erase caller := by
    ext owner
    rw [mem_signers, Finset.mem_erase, mem_signers]
    exact (flag txId owner).trans (by simp)
  refine ⟨_, tallied.refile opened got sameId (fun _ => isOpen)
    (fun readyNow => (isReady readyNow).trans_eq lowered.symm) (fun id owner ne => ?_)
    (by rw [lowered, tallied.counted txId tx got,
          ← Finset.card_erase_of_mem (mem_signers.mpr flagged), ← signers]
        rfl)
    fun owner kept => .inr ((flag txId owner).mp kept).2⟩
  rw [Bool.eq_iff_iff, flag, and_iff_right fun same => ne (congrArg Prod.fst same)]

/-- The calls that file a transaction. -/
def Operation.Files : Operation Address → Prop
  | .submitTransaction .. | .confirmTransaction .. | .revokeConfirmation ..
  | .executeTransaction .. | .cancelTransaction .. => True
  | _ => False

theorem dispatch_filing (tallied : Tallied state) (ran : dispatch state call = .ok next)
    (files : call.2.Files) : ∃ txId updated, Filing txId updated state next := by
  obtain ⟨_, op⟩ := call
  cases op with
  | submitTransaction =>
    obtain ⟨⟨_, _⟩, submitted, rfl⟩ := map_eq_ok.mp ran
    exact ⟨_, submitTransaction_filing tallied submitted⟩
  | confirmTransaction _ txId => exact ⟨txId, confirmTransaction_filing tallied ran⟩
  | revokeConfirmation _ txId => exact ⟨txId, revokeConfirmation_filing tallied ran⟩
  | executeTransaction _ txId =>
    simp only [dispatch, executeTransaction, getTx, call_ok, requireOwner_eq_ok] at ran
    obtain ⟨⟨opened, -⟩, tx, got, -, -, rfl⟩ := ran
    exact ⟨txId, _, tallied.setTx opened got rfl rfl
      (by rintro (status | status) <;> cases status)⟩
  | cancelTransaction _ txId =>
    simp only [dispatch, cancelTransaction, getTx, call_ok, requireOwner_eq_ok] at ran
    obtain ⟨⟨opened, -⟩, _, got, -, rfl⟩ := ran
    exact ⟨txId, _, tallied.setTx opened got rfl rfl
      (by rintro (status | status) <;> cases status)⟩
  | _ => exact files.elim

end Calls

theorem deduplicate_spec {owners seen result : List Address}
    (deduplicated : owners.foldlM (fun seen owner => do
      ensure (owner ∉ seen) Error.duplicateOwner
      return seen ++ [owner]) seen = .ok result) :
    result = seen ++ owners ∧ (seen.Nodup → result.Nodup) := by
  induction owners generalizing seen with
  | nil =>
    obtain rfl := pure_eq_ok.mp deduplicated
    exact ⟨(append_nil seen).symm, id⟩
  | cons owner _ ih =>
    simp only [foldlM_cons, call_ok] at deduplicated
    obtain ⟨_, ⟨unseen, rfl⟩, rest⟩ := deduplicated
    obtain ⟨rfl, apart⟩ := ih rest
    refine ⟨by rw [append_assoc, singleton_append], fun before => apart ?_⟩
    exact nodup_append'.mpr ⟨before, nodup_singleton owner,
      disjoint_singleton.mpr unseen⟩

theorem persist_enumerates {owners : List Address} (apart : owners.Nodup) {state : State Address}
    {count : Nat} (enumerates : Enumerates state.ownerAt count (state.hasOwner · = true))
    (outside : ∀ owner ∈ owners, state.hasOwner owner = false) :
    ∃ ownerAt isOwner, ((owners.zipIdx count).foldl (fun got entry =>
        (got.setOwnerAt entry.2 entry.1).setIsOwner entry.1) state) =
          { state with ownerAt, isOwner } ∧
      Enumerates ownerAt (count + owners.length) (isOwner.has · = true) := by
  induction owners generalizing state count with
  | nil => exact ⟨_, _, rfl, enumerates⟩
  | cons owner owners ih =>
    obtain ⟨unlisted, others⟩ := nodup_cons.mp apart
    have flag : ∀ other, ((state.setOwnerAt count owner).setIsOwner owner).hasOwner other = true ↔
        other = owner ∨ state.hasOwner other = true := fun _ => has_set
    have fresh : ¬ state.hasOwner owner = true := by
      rw [outside owner mem_cons_self]
      exact Bool.false_ne_true
    have pushed : Enumerates ((state.setOwnerAt count owner).setIsOwner owner).ownerAt (count + 1)
        (((state.setOwnerAt count owner).setIsOwner owner).hasOwner · = true) :=
      (enumerates.push fresh).congr flag
    have stillOutside : ∀ other ∈ owners,
        ((state.setOwnerAt count owner).setIsOwner owner).hasOwner other = false := by
      intro other mem
      rw [← Bool.not_eq_true, flag, not_or, Bool.not_eq_true]
      exact ⟨fun same => unlisted (same ▸ mem), outside other (mem_cons_of_mem _ mem)⟩
    obtain ⟨ownerAt, isOwner, folded, _⟩ := ih others pushed stillOutside
    refine ⟨ownerAt, isOwner, folded, ?_⟩
    rwa [length_cons, Nat.add_comm owners.length, ← Nat.add_assoc]

theorem dropOwner_frame (state : State Address) (owner : Address) (lastIndex : Nat) :
    ∃ ownerAt, state.dropOwner owner lastIndex = { state with ownerAt } := by
  unfold dropOwner
  split
  · unfold swapWithLast
    split
    · exact ⟨_, rfl⟩
    · split <;> exact ⟨_, rfl⟩
  · exact ⟨_, rfl⟩

theorem dropOwner_enumerates {state : State Address} {owner : Address} {lastIndex : Nat}
    (enumerates : Enumerates state.ownerAt (lastIndex + 1) (state.hasOwner · = true))
    (count : state.ownerCount = lastIndex + 1) (isOwner : state.hasOwner owner = true) :
    Enumerates (state.dropOwner owner lastIndex).ownerAt lastIndex
      fun other => other ≠ owner ∧ state.hasOwner other = true := by
  obtain ⟨index, got⟩ := (enumerates.listed owner).mp isOwner
  obtain ⟨last, atLast⟩ := enumerates.present lastIndex (Nat.lt_succ_self _)
  have found : state.ownerIndex owner = some index := by
    have some' : (state.ownerIndex owner).isSome := by
      refine List.find?_isSome.mpr ⟨index, mem_range.mpr ?_, by simp [got]⟩
      exact count ▸ enumerates.below got
    obtain ⟨other, found⟩ := Option.isSome_iff_exists.mp some'
    have atOther : state.ownerAt.get other = some owner := by simpa using List.find?_some found
    rw [found, enumerates.distinct _ _ _ atOther got]
  refine enumerates.swapRemove got atLast fun other => ?_
  unfold dropOwner swapWithLast
  rw [found]
  dsimp only
  split
  · next same =>
    subst same
    change (state.ownerAt.remove index).get other = _
    rw [get_remove]
    split <;> rfl
  · rw [atLast]
    change ((state.ownerAt.set index last).remove lastIndex).get other = _
    rw [get_remove, get_set]

/-- The owner set of an initialized wallet and the confirmations of its transactions. -/
structure OwnersHold (state : State Address) : Prop where
  owners : Enumerates state.ownerAt state.ownerCount (state.hasOwner · = true)
  threshold : 1 ≤ state.threshold ∧ state.threshold ≤ state.ownerCount
  delays : state.minDelay ≤ state.maxDelay
  counted : ∀ id tx, state.transactions.get id = some tx →
    tx.confirmations = (state.signers id).card

structure Books (state : State Address) : Prop where
  owners : Enumerates state.ownerAt state.ownerCount (state.hasOwner · = true)
  unopened : state.initialized = false → state.ownerCount = 0
  bounds : state.initialized = true → (1 ≤ state.threshold ∧ state.threshold ≤ state.ownerCount) ∧
    state.minDelay ≤ state.maxDelay
  tallied : Tallied state

variable {state next : State Address}

theorem Books.filing (books : Books state) {txId : Nat} {updated : Transaction Address}
    (filing : Filing txId updated state next) : Books next where
  owners := by
    rw [filing.listing.1, filing.listing.2]
    exact books.owners.congr fun owner => by
      unfold hasOwner
      rw [filing.owners]
  unopened := fun closed => by cases filing.initialized.symm.trans closed
  bounds := fun _ => by
    rw [filing.threshold, filing.listing.2, filing.delays.1, filing.delays.2]
    exact books.bounds filing.opened
  tallied := books.tallied.filing filing

theorem initializeWallet_books (books : Books state) {owners : List Address}
    {threshold minDelay maxDelay : Nat}
    (ran : initializeWallet owners threshold minDelay maxDelay state = .ok next) :
    Books next ∧ ∀ id, next.transactions.get id = none := by
  simp only [initializeWallet, deduplicate, call_ok] at ran
  obtain ⟨closed, -, pos, enough, ordered, seen, deduplicated, rfl⟩ := ran
  obtain ⟨rfl, apart⟩ := deduplicate_spec deduplicated
  have count := books.unopened closed
  have nobody : ∀ owner, state.hasOwner owner = false := by
    intro owner
    rw [← Bool.not_eq_true, books.owners.listed]
    rintro ⟨_, got⟩
    exact absurd (books.owners.below got) (by omega)
  have begun : Enumerates (state.setOwnerCount seen.length).ownerAt 0
      ((state.setOwnerCount seen.length).hasOwner · = true) := count ▸ books.owners
  obtain ⟨ownerAt, isOwner, folded, listed⟩ := persist_enumerates (apart nodup_nil) begun
    fun owner _ => nobody owner
  have persisted : persistOwners seen state =
      { state.setOwnerCount seen.length with ownerAt, isOwner } := folded
  rw [persisted]
  have gone := books.tallied.unopened closed
  refine ⟨⟨Nat.zero_add seen.length ▸ listed, nofun,
    fun _ => ⟨⟨Nat.pos_of_ne_zero pos, enough⟩, ordered⟩, fun _ => gone, ?_,
    books.tallied.confirmed, books.tallied.counted⟩, gone⟩
  intro id tx got
  cases (gone id).symm.trans got

theorem dispatch_books (books : Books state)
    (ran : dispatch state call = .ok next) : Books next := by
  obtain ⟨_, op⟩ := call
  cases op with
  | initializeWallet =>
    exact (initializeWallet_books books ran).1
  | addOwner =>
    simp only [dispatch, addOwner, call_ok, requireOwner_eq_ok, arith_ok] at ran
    obtain ⟨⟨opened, -⟩, unlisted, -, rfl⟩ := ran
    obtain ⟨⟨pos, enough⟩, ordered⟩ := books.bounds opened
    refine ⟨?_, fun closed => absurd (opened.symm.trans closed) (by simp),
      fun _ => ⟨⟨pos, Nat.le_succ_of_le enough⟩, ordered⟩, { books.tallied with }⟩
    exact (books.owners.push (by rw [unlisted]; exact Bool.false_ne_true)).congr
      fun _ => has_set
  | removeOwner _ owner =>
    simp only [dispatch, removeOwner, call_ok, requireOwner_eq_ok,
      checkedSubUnsigned_eq_ok] at ran
    obtain ⟨⟨opened, -⟩, listed, -, _, ⟨_, rfl⟩, enough, rfl⟩ := ran
    obtain ⟨⟨pos, -⟩, ordered⟩ := books.bounds opened
    have count : state.ownerCount = state.ownerCount - 1 + 1 := by omega
    have dropped := dropOwner_enumerates (count ▸ books.owners) count listed
    obtain ⟨_, frame⟩ := dropOwner_frame state owner (state.ownerCount - 1)
    rw [frame] at dropped ⊢
    exact ⟨dropped.congr fun _ => has_remove,
      fun closed => absurd (opened.symm.trans closed) (by simp),
      fun _ => ⟨⟨pos, enough⟩, ordered⟩, { books.tallied with }⟩
  | changeThreshold =>
    simp only [dispatch, changeThreshold, call_ok, requireOwner_eq_ok] at ran
    obtain ⟨⟨opened, -⟩, pos, enough, rfl⟩ := ran
    exact { books with
      bounds := fun _ =>
        ⟨⟨Nat.pos_of_ne_zero pos, enough⟩, (books.bounds opened).2⟩
      tallied := { books.tallied with } }
  | updateDelays =>
    simp only [dispatch, updateDelays, call_ok, requireOwner_eq_ok] at ran
    obtain ⟨⟨opened, -⟩, ordered, rfl⟩ := ran
    exact { books with
      bounds := fun _ => ⟨(books.bounds opened).1, ordered⟩
      tallied := { books.tallied with } }
  | _ =>
    obtain ⟨_, _, filing⟩ := dispatch_filing books.tallied ran trivial
    exact books.filing filing

theorem books_empty : Books ({} : State Address) where
  owners := ⟨nofun, fun _ _ => rfl, nofun, fun _ => ⟨nofun, fun ⟨_, got⟩ => by cases got⟩⟩
  unopened := fun _ => rfl
  bounds := nofun
  tallied := ⟨fun _ _ => rfl, nofun, nofun, nofun⟩

/-- In every state of every run an initialized wallet has its owners at the indices below their
number and no others, a threshold that they can reach and an ordered window of delays, and each
transaction counts the addresses that have confirmed it. -/
theorem owners_hold (calls : List (Env Address contract × Operation Address)) :
    (machine contract).Always (fun state => state.initialized = true → OwnersHold state) {} calls :=
  (always_invariant (fun _ _ _ => dispatch_books) books_empty calls).mono fun _ books opened =>
    ⟨books.owners, (books.bounds opened).1, (books.bounds opened).2, books.tallied.counted⟩

end SorobanPlayground.MultisigWallet
