import SorobanPlayground.MultisigWallet.OwnerSet

/-! # Authority of an execution

An executed transaction should carry a live confirmation of at least the
threshold of owners, both taken at the time of execution. The wallet checks the
cached number of confirmations when the last of them arrives and never again. It
does not look at the queued transactions when it removes an owner or changes the
threshold, so the property holds in the runs in which these two calls leave the
confirmations of queued transactions valid.
-/

namespace SorobanPlayground.MultisigWallet

variable {Address : Type} [DecidableEq Address] {contract : Address}

/-- The owners with a recorded confirmation for a transaction. -/
def State.liveSigners (state : State Address) (txId : Nat) : Finset Address :=
  state.isOwner.keys.filter fun owner => state.isConfirmed txId owner = true

variable {txId : Nat}

theorem State.mem_liveSigners {state : State Address} {owner : Address} :
    owner ∈ state.liveSigners txId ↔
      state.hasOwner owner = true ∧ state.isConfirmed txId owner = true := by
  unfold State.liveSigners
  rw [Finset.mem_filter, Finmap.mem_keys, ← Finmap.lookup_isSome]
  rfl

variable {state : State Address}

theorem State.liveSigners_eq
    (signed : ∀ owner, state.isConfirmed txId owner = true → state.hasOwner owner = true) :
    state.liveSigners txId = state.signers txId := by
  ext owner
  rw [State.mem_liveSigners, State.mem_signers, and_iff_right_of_imp (signed owner)]

/-- The threshold of owners has a live confirmation for a transaction. -/
def Authorized (state : State Address) (txId : Nat) : Prop :=
  state.threshold ≤ (state.liveSigners txId).card

/-- The cached numbers and statuses agree with the flags. -/
structure Accounted (state : State Address) : Prop where
  unopened : state.initialized = false → ∀ id, state.transactions.get id = none
  named : ∀ id tx, state.transactions.get id = some tx → tx.id = id ∧ id < state.txCount
  confirmed : ∀ id owner, state.isConfirmed id owner = true →
    ∃ tx, state.transactions.get id = some tx
  signedByOwners : ∀ id tx owner, state.transactions.get id = some tx → tx.Open →
    state.isConfirmed id owner = true → state.hasOwner owner = true
  counted : ∀ id tx, state.transactions.get id = some tx → tx.Open →
    tx.confirmations = (state.liveSigners id).card
  ready : ∀ id tx, state.transactions.get id = some tx → tx.status = .ready →
    state.threshold ≤ tx.confirmations

theorem Accounted.of_tallied (tallied : Tallied state)
    (signed : ∀ id tx owner, state.transactions.get id = some tx → tx.Open →
      state.isConfirmed id owner = true → state.hasOwner owner = true)
    (ready : ∀ id tx, state.transactions.get id = some tx → tx.status = .ready →
      state.threshold ≤ tx.confirmations) : Accounted state where
  unopened := tallied.unopened
  named := tallied.named
  confirmed := tallied.confirmed
  signedByOwners := signed
  counted := by
    intro id tx got isOpen
    rw [State.liveSigners_eq fun owner => signed id tx owner got isOpen]
    exact tallied.counted id tx got
  ready := ready

variable {next : State Address}

theorem Accounted.filing (accounted : Accounted state) (tallied : Tallied state)
    {updated : Transaction Address} (filing : Filing txId updated state next) : Accounted next := by
  refine .of_tallied (tallied.filing filing) (fun id tx owner got isOpen flagged => ?_)
    fun id tx got isReady => ?_
  · rw [filing.transactions] at got
    unfold State.hasOwner
    rw [filing.owners]
    split at got
    · next same =>
      subst same
      cases got
      rcases filing.signers owner flagged with isOwner | before
      · exact isOwner
      · obtain ⟨tx, found⟩ := accounted.confirmed id owner before
        exact accounted.signedByOwners id tx owner found (filing.stays_open isOpen tx found) before
    · next ne =>
      rw [filing.flags id owner ne] at flagged
      exact accounted.signedByOwners id tx owner got isOpen flagged
  · rw [filing.transactions] at got
    rw [filing.threshold]
    split at got
    · cases got
      exact filing.ready isReady
    · exact accounted.ready id tx got isReady

/-- The two calls that change who must have confirmed leave the confirmations of
queued transactions valid: a removed owner holds none, and a new threshold is
met by every transaction that is ready. -/
def KeepsConfirmations (state : State Address) (call : Env Address contract × Operation Address) :
    Prop :=
  match call.2 with
  | .removeOwner _ owner => ∀ id tx, state.transactions.get id = some tx → tx.Open →
      state.isConfirmed id owner = false
  | .changeThreshold _ newThreshold => ∀ id tx, state.transactions.get id = some tx →
      tx.status = .ready → newThreshold ≤ (state.liveSigners id).card
  | _ => True

/-- A call that executes a transaction finds it authorized. -/
def ExecutesAuthorized (state : State Address) (call : Env Address contract × Operation Address) :
    Prop :=
  match call.2 with
  | .executeTransaction _ txId => Authorized state txId
  | _ => True

variable {call : Env Address contract × Operation Address}

theorem dispatch_accounted (books : Books state) (accounted : Accounted state)
    (keeps : KeepsConfirmations state call) (ran : dispatch state call = .ok next) :
    Accounted next := by
  have tallied : Tallied next := (dispatch_books books ran).tallied
  obtain ⟨_, op⟩ := call
  cases op with
  | initializeWallet =>
    have gone := (initializeWallet_books books ran).2
    refine .of_tallied tallied (fun id tx _ got => ?_) fun id tx got => ?_
    · cases (gone id).symm.trans got
    · cases (gone id).symm.trans got
  | addOwner =>
    simp only [dispatch, addOwner, call_ok, requireOwner_eq_ok, arith_ok] at ran
    obtain ⟨-, -, -, rfl⟩ := ran
    refine .of_tallied tallied (fun id tx owner got isOpen flagged => ?_) accounted.ready
    exact FiniteMap.has_set.mpr (.inr (accounted.signedByOwners id tx owner got isOpen flagged))
  | removeOwner _ removed =>
    simp only [dispatch, removeOwner, call_ok, requireOwner_eq_ok,
      checkedSubUnsigned_eq_ok] at ran
    obtain ⟨-, -, -, lastIndex, ⟨-, -⟩, -, rfl⟩ := ran
    obtain ⟨_, dropped⟩ := dropOwner_frame state removed lastIndex
    rw [dropped] at tallied ⊢
    refine .of_tallied tallied (fun id tx owner got isOpen flagged => ?_) accounted.ready
    refine FiniteMap.has_remove.mpr
      ⟨?_, accounted.signedByOwners id tx owner got isOpen flagged⟩
    rintro rfl
    cases (keeps id tx got isOpen).symm.trans flagged
  | changeThreshold =>
    simp only [dispatch, changeThreshold, call_ok] at ran
    obtain ⟨_, -, -, -, rfl⟩ := ran
    refine .of_tallied tallied accounted.signedByOwners fun id tx got isReady => ?_
    rw [accounted.counted id tx got (.inr isReady)]
    exact keeps id tx got isReady
  | updateDelays =>
    simp only [dispatch, updateDelays, call_ok] at ran
    obtain ⟨_, -, -, rfl⟩ := ran
    exact .of_tallied tallied accounted.signedByOwners accounted.ready
  | _ =>
    obtain ⟨_, _, filing⟩ := dispatch_filing books.tallied ran trivial
    exact accounted.filing books.tallied filing

theorem executesAuthorized_of_accounted {state : State Address} (accounted : Accounted state)
    {next : State Address} (ran : dispatch state call = .ok next) :
    ExecutesAuthorized state call := by
  obtain ⟨_, op⟩ := call
  cases op with
  | executeTransaction _ txId =>
    simp only [dispatch, executeTransaction, State.getTx, call_ok, requireOwner_eq_ok] at ran
    obtain ⟨-, tx, got, isReady, -, -⟩ := ran
    show state.threshold ≤ (state.liveSigners txId).card
    rw [← accounted.counted txId tx got (.inr isReady)]
    exact accounted.ready txId tx got isReady
  | _ => trivial

theorem accounted_empty : Accounted ({} : State Address) where
  unopened := fun _ _ => rfl
  named := fun _ _ got => by cases got
  confirmed := fun _ _ flagged => by cases flagged
  signedByOwners := fun _ _ _ got => by cases got
  counted := fun _ _ got => by cases got
  ready := fun _ _ got => by cases got

/-- In every run whose removals and threshold changes leave the confirmations of
queued transactions valid, each executed transaction carries at that moment the
live confirmations of at least the threshold of owners. -/
theorem executions_authorized (calls : List (Env Address contract × Operation Address))
    (keeps : (machine contract).Meets KeepsConfirmations {} calls) :
    (machine contract).Meets ExecutesAuthorized {} calls :=
  meets_of_invariant
    (fun _ _ _ (held : Books _ ∧ Accounted _) kept ran =>
      ⟨dispatch_books held.1 ran, dispatch_accounted held.1 held.2 kept ran⟩)
    (fun _ _ _ held _ ran => executesAuthorized_of_accounted held.2 ran)
    ⟨books_empty, accounted_empty⟩ keeps

instance (state : State Address) (txId : Nat) : Decidable (Authorized state txId) :=
  inferInstanceAs (Decidable (_ ≤ _))

def byOwners : Env Nat 0 := { timestamp := 5, auths := [1, 2, 3], contract_silent := zero_notMem_three_signers }

theorem executions_authorized_after_removal :
    (machine 0).Meets ExecutesAuthorized {}
      [(byOwners, .initializeWallet [1, 2, 3] 2 0 0), (byOwners, .removeOwner 1 3),
        (byOwners, .submitTransaction 1 9 7 "pay" 0), (byOwners, .confirmTransaction 1 0),
        (byOwners, .confirmTransaction 2 0), (byOwners, .executeTransaction 1 0)] := by
  refine executions_authorized _ ⟨fun _ => trivial, fun _ => ?_, fun _ => trivial, fun _ => trivial,
    fun _ => trivial, fun _ => trivial, trivial⟩
  intro id tx got
  cases got

/-- Two of three owners confirm a transaction. Then the threshold is raised to
three, or one of the two is removed; the transaction is executed all the same. -/
theorem stale_confirmations_execute :
    ¬ (machine 0).Meets ExecutesAuthorized {}
      [(byOwners, .initializeWallet [1, 2, 3] 2 0 0),
        (byOwners, .submitTransaction 1 9 7 "pay" 0), (byOwners, .confirmTransaction 1 0),
        (byOwners, .confirmTransaction 2 0), (byOwners, .changeThreshold 1 3),
        (byOwners, .executeTransaction 1 0)] ∧
    ¬ (machine 0).Meets ExecutesAuthorized {}
      [(byOwners, .initializeWallet [1, 2, 3] 2 0 0),
        (byOwners, .submitTransaction 1 9 7 "pay" 0), (byOwners, .confirmTransaction 1 0),
        (byOwners, .confirmTransaction 2 0), (byOwners, .removeOwner 1 2),
        (byOwners, .executeTransaction 1 0)] := by
  constructor
  · rintro ⟨-, -, -, -, -, authorized, -⟩
    exact absurd (authorized ⟨_, rfl⟩) (by decide : ¬ Authorized _ 0)
  · rintro ⟨-, -, -, -, -, authorized, -⟩
    exact absurd (authorized ⟨_, rfl⟩) (by decide : ¬ Authorized _ 0)

end SorobanPlayground.MultisigWallet
