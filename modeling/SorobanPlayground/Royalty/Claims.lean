import SorobanPlayground.Royalty.Books

/-! # Claims of royalties

Whoever has a pending balance can claim it, alone or in a batch, whatever others have claimed
before.
-/

namespace SorobanPlayground.Royalty

open List

variable {Address : Type} [DecidableEq Address] {contract : Address} {tokens : TokenHost Address}
  {state next : State Address} {record : Record Address} {id : Nat} {env : Env Address contract}

section

variable (books : Books contract (state, record))
include books

variable {recipient : Address}

theorem Books.claimable (pending : 0 < state.pendingOf (id, recipient)) :
    ∃ agreement, state.agreements.get id = some agreement ∧
      0 ≤ agreement.totalClaimed ∧
      agreement.totalClaimed + state.pendingOf (id, recipient) ≤ i128Max ∧
      state.pendingOf (id, recipient) ≤ state.ledger agreement.token contract := by
  obtain ⟨agreement, got, listed⟩ := books.owned (id, recipient) pending.ne'
  have agreed := books.agreed id agreement got
  have outstanding : ∀ other found, state.agreements.get other = some found →
      0 ≤ found.totalReceived - found.totalClaimed := by
    intro other found held
    rw [← (books.agreed other found held).balanced]
    refine sum_nonneg fun balance mem => ?_
    obtain ⟨node, -, rfl⟩ := mem_map.mp mem
    exact books.nonneg _
  have part : state.pendingOf (id, recipient) ≤
      agreement.totalReceived - agreement.totalClaimed := by
    rw [← agreed.balanced]
    obtain ⟨node, mem, rfl⟩ := mem_map.mp listed
    refine single_le_sum (fun balance mem => ?_) _ (mem_map.mpr ⟨node, mem, rfl⟩)
    obtain ⟨other, -, rfl⟩ := mem_map.mp mem
    exact books.nonneg _
  have covered : outstandingIn agreement.token id agreement ≤
      state.ledger agreement.token contract := by
    refine (weight_le_total (fun other found held => ?_) got).trans
      (books.covered agreement.token)
    unfold outstandingIn
    split
    · exact outstanding other found held
    · exact le_rfl
  have own : outstandingIn agreement.token id agreement =
      agreement.totalReceived - agreement.totalClaimed := if_pos rfl
  have fits := agreed.fits
  exact ⟨agreement, got, agreed.claimed, by omega, by omega⟩

theorem Books.claimOne_succeeds (pays : tokens.PaysCovered)
    (pending : 0 < state.pendingOf (id, recipient)) :
    ∃ next, claimOne contract tokens id recipient state =
      .ok (state.pendingOf (id, recipient), next) := by
  obtain ⟨agreement, got, claimed, fits, covered⟩ := books.claimable pending
  obtain ⟨ledger, paid⟩ := pays.pay recipient pending.le covered
  have range : InI128 (agreement.totalClaimed + state.pendingOf (id, recipient)) :=
    ⟨(by decide : i128Min ≤ 0).trans (add_nonneg claimed pending.le), fits⟩
  simp only [claimOne, loadAgreement, ensureInitialized, call_ok, arith_ok]
  exact ⟨_, agreement, ⟨books.set got, got⟩, not_le.mpr pending, range, ledger,
    paid, trivial, rfl⟩

theorem Books.claim_succeeds (pays : tokens.PaysCovered) (signed : recipient ∈ env.auths)
    (pending : 0 < state.pendingOf (id, recipient)) :
    ∃ next, claim tokens env id recipient state = .ok (state.pendingOf (id, recipient), next) := by
  obtain ⟨_, got, -⟩ := books.owned (id, recipient) pending.ne'
  obtain ⟨next, claims⟩ := books.claimOne_succeeds pays pending
  refine ⟨next, ?_⟩
  simp only [claim, ensureInitialized, call_ok]
  exact ⟨books.set got, signed, claims⟩

end

/-- What is pending for the recipients of a batch. -/
def State.batchTotal (state : State Address) (id : Nat) (recipients : List Address) : Int :=
  (recipients.map fun recipient => state.pendingOf (id, recipient)).sum

variable {recipients : List Address}

theorem Books.batch_succeeds (books : Books contract (state, record)) (pays : tokens.PaysCovered)
    (apart : recipients.Nodup) {start : Int} (nonneg : 0 ≤ start)
    (booked : ∀ agreement, state.agreements.get id = some agreement →
      start ≤ agreement.totalClaimed) :
    ∃ next, recipients.foldlM (claimNext contract tokens id) (start, state) =
      .ok (start + state.batchTotal id recipients, next) := by
  induction recipients generalizing start state record with
  | nil => exact ⟨state, congrArg (fun sum => Except.ok (sum, state)) (add_zero start).symm⟩
  | cons recipient recipients ih =>
    obtain ⟨fresh, apart⟩ := nodup_cons.mp apart
    have split : state.batchTotal id (recipient :: recipients) =
        state.pendingOf (id, recipient) + state.batchTotal id recipients := rfl
    rw [foldlM_cons]
    unfold claimNext
    split
    · next pending =>
      obtain ⟨agreement, got, claimed, _, -⟩ := books.claimable pending
      obtain ⟨middle, claims⟩ := books.claimOne_succeeds pays pending
      have kept : middle.batchTotal id recipients = state.batchTotal id recipients := by
        refine congrArg List.sum (map_congr_left fun other mem => ?_)
        exact claimOne_kept_keys claims fresh (id, other) (mem_keysOf.mpr mem)
      have earlier := booked agreement got
      have range : InI128 (start + state.pendingOf (id, recipient)) :=
        ⟨(by decide : i128Min ≤ 0).trans (add_nonneg nonneg pending.le), by omega⟩
      have after : ∀ other, middle.agreements.get id = some other →
          start + state.pendingOf (id, recipient) ≤ other.totalClaimed := by
        intro other held
        obtain ⟨_, _, same, -, -, -, rfl⟩ := claimOne_spec claims
        cases got.symm.trans same
        rw [(books.agreed id agreement got).named.1] at held
        rw [get_set_self] at held
        cases held
        exact add_le_add_left earlier _
      obtain ⟨next, looped⟩ := ih (books.claimed claims) apart
        (add_nonneg nonneg pending.le) after
      refine ⟨next, ?_⟩
      rw [split, ← add_assoc, ← kept]
      simp only [call_ok, arith_ok]
      exact ⟨_, ⟨range, (_, middle), claims, rfl⟩, looped⟩
    · next nothing =>
      obtain ⟨next, looped⟩ := ih books apart nonneg booked
      refine ⟨next, ?_⟩
      rw [split, books.nothing nothing, zero_add]
      exact looped

theorem Books.claimBatch_succeeds (books : Books contract (state, record))
    (pays : tokens.PaysCovered) {operator : Address} (signed : operator ∈ env.auths)
    (apart : recipients.Nodup) (few : recipients.length ≤ maxBatch)
    (pending : ∃ recipient ∈ recipients, 0 < state.pendingOf (id, recipient)) :
    ∃ next, claimBatch tokens env operator id recipients state =
      .ok (state.batchTotal id recipients, next) := by
  obtain ⟨recipient, mem, pos⟩ := pending
  obtain ⟨_, got, -⟩ := books.owned (id, recipient) pos.ne'
  obtain ⟨next, looped⟩ := books.batch_succeeds pays apart le_rfl fun other held =>
    (books.agreed id other held).claimed
  rw [zero_add] at looped
  have some : state.batchTotal id recipients ≠ 0 := by
    refine (pos.trans_le ?_).ne'
    refine single_le_sum (fun balance listed => ?_) _
      (mem_map.mpr ⟨recipient, mem, rfl⟩)
    obtain ⟨_, -, rfl⟩ := mem_map.mp listed
    exact books.nonneg _
  refine ⟨next, ?_⟩
  simp only [claimBatch, ensureInitialized, call_ok]
  exact ⟨books.set got, signed, ne_nil_of_mem mem, not_lt.mpr few, apart, _, looped,
    some, rfl, rfl⟩

/-- Any claim of a pending balance succeeds, alone and in a batch. -/
structure Claimable (contract : Address) (tokens : TokenHost Address) (state : State Address) :
    Prop where
  claim : ∀ (env : Env Address contract) (id : Nat) (recipient : Address),
    recipient ∈ env.auths → 0 < state.pendingOf (id, recipient) →
    ∃ next, claim tokens env id recipient state = .ok (state.pendingOf (id, recipient), next)
  batch : ∀ (env : Env Address contract) (operator : Address) (id : Nat)
    (recipients : List Address), operator ∈ env.auths → recipients.Nodup →
    recipients.length ≤ maxBatch →
    (∃ recipient ∈ recipients, 0 < state.pendingOf (id, recipient)) →
    ∃ next, claimBatch tokens env operator id recipients state =
      .ok (state.batchTotal id recipients, next)

theorem books_empty (ledger : TokenLedger Address) : Books contract ({ ledger }, {}) where
  started := fun _ => rfl
  agreed := nofun
  covered := fun _ => Int.natCast_nonneg _
  nonneg := fun _ => le_rfl
  owned := fun _ held => absurd rfl held
  once := fun _ => rfl

theorem books_step (account : State Address × Record Address)
    (call : Env Address contract × Operation Address) (next : State Address × Record Address)
    (books : Books contract account)
    (ran : (recording tokens contract).exec account call = .ok next) : Books contract next :=
  withGhost_step ran fun _ done => books.step (dispatch_effect done)

theorem rightly_step (account : State Address × Record Address)
    (call : Env Address contract × Operation Address) (next : State Address × Record Address)
    (books : Books contract account)
    (ran : (recording tokens contract).exec account call = .ok next) :
    Rightly tokens account call := by
  have effect := dispatch_effect (withGhost_exec_eq_ok.mp ran).1
  have applied := apply_of_ok _ ran
  refine ⟨?_, fun key unclaimed => ?_⟩
  · rw [applied]
    exact books.paid effect
  · rw [applied]
    exact books.keeps effect unclaimed

/-- An accepted tree passes every amount down without loss. In every run of the contract all
pending balances are covered and paid rightly, every claim of a pending balance succeeds, and a
failed deposit changes nothing. -/
theorem waterfalls_conserve (pays : tokens.PaysCovered) (ledger : TokenLedger Address)
    (calls : List (Env Address contract × Operation Address)) :
    (∀ (nodes : List (RoyaltyNode Address)) (amount : Int) (credits : List Int),
      validateTree nodes = .ok () → 0 < amount → allocate nodes amount = .ok credits →
      ∃ incoming, Waterfall nodes amount incoming credits) ∧
    (recording tokens contract).Always (Lawful contract) ({ ledger }, {}) calls ∧
    (recording tokens contract).Meets (Rightly tokens) ({ ledger }, {}) calls ∧
    (recording tokens contract).Always (fun account => Claimable contract tokens account.1)
      ({ ledger }, {}) calls ∧
    ∀ (state : State Address) (env : Env Address contract) (payer : Address) (id : Nat)
      (amount : Int) (failure : Failure Error),
      dispatch tokens state (env, .deposit payer id amount) = .error failure →
      (machine tokens contract).apply state (env, .deposit payer id amount) = state := by
  have initial : Books contract (({ ledger }, {}) : State Address × Record Address) :=
    books_empty ledger
  have always : (recording tokens contract).Always (Books contract) ({ ledger }, {}) calls :=
    always_invariant books_step initial calls
  refine ⟨?_, ?_, ?_, ?_, ?_⟩
  · intro nodes amount credits accepted pos allocated
    exact (validateTree_tree accepted).waterfall pos allocated
  · exact always.mono fun _ books => books.lawful
  · exact meets_of_step books_step rightly_step initial calls
  · exact always.mono fun _ books => ⟨fun _ _ _ signed pending =>
      books.claim_succeeds pays signed pending, fun _ _ _ _ signed distinct few pending =>
      books.claimBatch_succeeds pays signed distinct few pending⟩
  · intro state env payer id amount failure failed
    unfold CallMachine.apply
    rw [show (machine tokens contract).exec state (env, .deposit payer id amount) = .error failure
      from failed]

/-! A deposit of 7 units into a tree of three accounts, of which one claims. -/

/-- A call that the addresses 1 and 2 authorize. -/
def signed : Env Nat 0 := { timestamp := 0, auths := [1, 2], contract_silent := zero_notMem_two_signers }

/-- The payer 2 holds 7 units of the token 9. -/
def funded : TokenLedger Nat := fun token holder => if token = 9 ∧ holder = 2 then 7 else 0

def sharing : List (Env Nat 0 × Operation Nat) :=
  [(signed, .initializeRoyalty 1),
    (signed, .createAgreement 1 9 "recording"
      [⟨3, none, 10000⟩, ⟨4, some 0, 6000⟩, ⟨5, some 1, 2500⟩]),
    (signed, .deposit 2 0 7), (signed, .claimBatch 1 0 [3, 5])]

theorem waterfalls_conserve_sharing :
    (∀ (nodes : List (RoyaltyNode Nat)) (amount : Int) (credits : List Int),
      validateTree nodes = .ok () → 0 < amount → allocate nodes amount = .ok credits →
      ∃ incoming, Waterfall nodes amount incoming credits) ∧
    (recording standardHost 0).Always (Lawful 0) ({ ledger := funded }, {}) sharing ∧
    (recording standardHost 0).Meets (Rightly standardHost) ({ ledger := funded }, {}) sharing ∧
    (recording standardHost 0).Always (fun account => Claimable 0 standardHost account.1)
      ({ ledger := funded }, {}) sharing ∧
    ∀ (state : State Nat) (env : Env Nat 0) (payer : Nat) (id : Nat) (amount : Int)
      (failure : Failure Error),
      dispatch standardHost state (env, .deposit payer id amount) = .error failure →
      (machine standardHost 0).apply state (env, .deposit payer id amount) = state :=
  waterfalls_conserve standardHost_paysCovered funded sharing

end SorobanPlayground.Royalty
