import SorobanPlayground.Royalty.Allocation

/-! # The escrow of royalties

What is credited and paid to each account is recorded beside the state. A deposit credits the
accounts of a tree, and a claim or a batch of claims pays what is pending.
-/

namespace SorobanPlayground.Royalty

open List

variable {Address : Type} [DecidableEq Address] {contract : Address}

/-- What was credited and paid to each account of each agreement. -/
structure Record (Address : Type) where
  credited : Nat × Address → Int := fun _ => 0
  paid : Nat × Address → Int := fun _ => 0

def creditTo (credits : List (RoyaltyNode Address × Int)) (account : Address) : Int :=
  (credits.map fun entry => if entry.1.account = account then entry.2 else 0).sum

variable (state : State Address)

/-- The nodes of an agreement with what a deposit credits them. -/
def creditsFor (id : Nat) (amount : Int) : List (RoyaltyNode Address × Int) :=
  match state.agreements.get id with
  | none => []
  | some agreement =>
      match allocate agreement.nodes amount with
      | .ok credits => agreement.nodes.zip credits
      | .error _ => []

/-- The accounts of a batch in an agreement. -/
def keysOf (id : Nat) (recipients : List Address) : List (Nat × Address) :=
  recipients.map fun recipient => (id, recipient)

/-- The accounts that a call claims for. -/
def claimants : Operation Address → List (Nat × Address)
  | .claim id recipient => [(id, recipient)]
  | .claimBatch _ id recipients => keysOf id recipients
  | _ => []

/-- The payment of what is pending for an account. -/
def payout (contract : Address) (state : State Address) (key : Nat × Address) :
    List (Leg Address) :=
  (state.agreements.get key.1).elim [] fun agreement =>
    [⟨agreement.token, contract, key.2, state.pendingOf key⟩]

/-- What a call is to pay. -/
def payments (contract : Address) (state : State Address) (operation : Operation Address) :
    List (Leg Address) :=
  match operation with
  | .deposit payer id amount =>
      (state.agreements.get id).elim [] fun agreement =>
        [⟨agreement.token, payer, contract, amount⟩]
  | .transferTokens token source destination amount => [⟨token, source, destination, amount⟩]
  | operation => (claimants operation).flatMap (payout contract state)

/-- The record after accounts are paid what is pending. -/
def Record.pay (record : Record Address) (state : State Address) (keys : List (Nat × Address)) :
    Record Address :=
  { record with
    paid := fun key => record.paid key + if key ∈ keys then state.pendingOf key else 0 }

def Record.follow (call : Env Address contract × Operation Address) (_ : State Address)
    (record : Record Address) : Record Address :=
  match call.2 with
  | .deposit _ id amount =>
      { record with
        credited := fun key => record.credited key +
          if key.1 = id then creditTo (creditsFor state id amount) key.2 else 0 }
  | operation => record.pay state (claimants operation)

/-- The contract beside which credits and payments are recorded. -/
def recording (tokens : TokenHost Address) (contract : Address) :
    CallMachine (State Address × Record Address) (Env Address contract × Operation Address)
      (Failure Error) :=
  (machine tokens contract).withGhost Record.follow

/-- The pending balances of the accounts of an agreement. -/
def State.pendingTotal (id : Nat) (agreement : Agreement Address) : Int :=
  (agreement.nodes.map fun node => state.pendingOf (id, node.account)).sum

/-- The pending balances of an agreement in a token. -/
def State.pendingIn (token : Address) (id : Nat) (agreement : Agreement Address) : Int :=
  if agreement.token = token then state.pendingTotal id agreement else 0

/-- All pending balances are in order. -/
structure Lawful (contract : Address) (account : State Address × Record Address) : Prop where
  accepted : ∀ id agreement, account.1.agreements.get id = some agreement →
    validateTree agreement.nodes = .ok ()
  balanced : ∀ id agreement, account.1.agreements.get id = some agreement →
    account.1.pendingTotal id agreement = agreement.totalReceived - agreement.totalClaimed
  covered : ∀ token,
    account.1.agreements.total (account.1.pendingIn token) ≤ account.1.ledger token contract
  nonneg : ∀ key, 0 ≤ account.1.pendingOf key
  owned : ∀ key, account.1.pendingOf key ≠ 0 → ∃ agreement,
    account.1.agreements.get key.1 = some agreement ∧
      key.2 ∈ agreement.nodes.map RoyaltyNode.account
  once : ∀ key, account.2.credited key = account.2.paid key + account.1.pendingOf key

/-- A call makes its payments and no others, and lowers only what it claims. -/
structure Rightly (tokens : TokenHost Address) (account : State Address × Record Address)
    (call : Env Address contract × Operation Address) : Prop where
  paid : Moved (payments contract account.1 call.2) account.1.ledger
    ((recording tokens contract).apply account call).1.ledger
  keeps : ∀ key ∉ claimants call.2,
    account.1.pendingOf key ≤ ((recording tokens contract).apply account call).1.pendingOf key

variable {credits : List (RoyaltyNode Address × Int)}

theorem creditTo_nonneg (nonneg : ∀ entry ∈ credits, 0 ≤ entry.2) (account : Address) :
    0 ≤ creditTo credits account := by
  refine sum_nonneg fun credit mem => ?_
  obtain ⟨entry, listed, rfl⟩ := mem_map.mp mem
  split
  · exact nonneg entry listed
  · exact le_rfl

theorem creditTo_eq_zero {account : Address}
    (unlisted : account ∉ credits.map fun entry => entry.1.account) :
    creditTo credits account = 0 := by
  refine sum_eq_zero fun credit mem => ?_
  obtain ⟨entry, listed, rfl⟩ := mem_map.mp mem
  exact if_neg fun same => unlisted (mem_map.mpr ⟨entry, listed, same⟩)

theorem sum_creditTo {accounts : List Address} (apart : accounts.Nodup)
    (listed : ∀ entry ∈ credits, entry.1.account ∈ accounts) :
    (accounts.map (creditTo credits)).sum = (credits.map Prod.snd).sum := by
  induction credits with
  | nil =>
    refine sum_eq_zero fun credit mem => ?_
    obtain ⟨account, -, rfl⟩ := mem_map.mp mem
    rfl
  | cons entry rest ih =>
    obtain ⟨first, others⟩ := forall_mem_cons.mp listed
    have split : ∀ account, creditTo (entry :: rest) account =
        (if account = entry.1.account then entry.2 else 0) + creditTo rest account := by
      intro account
      rw [if_congr (eq_comm : account = entry.1.account ↔ _) rfl rfl]
      rfl
    rw [funext split, sum_map_add, ih others, map_cons, sum_cons,
      sum_map_ite_eq, count_eq_one_of_mem apart first, one_nsmul, sub_zero,
      sum_map_zero, add_zero]

variable {id : Nat}

theorem putPending_get {store : FiniteMap (Nat × Address) Int} {held : Address → Int}
    (apart : (credits.map fun entry => entry.1.account).Nodup)
    (agree : ∀ entry ∈ credits, (store.get (id, entry.1.account)).getD 0 = held entry.1.account)
    (key : Nat × Address) :
    ((putPending store id
        (credits.map fun entry => (entry.1, held entry.1.account + entry.2))).get key).getD 0 =
      (store.get key).getD 0 + if key.1 = id then creditTo credits key.2 else 0 := by
  induction credits generalizing store with
  | nil => exact (add_zero _).symm.trans (congrArg _ (ite_self 0).symm)
  | cons entry rest ih =>
    obtain ⟨fresh, apart⟩ := nodup_cons.mp apart
    obtain ⟨first, others⟩ := forall_mem_cons.mp agree
    have kept : ∀ other ∈ rest, ((store.set (id, entry.1.account)
        (held entry.1.account + entry.2)).get (id, other.1.account)).getD 0 =
          held other.1.account := by
      intro other mem
      rw [get_set_of_ne, others other mem]
      intro same
      have listed : other.1.account ∈ rest.map fun entry => entry.1.account :=
        mem_map.mpr ⟨other, mem, rfl⟩
      rw [(Prod.mk.inj same).2] at listed
      exact fresh listed
    have later := ih apart kept
    change ((putPending (store.set (id, entry.1.account) (held entry.1.account + entry.2)) id
      (rest.map fun entry => (entry.1, held entry.1.account + entry.2))).get key).getD 0 = _
    rw [later, get_set]
    have split : creditTo (entry :: rest) key.2 =
        (if entry.1.account = key.2 then entry.2 else 0) + creditTo rest key.2 := rfl
    rw [split]
    by_cases same : key = (id, entry.1.account)
    · subst same
      rw [if_pos rfl, if_pos rfl, if_pos rfl, if_pos rfl, first]
      exact add_assoc _ _ _
    · rw [if_neg same]
      by_cases agreement : key.1 = id
      · rw [if_pos agreement, if_pos agreement, if_neg, zero_add]
        intro account
        exact same (Prod.ext agreement account.symm)
      · rw [if_neg agreement, if_neg agreement]

/-- The recipients are paid one after another, except those for whom nothing is pending. -/
inductive Collects (contract : Address) (tokens : TokenHost Address) (id : Nat) :
    List Address → State Address → State Address → Prop
  | nil (state : State Address) : Collects contract tokens id [] state state
  | paid (recipient : Address) (recipients : List Address) (state middle next : State Address)
      (amount : Int) (claims : claimOne contract tokens id recipient state = .ok (amount, middle))
      (rest : Collects contract tokens id recipients middle next) :
      Collects contract tokens id (recipient :: recipients) state next
  | skipped (recipient : Address) (recipients : List Address) (state next : State Address)
      (nothing : ¬ 0 < state.pendingOf (id, recipient))
      (rest : Collects contract tokens id recipients state next) :
      Collects contract tokens id (recipient :: recipients) state next

/-- What a call does to the agreements and the pending balances. -/
inductive Effect (contract : Address) (tokens : TokenHost Address) (state : State Address) :
    Env Address contract × Operation Address → State Address → Prop
  | quiet (call : Env Address contract × Operation Address) (next : State Address)
      (agreements : next.agreements = state.agreements) (pending : next.pending = state.pending)
      (admin : state.admin.isSome = true →
        next.admin.isSome = true ∧ next.agreementCount = state.agreementCount)
      (gains : ∀ token, state.ledger token contract ≤ next.ledger token contract)
      (paid : Moved (payments contract state call.2) state.ledger next.ledger)
      (record : ∀ record, Record.follow state call next record = record) :
      Effect contract tokens state call next
  | created (env : Env Address contract) (owner token : Address) (reference : String)
      (nodes : List (RoyaltyNode Address)) (started : state.admin.isSome = true)
      (accepted : validateTree nodes = .ok ()) :
      Effect contract tokens state (env, .createAgreement owner token reference nodes)
        { state with
          agreements := state.agreements.set state.agreementCount {
            id := state.agreementCount
            owner, token, reference, nodes
            active := true
            totalReceived := 0
            totalClaimed := 0 }
          agreementCount := state.agreementCount + 1 }
  | closed (env : Env Address contract) (id : Nat) (agreement : Agreement Address)
      (stored : state.agreements.get id = some agreement) :
      Effect contract tokens state (env, .closeAgreement id) { state with
        agreements := state.agreements.set agreement.id { agreement with active := false } }
  | deposited (env : Env Address contract) (payer : Address) (id : Nat) (amount : Int)
      (agreement : Agreement Address) (credits : List Int) (ledger : TokenLedger Address)
      (outside : payer ≠ contract) (positive : 0 < amount)
      (stored : state.agreements.get id = some agreement)
      (allocated : allocate agreement.nodes amount = .ok credits)
      (fits : InI128 (agreement.totalReceived + amount))
      (paid : Moved [⟨agreement.token, payer, contract, amount⟩] state.ledger ledger) :
      Effect contract tokens state (env, .deposit payer id amount) { state with
        pending := putPending state.pending id
          ((agreement.nodes.zip credits).map fun entry =>
            (entry.1, state.pendingOf (id, entry.1.account) + entry.2))
        agreements := state.agreements.set agreement.id { agreement with
          totalReceived := agreement.totalReceived + amount }
        ledger }
  | collected (call : Env Address contract × Operation Address) (next : State Address) (id : Nat)
      (recipients : List Address) (distinct : recipients.Nodup)
      (named : claimants call.2 = keysOf id recipients)
      (due : payments contract state call.2 = (claimants call.2).flatMap (payout contract state))
      (record : ∀ record,
        Record.follow state call next record = record.pay state (claimants call.2))
      (collects : Collects contract tokens id recipients state next) :
      Effect contract tokens state call next

variable {tokens : TokenHost Address} {env : Env Address contract} {state next : State Address}

@[simp] theorem Record.pay_nil (record : Record Address) (state : State Address) :
    record.pay state [] = record := by
  unfold Record.pay
  congr 1
  exact add_zero _

theorem zip_map_zip {α β γ : Type} (left : List α) (right : List β) (f : α × β → γ) :
    left.zip ((left.zip right).map f) = (left.zip right).map fun entry => (entry.1, f entry) := by
  induction left generalizing right with
  | nil => rfl
  | cons _ _ ih =>
    cases right with
    | nil => rfl
    | cons _ right => exact congrArg _ (ih right)

theorem deposit_effect {payer : Address} {amount : Int}
    (ran : deposit tokens env payer id amount state = .ok next) :
    Effect contract tokens state (env, .deposit payer id amount) next := by
  simp only [deposit, ensureInitialized, ensureNotPaused, loadAgreement, call_ok, arith_ok,
    not_le] at ran
  obtain ⟨-, -, signed, pos, agreement, ⟨-, got⟩, -, credits, allocated, newPending,
    eq, fits, ledger, paid, rfl⟩ := ran
  have balances : newPending = (agreement.nodes.zip credits).map fun entry =>
      state.pendingOf (id, entry.1.account) + entry.2 := by
    refine mapM_eq_map (fun entry result credited => ?_) eq
    exact (checkedAdd_eq_ok.mp credited).2.symm
  rw [balances, zip_map_zip]
  exact Effect.deposited env payer id amount agreement credits ledger (env.ne_contract signed)
    pos got allocated fits (pay_moved paid)

variable {recipients : List Address}

theorem collects_of_foldlM {start total : Int}
    (ran : recipients.foldlM (claimNext contract tokens id) (start, state) = .ok (total, next)) :
    Collects contract tokens id recipients state next := by
  induction recipients generalizing start state with
  | nil =>
    cases ran
    exact Collects.nil _
  | cons recipient recipients ih =>
    obtain ⟨⟨_, _⟩, first, rest⟩ := bind_eq_ok.mp ran
    unfold claimNext at first
    split at first
    · simp only [call_ok] at first
      obtain ⟨_, -, ⟨amount, _⟩, claims, rfl, rfl⟩ := first
      exact Collects.paid recipient recipients _ _ next amount claims (ih rest)
    · next nothing =>
      cases first
      exact Collects.skipped recipient recipients _ next nothing (ih rest)

theorem claim_effect {recipient : Address}
    (ran : (Prod.snd <$> claim tokens env id recipient state) = .ok next) :
    Effect contract tokens state (env, .claim id recipient) next := by
  simp only [claim, ensureInitialized, map_eq_ok, call_ok] at ran
  obtain ⟨⟨amount, _⟩, ⟨-, -, claims⟩, rfl⟩ := ran
  exact Effect.collected _ _ id [recipient] (nodup_singleton _) rfl rfl (fun _ => rfl)
    (Collects.paid recipient [] state _ _ amount claims (Collects.nil _))

theorem claimBatch_effect {operator : Address}
    (ran : (Prod.snd <$> claimBatch tokens env operator id recipients state) = .ok next) :
    Effect contract tokens state (env, .claimBatch operator id recipients) next := by
  simp only [claimBatch, ensureInitialized, map_eq_ok, call_ok] at ran
  obtain ⟨_, ⟨-, -, -, -, apart, ⟨_, _⟩, looped, -, same⟩, rfl⟩ := ran
  cases same
  exact Effect.collected _ _ id recipients apart rfl rfl (fun _ => rfl)
    (collects_of_foldlM looped)

theorem dispatch_effect {call : Env Address contract × Operation Address}
    (ran : dispatch tokens state call = .ok next) : Effect contract tokens state call next := by
  obtain ⟨env, op⟩ := call
  have still : Moved [] state.ledger state.ledger := moved_nil state.ledger
  cases op with
  | initializeRoyalty =>
    simp only [dispatch, initializeRoyalty, call_ok] at ran
    obtain ⟨unset, -, rfl⟩ := ran
    exact Effect.quiet _ _ rfl rfl (absurd · unset) (fun _ => le_rfl) still fun _ =>
      Record.pay_nil _ _
  | setPaused =>
    simp only [dispatch, setPaused, call_ok] at ran
    obtain ⟨_, -, -, rfl⟩ := ran
    exact Effect.quiet _ _ rfl rfl (fun set => ⟨set, rfl⟩) (fun _ => le_rfl) still fun _ =>
      Record.pay_nil _ _
  | createAgreement owner token reference nodes =>
    simp only [dispatch, createAgreement, ensureInitialized, ensureNotPaused, map_eq_ok, call_ok,
      arith_ok] at ran
    obtain ⟨_, ⟨started, -, -, -, ⟨⟩, accepted, -, rfl⟩, rfl⟩ := ran
    exact Effect.created env owner token reference nodes started accepted
  | closeAgreement id =>
    simp only [dispatch, closeAgreement, ensureInitialized, loadAgreement, call_ok] at ran
    obtain ⟨-, agreement, ⟨-, got⟩, -, rfl⟩ := ran
    exact Effect.closed env id agreement got
  | deposit =>
    simp only [dispatch, bind_eq_ok, inI128_eq_ok] at ran
    obtain ⟨_, ⟨-, rfl⟩, ran⟩ := ran
    exact deposit_effect ran
  | claim => exact claim_effect ran
  | claimBatch => exact claimBatch_effect ran
  | transferTokens =>
    simp only [dispatch, payAs, call_ok] at ran
    obtain ⟨_, ⟨signed, paid⟩, rfl⟩ := ran
    refine Effect.quiet _ _ rfl rfl (fun set => ⟨set, rfl⟩) (fun read => ?_)
      (pay_moved paid) fun _ => Record.pay_nil _ _
    exact_mod_cast tokens.pay_le paid (env.ne_contract signed).symm read

end SorobanPlayground.Royalty
