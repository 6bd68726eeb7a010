import SorobanPlayground.Royalty.Escrow

/-! # Books of royalties

What is credited to an account and not paid is pending. Per agreement the pending balances are
what is received and not claimed, and the contract holds them.
-/

namespace SorobanPlayground.Royalty

open List

variable {Address : Type} [DecidableEq Address] {contract : Address}

/-- What is received and not claimed of an agreement in a token. -/
def outstandingIn (token : Address) (_ : Nat) (agreement : Agreement Address) : Int :=
  if agreement.token = token then agreement.totalReceived - agreement.totalClaimed else 0

structure Agreed (state : State Address) (id : Nat) (agreement : Agreement Address) : Prop where
  named : agreement.id = id ∧ id < state.agreementCount
  accepted : validateTree agreement.nodes = .ok ()
  balanced : state.pendingTotal id agreement = agreement.totalReceived - agreement.totalClaimed
  claimed : 0 ≤ agreement.totalClaimed
  fits : agreement.totalReceived ≤ i128Max

/-- Everything that is credited and not paid is pending and covered. -/
structure Books (contract : Address) (account : State Address × Record Address) : Prop where
  started : account.1.admin.isSome = false → account.1.agreements = ∅
  agreed : ∀ id agreement, account.1.agreements.get id = some agreement →
    Agreed account.1 id agreement
  covered : ∀ token,
    account.1.agreements.total (outstandingIn token) ≤ account.1.ledger token contract
  nonneg : ∀ key, 0 ≤ account.1.pendingOf key
  owned : ∀ key, account.1.pendingOf key ≠ 0 → ∃ agreement,
    account.1.agreements.get key.1 = some agreement ∧
      key.2 ∈ agreement.nodes.map RoyaltyNode.account
  once : ∀ key, account.2.credited key = account.2.paid key + account.1.pendingOf key

variable {tokens : TokenHost Address} {state next : State Address} {record later : Record Address}
  {agreement written : Agreement Address} {id : Nat}

theorem Books.write (books : Books contract (state, record)) (set : next.admin.isSome = true)
    (agreements : next.agreements = state.agreements.set id written)
    (count : state.agreementCount ≤ next.agreementCount)
    (others : ∀ key, key.1 ≠ id → next.pendingOf key = state.pendingOf key)
    (agreed : Agreed next id written) (nonneg : ∀ account, 0 ≤ next.pendingOf (id, account))
    (owned : ∀ account, next.pendingOf (id, account) ≠ 0 →
      account ∈ written.nodes.map RoyaltyNode.account)
    (covered : ∀ token, next.agreements.total (outstandingIn token) ≤ next.ledger token contract)
    (once : ∀ key, later.credited key = later.paid key + next.pendingOf key) :
    Books contract (next, later) where
  started unset := by
    rw [set] at unset
    cases unset
  agreed other found got := by
    rw [agreements, get_set] at got
    split at got
    · next same =>
      cases got
      rwa [same]
    · next ne =>
      have before := books.agreed other found got
      have same : next.pendingTotal other found = state.pendingTotal other found := by
        refine congrArg List.sum (map_congr_left fun node _ => ?_)
        exact others (other, node.account) ne
      exact { before with
        named := ⟨before.named.1, before.named.2.trans_le count⟩
        balanced := same.trans before.balanced }
  covered := covered
  nonneg key := by
    by_cases same : key.1 = id
    · subst same
      exact nonneg key.2
    · exact (books.nonneg key).trans_eq (others key same).symm
  owned key pending := by
    rw [agreements, get_set]
    by_cases same : key.1 = id
    · subst same
      exact ⟨written, if_pos rfl, owned key.2 pending⟩
    · rw [others key same] at pending
      rw [if_neg same]
      exact books.owned key pending
  once := once

theorem outstanding_set (got : state.agreements.get id = some agreement) (token : Address) :
    (state.agreements.set id written).total (outstandingIn token) =
      state.agreements.total (outstandingIn token) - outstandingIn token id agreement +
        outstandingIn token id written :=
  total_set_of_stored _ got written

section

variable (books : Books contract (state, record))
include books

theorem Books.pendingOf_of_absent (gone : state.agreements.get id = none) (account : Address) :
    state.pendingOf (id, account) = 0 := by
  by_contra pending
  obtain ⟨_, got, -⟩ := books.owned (id, account) pending
  rw [gone] at got
  cases got

theorem Books.set (got : state.agreements.get id = some agreement) : state.admin.isSome = true := by
  by_contra unset
  rw [books.started (Bool.eq_false_iff.mpr unset)] at got
  cases got

theorem Books.fresh : state.agreements.get state.agreementCount = none := by
  cases got : state.agreements.get state.agreementCount with
  | none => rfl
  | some found => exact absurd (books.agreed _ found got).named.2 (Nat.lt_irrefl _)

end

omit [DecidableEq Address] in
theorem zip_accounts {nodes : List (RoyaltyNode Address)} {credits : List Int}
    (length : credits.length = nodes.length) :
    ((nodes.zip credits).map fun entry => entry.1.account) = nodes.map RoyaltyNode.account := by
  calc (nodes.zip credits).map (fun entry => entry.1.account)
      = ((nodes.zip credits).map Prod.fst).map RoyaltyNode.account := map_map.symm
    _ = nodes.map RoyaltyNode.account := by rw [map_fst_zip length.ge]

theorem deposited_get {credits : List (RoyaltyNode Address × Int)}
    (apart : (credits.map fun entry => entry.1.account).Nodup) (key : Nat × Address) :
    ((putPending state.pending id (credits.map fun entry =>
        (entry.1, state.pendingOf (id, entry.1.account) + entry.2))).get key).getD 0 =
      state.pendingOf key + if key.1 = id then creditTo credits key.2 else 0 :=
  @putPending_get _ _ credits id state.pending (fun account => state.pendingOf (id, account))
    apart (fun _ _ => rfl) key

theorem Agreed.credits (agreed : Agreed state id agreement) {amount : Int} {credits : List Int}
    (pos : 0 < amount) (allocated : allocate agreement.nodes amount = .ok credits) :
    ((agreement.nodes.zip credits).map fun entry => entry.1.account) =
        agreement.nodes.map RoyaltyNode.account ∧
      ((agreement.nodes.zip credits).map Prod.snd).sum = amount ∧
      ∀ entry ∈ agreement.nodes.zip credits, 0 ≤ entry.2 := by
  obtain ⟨_, waterfall⟩ := (validateTree_tree agreed.accepted).waterfall pos allocated
  refine ⟨zip_accounts waterfall.length, ?_, fun entry mem => ?_⟩
  · rw [map_snd_zip waterfall.length.le]
    exact waterfall.sum
  · exact waterfall.nonneg entry.2 (of_mem_zip mem).2

theorem Agreed.distinct (agreed : Agreed state id agreement) :
    (agreement.nodes.map RoyaltyNode.account).Nodup := by
  have apart := (validateTree_tree agreed.accepted).distinct
  rwa [take_length] at apart

theorem Books.deposited (books : Books contract (state, record)) {env : Env Address contract}
    {payer : Address} {amount : Int} {credits : List Int} {ledger : TokenLedger Address}
    (outside : payer ≠ contract) (pos : 0 < amount) (got : state.agreements.get id = some agreement)
    (allocated : allocate agreement.nodes amount = .ok credits)
    (fits : InI128 (agreement.totalReceived + amount))
    (paid : Moved [⟨agreement.token, payer, contract, amount⟩] state.ledger ledger)
    (pending : next.pending = putPending state.pending id
      ((agreement.nodes.zip credits).map fun entry =>
        (entry.1, state.pendingOf (id, entry.1.account) + entry.2)))
    (agreements : next.agreements = state.agreements.set agreement.id { agreement with
      totalReceived := agreement.totalReceived + amount })
    (rest : next.admin = state.admin ∧ next.agreementCount = state.agreementCount ∧
      next.ledger = ledger) :
    Books contract (next, record.follow state (env, .deposit payer id amount) next) := by
  have agreed := books.agreed id agreement got
  have apart := agreed.distinct
  obtain ⟨accounts, sum, credited⟩ := agreed.credits pos allocated
  have listed : ∀ entry ∈ agreement.nodes.zip credits,
      entry.1.account ∈ agreement.nodes.map RoyaltyNode.account := fun entry mem =>
    mem_map.mpr ⟨entry.1, (of_mem_zip mem).1, rfl⟩
  have after : ∀ key, next.pendingOf key = state.pendingOf key +
      if key.1 = id then creditTo (agreement.nodes.zip credits) key.2 else 0 := by
    intro key
    rw [← deposited_get (by rw [accounts]; exact apart), ← pending]
    rfl
  have due : creditsFor state id amount = agreement.nodes.zip credits := by
    unfold creditsFor
    rw [got]
    dsimp only
    rw [allocated]
  obtain ⟨admin, count, balances⟩ := rest
  obtain ⟨named, within⟩ := agreed.named
  subst named
  have total : next.pendingTotal agreement.id agreement =
      state.pendingTotal agreement.id agreement + amount := by
    have split : ∀ node ∈ agreement.nodes, next.pendingOf (agreement.id, node.account) =
        state.pendingOf (agreement.id, node.account) +
          creditTo (agreement.nodes.zip credits) node.account := fun node _ =>
      (after (agreement.id, node.account)).trans (congrArg _ (if_pos rfl))
    have all := sum_creditTo apart listed
    rw [map_map, sum] at all
    unfold State.pendingTotal
    rw [map_congr_left split, sum_map_add]
    exact congrArg _ all
  refine books.write ?_ agreements count.ge (fun key ne => ?_) ⟨⟨rfl, ?_⟩, ?_, ?_, ?_, ?_⟩
    (fun account => ?_) (fun account held => ?_) (fun token => ?_) fun key => ?_
  · rw [admin]
    exact books.set got
  · rw [after, if_neg ne, add_zero]
  · rw [count]
    exact within
  · exact agreed.accepted
  · have balanced := agreed.balanced
    change next.pendingTotal agreement.id agreement = _
    dsimp only at balanced ⊢
    omega
  · exact agreed.claimed
  · exact fits.2
  · rw [after, if_pos rfl]
    exact add_nonneg (books.nonneg _) (creditTo_nonneg credited account)
  · rw [after, if_pos rfl] at held
    by_contra unlisted
    rw [creditTo_eq_zero (by rw [accounts]; exact unlisted), add_zero] at held
    obtain ⟨_, same, mem⟩ := books.owned _ held
    cases got.symm.trans same
    exact unlisted mem
  · have before := books.covered token
    have balance := paid token contract
    rw [movedBy_cons, movedBy_nil] at balance
    dsimp only at before balance
    rw [transferDelta_in outside] at balance
    rw [agreements, balances, outstanding_set got]
    unfold outstandingIn at before ⊢
    dsimp only
    rw [if_congr (eq_comm : token = agreement.token ↔ _) rfl rfl] at balance
    split_ifs at balance ⊢ <;> omega
  · have before := books.once key
    dsimp only [Record.follow] at before ⊢
    rw [after, due, before]
    exact add_assoc _ _ _

variable {recipient : Address} {amount : Int}

theorem claimOne_spec (ran : claimOne contract tokens id recipient state = .ok (amount, next)) :
    ∃ agreement ledger, state.agreements.get id = some agreement ∧
      amount = state.pendingOf (id, recipient) ∧ 0 < amount ∧
      Moved [⟨agreement.token, contract, recipient, amount⟩] state.ledger ledger ∧
      next = { state with
        pending := state.pending.set (id, recipient) 0
        agreements := state.agreements.set agreement.id { agreement with
          totalClaimed := agreement.totalClaimed + amount }
        ledger } := by
  simp only [claimOne, loadAgreement, ensureInitialized, call_ok, arith_ok,
    not_le] at ran
  obtain ⟨agreement, ⟨-, got⟩, pos, -, ledger, paid, rfl, rfl⟩ := ran
  exact ⟨agreement, ledger, got, rfl, pos, pay_moved paid, rfl⟩

theorem claimed_pendingOf (pending : next.pending = state.pending.set (id, recipient) 0)
    (key : Nat × Address) :
    next.pendingOf key = if key = (id, recipient) then 0 else state.pendingOf key := by
  unfold State.pendingOf
  rw [pending, get_set]
  split <;> rfl

theorem claimed_pendingTotal (apart : (agreement.nodes.map RoyaltyNode.account).Nodup)
    (listed : recipient ∈ agreement.nodes.map RoyaltyNode.account)
    (settled : ∀ account, next.pendingOf (id, account) =
      if account = recipient then 0 else state.pendingOf (id, account)) :
    next.pendingTotal id agreement =
      state.pendingTotal id agreement - state.pendingOf (id, recipient) := by
  have accounts : ∀ current : State Address, current.pendingTotal id agreement =
      ((agreement.nodes.map RoyaltyNode.account).map fun account =>
        current.pendingOf (id, account)).sum := by
    intro current
    rw [map_map]
    rfl
  rw [accounts, accounts, funext settled, sum_map_ite_eq, count_eq_one_of_mem apart
    listed, one_nsmul, zero_sub, neg_add_eq_sub]

theorem Books.claimed (books : Books contract (state, record))
    (ran : claimOne contract tokens id recipient state = .ok (amount, next)) :
    Books contract (next, record.pay state [(id, recipient)]) := by
  obtain ⟨agreement, ledger, got, rfl, pos, paid, same⟩ := claimOne_spec ran
  have agreed := books.agreed id agreement got
  have apart := agreed.distinct
  obtain ⟨_, held, listed⟩ := books.owned (id, recipient) pos.ne'
  cases got.symm.trans held
  dsimp only at listed
  obtain ⟨named, within⟩ := agreed.named
  subst named
  have pending : next.pending = state.pending.set (agreement.id, recipient) 0 := by rw [same]
  have agreements : next.agreements = state.agreements.set agreement.id { agreement with
      totalClaimed := agreement.totalClaimed + state.pendingOf (agreement.id, recipient) } := by
    rw [same]
  have after := claimed_pendingOf pending
  have own : ∀ account, next.pendingOf (agreement.id, account) =
      if account = recipient then 0 else state.pendingOf (agreement.id, account) := by
    intro account
    rw [after]
    exact if_congr (by rw [Prod.mk.injEq, and_iff_right rfl]) rfl rfl
  have total := claimed_pendingTotal apart listed own
  refine books.write ?_ agreements ?_ (fun key ne => ?_) ⟨⟨rfl, ?_⟩, ?_, ?_, ?_, ?_⟩
    (fun account => ?_) (fun account pends => ?_) (fun token => ?_) fun key => ?_
  · rw [same]
    exact books.set got
  · rw [same]
  · rw [after, if_neg]
    rintro rfl
    exact ne rfl
  · rw [same]
    exact within
  · exact agreed.accepted
  · have balanced := agreed.balanced
    change next.pendingTotal agreement.id agreement = _
    dsimp only at balanced ⊢
    omega
  · exact add_nonneg agreed.claimed pos.le
  · exact agreed.fits
  · rw [own]
    split
    · exact le_rfl
    · exact books.nonneg _
  · rw [own] at pends
    split at pends
    · exact absurd rfl pends
    · obtain ⟨_, known, mem⟩ := books.owned _ pends
      cases got.symm.trans known
      exact mem
  · have before := books.covered token
    have left := paid.leaves pos.le token
    have balances : next.ledger = ledger := by rw [same]
    dsimp only at before
    rw [agreements, balances, outstanding_set got]
    unfold outstandingIn at before ⊢
    dsimp only
    split_ifs at left ⊢ <;> omega
  · have before := books.once key
    dsimp only [Record.pay] at before ⊢
    rw [after, before, if_congr mem_singleton rfl rfl]
    split
    · rw [add_zero]
    · rw [add_zero]

variable {key : Nat × Address}

theorem Record.pay_cons {middle : State Address} {keys : List (Nat × Address)} (fresh : key ∉ keys)
    (kept : ∀ other ∈ keys, middle.pendingOf other = state.pendingOf other) :
    (record.pay state [key]).pay middle keys = record.pay state (key :: keys) := by
  unfold Record.pay
  congr 1
  funext other
  dsimp only
  by_cases listed : other ∈ keys
  · have ne : other ≠ key := fun same => fresh (same ▸ listed)
    rw [if_neg (mt mem_singleton.mp ne), if_pos listed, if_pos (mem_cons_of_mem key
      listed), kept other listed, add_zero]
  · rw [if_neg listed, add_zero]
    refine congrArg _ (if_congr ?_ rfl rfl)
    rw [mem_singleton, mem_cons, or_iff_left listed]

theorem Record.pay_skip (nothing : state.pendingOf key = 0)
    (keys : List (Nat × Address)) : record.pay state (key :: keys) = record.pay state keys := by
  unfold Record.pay
  congr 1
  funext other
  refine congrArg _ ?_
  by_cases same : other = key
  · subst same
    rw [nothing, ite_self, ite_self]
  · exact if_congr (mem_cons.trans (or_iff_right same)) rfl rfl

variable {recipients : List Address}

omit [DecidableEq Address] in
theorem mem_keysOf : (id, recipient) ∈ keysOf id recipients ↔ recipient ∈ recipients := by
  unfold keysOf
  rw [mem_map]
  constructor
  · rintro ⟨_, mem, same⟩
    exact (Prod.mk.inj same).2 ▸ mem
  · exact fun mem => ⟨recipient, mem, rfl⟩

theorem claimOne_kept (ran : claimOne contract tokens id recipient state = .ok (amount, next))
    (ne : key ≠ (id, recipient)) : next.pendingOf key = state.pendingOf key := by
  obtain ⟨_, _, -, -, -, -, same⟩ := claimOne_spec ran
  have pending : next.pending = state.pending.set (id, recipient) 0 := by rw [same]
  rw [claimed_pendingOf pending, if_neg ne]

theorem claimOne_kept_keys (ran : claimOne contract tokens id recipient state = .ok (amount, next))
    (fresh : recipient ∉ recipients) :
    ∀ key ∈ keysOf id recipients, next.pendingOf key = state.pendingOf key := by
  intro key mem
  refine claimOne_kept ran ?_
  rintro rfl
  exact fresh (mem_keysOf.mp mem)

theorem collects_kept (collects : Collects contract tokens id recipients state next)
    (unlisted : key ∉ keysOf id recipients) : next.pendingOf key = state.pendingOf key := by
  induction collects with
  | nil => rfl
  | paid _ _ _ _ _ _ claims _ ih =>
    obtain ⟨ne, others⟩ := not_or.mp (mt mem_cons.mpr unlisted)
    exact (ih others).trans (claimOne_kept claims ne)
  | skipped _ _ _ _ _ _ ih =>
    exact ih fun mem => unlisted (mem_cons_of_mem _ mem)

section

variable (books : Books contract (state, record))
include books

theorem Books.nothing (nothing : ¬ 0 < state.pendingOf key) : state.pendingOf key = 0 :=
  le_antisymm (not_lt.mp nothing) (books.nonneg key)

theorem Books.collects (apart : recipients.Nodup)
    (collects : Collects contract tokens id recipients state next) :
    Books contract (next, record.pay state (keysOf id recipients)) := by
  induction collects generalizing record with
  | nil state =>
    have same : record.pay state (keysOf id []) = record := record.pay_nil state
    rw [same]
    exact books
  | paid _ _ _ _ _ _ claims _ ih =>
    obtain ⟨fresh, apart⟩ := nodup_cons.mp apart
    have done := ih (books.claimed claims) apart
    rw [Record.pay_cons (mt mem_keysOf.mp fresh) (claimOne_kept_keys claims fresh)] at done
    exact done
  | skipped _ _ _ _ nothing _ ih =>
    have done := ih books (nodup_cons.mp apart).2
    rw [← Record.pay_skip (books.nothing nothing)] at done
    exact done

theorem Books.claimed_paid
    (ran : claimOne contract tokens id recipient state = .ok (amount, next)) :
    Moved (payout contract state (id, recipient)) state.ledger next.ledger ∧
      ∀ account, next.pendingOf (id, account) = state.pendingOf (id, account) →
        payout contract next (id, account) = payout contract state (id, account) := by
  obtain ⟨agreement, _, got, rfl, -, paid, same⟩ := claimOne_spec ran
  have named := (books.agreed id agreement got).named.1
  subst named
  have held : next.agreements.get agreement.id = some { agreement with
      totalClaimed := agreement.totalClaimed + state.pendingOf (agreement.id, recipient) } := by
    rw [same]
    exact get_set_self _ _ _
  refine ⟨?_, fun account kept => ?_⟩
  · unfold payout
    rw [got, same]
    exact paid
  · unfold payout
    rw [got, held, kept]
    rfl

theorem Books.collects_paid (apart : recipients.Nodup)
    (collects : Collects contract tokens id recipients state next) :
    Moved ((keysOf id recipients).flatMap (payout contract state)) state.ledger next.ledger := by
  induction collects generalizing record with
  | nil => exact moved_nil _
  | paid _ recipients state middle _ _ claims _ ih =>
    obtain ⟨fresh, apart⟩ := nodup_cons.mp apart
    have later := ih (books.claimed claims) apart
    obtain ⟨first, same⟩ := books.claimed_paid claims
    have legs : (keysOf id recipients).flatMap (payout contract middle) =
        (keysOf id recipients).flatMap (payout contract state) := by
      refine flatMap_congr fun key mem => ?_
      have kept := claimOne_kept_keys claims fresh key mem
      obtain ⟨account, -, rfl⟩ := mem_map.mp mem
      exact same account kept
    rw [legs] at later
    exact first.append later
  | skipped recipient _ state _ nothing _ ih =>
    have later := ih books (nodup_cons.mp apart).2
    have still : Moved (payout contract state (id, recipient)) state.ledger state.ledger := by
      unfold payout
      rw [books.nothing nothing]
      intro read holder
      cases state.agreements.get id with
      | none => exact (add_zero _).symm
      | some => simp [transferDelta]
    exact still.append later

end

variable {call : Env Address contract × Operation Address}

section

variable (books : Books contract (state, record))

include books

theorem Books.step (effect : Effect contract tokens state call next) :
    Books contract (next, record.follow state call next) := by
  cases effect with
  | quiet _ next agreements pending admin gains _ followed =>
    have same : ∀ key, next.pendingOf key = state.pendingOf key := by
      intro key
      unfold State.pendingOf
      rw [pending]
    rw [followed]
    refine ⟨fun unset => ?_, fun id agreement got => ?_, fun token => ?_, fun key => ?_,
      fun key held => ?_, fun key => ?_⟩
    · rw [agreements]
      refine books.started (Bool.eq_false_iff.mpr fun set => ?_)
      exact Bool.eq_false_iff.mp unset (admin set).1
    · rw [agreements] at got
      have before := books.agreed id agreement got
      refine { before with named := ⟨before.named.1, ?_⟩, balanced := ?_ }
      · rw [(admin (books.set got)).2]
        exact before.named.2
      · rw [← before.balanced]
        exact congrArg List.sum (map_congr_left fun node _ => same (id, node.account))
    · rw [agreements]
      exact (books.covered token).trans (by exact_mod_cast gains token)
    · exact (books.nonneg key).trans_eq (same key).symm
    · rw [same] at held
      rw [agreements]
      exact books.owned key held
    · rw [same]
      exact books.once key
  | created env owner token reference nodes started accepted =>
    have unpaid := books.pendingOf_of_absent books.fresh
    have followed : ∀ next, record.follow state
        (env, .createAgreement owner token reference nodes) next = record :=
      fun _ => record.pay_nil state
    rw [followed]
    refine books.write started rfl (Nat.le_succ _) (fun _ _ => rfl)
      ⟨⟨rfl, Nat.lt_succ_self _⟩, accepted, ?_, le_rfl, (by decide : (0 : Int) ≤ i128Max)⟩
      (fun account => books.nonneg _) (fun account held => absurd (unpaid account) held)
      (fun read => ?_) books.once
    · refine sum_eq_zero fun pending mem => ?_
      obtain ⟨node, -, rfl⟩ := mem_map.mp mem
      exact unpaid node.account
    · rw [total_set_of_absent _ _ _ books.fresh]
      have nothing : outstandingIn read state.agreementCount (⟨state.agreementCount, owner, token,
          reference, nodes, true, 0, 0⟩ : Agreement Address) = 0 := ite_self 0
      rw [nothing, zero_add]
      exact books.covered read
  | closed env id agreement got =>
    have agreed := books.agreed id agreement got
    have followed : ∀ next, record.follow state (env, .closeAgreement id) next = record :=
      fun _ => record.pay_nil state
    obtain ⟨named, within⟩ := agreed.named
    subst named
    rw [followed]
    refine books.write (books.set got) rfl le_rfl (fun _ _ => rfl)
      { agreed with named := ⟨rfl, within⟩ } (fun account => books.nonneg _)
      (fun account held => ?_) (fun read => ?_) books.once
    · obtain ⟨_, same, mem⟩ := books.owned _ held
      cases got.symm.trans same
      exact mem
    · have same : outstandingIn read agreement.id { agreement with active := false } =
          outstandingIn read agreement.id agreement := rfl
      rw [outstanding_set got, same, sub_add_cancel]
      exact books.covered read
  | deposited _ _ _ _ _ _ _ outside pos got allocated fits paid =>
    exact books.deposited outside pos got allocated fits paid rfl rfl ⟨rfl, rfl, rfl⟩
  | collected _ _ _ _ apart named _ followed collects =>
    rw [followed, named]
    exact books.collects apart collects

theorem Books.lawful : Lawful contract (state, record) where
  accepted id agreement got := (books.agreed id agreement got).accepted
  balanced id agreement got := (books.agreed id agreement got).balanced
  covered token := by
    refine (total_congr _ fun id agreement got => ?_).trans_le (books.covered token)
    exact if_congr Iff.rfl (books.agreed id agreement got).balanced rfl
  nonneg := books.nonneg
  owned := books.owned
  once := books.once

theorem Books.paid (effect : Effect contract tokens state call next) :
    Moved (payments contract state call.2) state.ledger next.ledger := by
  have still : Moved [] state.ledger state.ledger := moved_nil state.ledger
  cases effect with
  | quiet _ _ _ _ _ _ paid => exact paid
  | created => exact still
  | closed => exact still
  | deposited _ _ _ _ _ _ _ _ _ got _ _ paid =>
    dsimp only [payments]
    rw [got]
    exact paid
  | collected _ _ _ _ apart named due _ collects =>
    rw [due, named]
    exact books.collects_paid apart collects

theorem Books.keeps (effect : Effect contract tokens state call next)
    (unclaimed : key ∉ claimants call.2) : state.pendingOf key ≤ next.pendingOf key := by
  cases effect with
  | quiet _ _ _ pending =>
    unfold State.pendingOf
    rw [pending]
  | created => exact le_rfl
  | closed => exact le_rfl
  | deposited _ _ id _ agreement _ _ _ pos got allocated =>
    have agreed := books.agreed id agreement got
    obtain ⟨accounts, -, credited⟩ := agreed.credits pos allocated
    refine le_of_le_of_eq ?_ (deposited_get (by rw [accounts]; exact agreed.distinct) key).symm
    refine le_add_of_nonneg_right ?_
    split
    · exact creditTo_nonneg credited key.2
    · exact le_rfl
  | collected _ _ _ _ _ named _ _ collects =>
    rw [named] at unclaimed
    exact (collects_kept collects unclaimed).ge

end

end SorobanPlayground.Royalty
