import SorobanPlayground.DaoTreasury.Contract

/-! # Who authorized an execution

Minutes are kept beside the state: when a transaction was proposed, who approved it in which
role and on which terms, which threshold was in force when it was queued, and how often it
was executed. An executed transaction was approved on its own terms by that many different
operators. The contract does not look at their roles and at the threshold again when it is
executed, and the asset is the choice of the admin who executes it.
-/

namespace SorobanPlayground.DaoTreasury

open Function

variable {Address : Type} [DecidableEq Address] {contract : Address}

/-- An approval: by whom, in which role, and of which amount to whom. -/
structure Vote (Address : Type) where
  approver : Address
  role : Option Role
  terms : Option (Int × Option Address)

/-- What happened to each transaction. -/
structure Minutes (Address : Type) where
  proposedAt : Nat → Option Nat := fun _ => none
  votes : Nat → List (Vote Address) := fun _ => []
  quorum : Nat → Option Nat := fun _ => none
  executions : Nat → Nat := fun _ => 0

variable (state : State Address)

def voteOf (signer : Address) (txId : Nat) : Vote Address where
  approver := signer
  role := (state.signers.get signer).map Signer.role
  terms := (state.txs.get txId).map fun tx => (tx.amount, tx.recipient)

/-- The threshold is noted when the transaction is queued. -/
def noteQuorum (state next : State Address) (txId : Nat) (quorum : Nat → Option Nat) :
    Nat → Option Nat :=
  if (next.txs.get txId).map Transaction.status = some .queued then
    Function.update quorum txId (some state.getThreshold)
  else quorum

/-- The minutes after a call. -/
def Minutes.record (call : Env Address contract × Operation Address) (next : State Address)
    (minutes : Minutes Address) : Minutes Address :=
  match call.2 with
  | .propose .. =>
      { minutes with
        proposedAt := Function.update minutes.proposedAt state.txCount (some call.1.timestamp) }
  | .approve signer txId =>
      { minutes with
        votes := Function.update minutes.votes txId (voteOf state signer txId :: minutes.votes txId)
        quorum := noteQuorum state next txId minutes.quorum }
  | .execute _ txId _ =>
      { minutes with
        executions := Function.update minutes.executions txId (minutes.executions txId + 1) }
  | _ => minutes

/-- The contract beside which minutes are kept. -/
def minuted (tokens : TokenHost Address) (contract : Address) :
    CallMachine (State Address × Minutes Address) (Env Address contract × Operation Address)
      (Failure Error) :=
  (machine tokens contract).withGhost Minutes.record

def transferLegs (contract : Address) (amount : Int) :
    Option Address → Option Address → List (Leg Address)
  | some recipient, some tokenAddr => [⟨tokenAddr, contract, recipient, amount⟩]
  | _, _ => []

/-- The minutes show that a transaction may be executed with an amount and a recipient. -/
structure Mandated (minutes : Minutes Address) (txId now : Nat) (amount : Int)
    (recipient : Option Address) : Prop where
  quorate : ∃ quorum, minutes.quorum txId = some quorum ∧ quorum ≤ (minutes.votes txId).length
  distinct : ((minutes.votes txId).map Vote.approver).Nodup
  entitled : ∀ vote ∈ minutes.votes txId, ∃ role, vote.role = some role ∧
    Role.operator.value ≤ role.value
  agreed : ∀ vote ∈ minutes.votes txId, vote.terms = some (amount, recipient)
  waited : ∃ proposed, minutes.proposedAt txId = some proposed ∧ proposed + timelockSecs ≤ now
  once : minutes.executions txId = 0

/-- An execution is by an admin, is mandated, and transfers what was approved in the token of the
admin's choice. -/
def Authorized (tokens : TokenHost Address) (account : State Address × Minutes Address)
    (call : Env Address contract × Operation Address) : Prop :=
  match call.2 with
  | .execute caller txId token =>
      (∃ signer, account.1.signers.get caller = some signer ∧
        Role.admin.value ≤ signer.role.value) ∧
      ∃ amount recipient, Mandated account.2 txId call.1.timestamp amount recipient ∧
        Moved (transferLegs contract amount recipient token) account.1.ledger
          ((minuted tokens contract).apply account call).1.ledger
  | _ => True

/-- The signers with an operator's role whose approval of a transaction is stored. -/
def State.liveApprovers (txId : Nat) : Finset Address :=
  state.signers.keys.filter fun address =>
    state.approvals.has (txId, address) = true ∧
      (state.signers.get address).any fun signer =>
        decide (Role.operator.value ≤ signer.role.value)

/-- The threshold of signers stands behind an execution at its time. -/
def ApprovedNow (call : Env Address contract × Operation Address) : Prop :=
  match call.2 with
  | .execute _ txId _ => state.getThreshold ≤ (state.liveApprovers txId).card
  | _ => True

/-- What the minutes say of a transaction. -/
structure Entered (state : State Address) (minutes : Minutes Address) (txId : Nat)
    (tx : Transaction Address) : Prop where
  named : tx.id = txId
  counted : txId < state.txCount
  proposed : minutes.proposedAt txId = some tx.createdAt
  timelock : tx.executeAfter = tx.createdAt + timelockSecs
  approvals : (minutes.votes txId).length = tx.approvals
  distinct : ((minutes.votes txId).map Vote.approver).Nodup
  recorded : ∀ vote ∈ minutes.votes txId, state.approvals.has (txId, vote.approver) = true
  entitled : ∀ vote ∈ minutes.votes txId, ∃ role, vote.role = some role ∧
    Role.operator.value ≤ role.value
  agreed : ∀ vote ∈ minutes.votes txId, vote.terms = some (tx.amount, tx.recipient)
  quorate : tx.status = .queued →
    ∃ quorum, minutes.quorum txId = some quorum ∧ quorum ≤ tx.approvals
  waiting : tx.status ≠ .executed → minutes.executions txId = 0

/-- The minutes of all transactions are right. -/
structure Kept (account : State Address × Minutes Address) : Prop where
  unproposed : ∀ txId, account.1.txs.get txId = none →
    account.2.votes txId = [] ∧ account.2.executions txId = 0
  entered : ∀ txId tx, account.1.txs.get txId = some tx → Entered account.1 account.2 txId tx

variable {state next : State Address} {minutes later : Minutes Address} {txId : Nat}
  {tx : Transaction Address}

theorem Kept.fresh (kept : Kept (state, minutes)) : state.txs.get state.txCount = none := by
  cases got : state.txs.get state.txCount with
  | none => rfl
  | some tx => exact absurd (kept.entered _ tx got).counted (lt_irrefl _)

theorem Entered.frame (entered : Entered state minutes txId tx)
    (count : state.txCount ≤ next.txCount)
    (approvals : ∀ key, state.approvals.has key = true → next.approvals.has key = true)
    (proposedAt : later.proposedAt txId = minutes.proposedAt txId)
    (votes : later.votes txId = minutes.votes txId)
    (quorum : later.quorum txId = minutes.quorum txId)
    (executions : later.executions txId = minutes.executions txId) :
    Entered next later txId tx := by
  obtain ⟨named, counted, proposed, timelock, length, apart, noted, entitled, agreed, quorate,
    waiting⟩ := entered
  refine ⟨named, counted.trans_le count, proposedAt.trans proposed, timelock, ?_, ?_, ?_, ?_, ?_,
    ?_, ?_⟩
  · rw [votes]
    exact length
  · rw [votes]
    exact apart
  · rw [votes]
    exact fun vote cast => approvals _ (noted vote cast)
  · rw [votes]
    exact entitled
  · rw [votes]
    exact agreed
  · rw [quorum]
    exact quorate
  · rw [executions]
    exact waiting

theorem Kept.frame (kept : Kept (state, minutes)) (txs : next.txs = state.txs)
    (count : next.txCount = state.txCount) (approvals : next.approvals = state.approvals) :
    Kept (next, minutes) where
  unproposed id gone := kept.unproposed id (by rw [← txs]; exact gone)
  entered id tx got := by
    rw [txs] at got
    exact (kept.entered id tx got).frame count.ge (fun key has => by rwa [approvals]) rfl rfl
      rfl rfl

theorem Kept.write (kept : Kept (state, minutes)) (txs : next.txs = state.txs.set txId tx)
    (count : state.txCount ≤ next.txCount)
    (approvals : ∀ key, state.approvals.has key = true → next.approvals.has key = true)
    (proposedAt : ∀ other ≠ txId, later.proposedAt other = minutes.proposedAt other)
    (votes : ∀ other ≠ txId, later.votes other = minutes.votes other)
    (quorum : ∀ other ≠ txId, later.quorum other = minutes.quorum other)
    (executions : ∀ other ≠ txId, later.executions other = minutes.executions other)
    (entered : Entered next later txId tx) : Kept (next, later) where
  unproposed other gone := by
    rw [txs, get_set] at gone
    split at gone
    · cases gone
    · next ne =>
      rw [votes other ne, executions other ne]
      exact kept.unproposed other gone
  entered other wrote got := by
    rw [txs, get_set] at got
    split at got
    · next same =>
      cases got
      rwa [same]
    · next ne =>
      exact (kept.entered other wrote got).frame count approvals
        (proposedAt other ne) (votes other ne) (quorum other ne)
        (executions other ne)

/-- What a call does to the transactions. -/
inductive Effect (state : State Address) :
    Env Address contract × Operation Address → State Address → Prop
  | other (call : Env Address contract × Operation Address) (next : State Address)
      (unrecorded : ∀ minutes, Minutes.record state call next minutes = minutes)
      (txs : next.txs = state.txs) (count : next.txCount = state.txCount)
      (approvals : next.approvals = state.approvals)
      (unexecuted : ∀ caller txId token, call.2 ≠ .execute caller txId token) :
      Effect state call next
  | proposed (env : Env Address contract) (proposer : Address) (description : String)
      (amount : Int) (recipient : Option Address) :
      Effect state (env, .propose proposer description amount recipient) { state with
        txs := state.txs.set state.txCount {
          proposer, description, amount, recipient
          id := state.txCount
          status := .pending
          approvals := 0
          createdAt := env.timestamp
          executeAfter := env.timestamp + timelockSecs
          expiresAt := env.timestamp + expirySecs }
        txCount := state.txCount + 1 }
  | approved (env : Env Address contract) (signer : Address) (txId : Nat)
      (tx : Transaction Address) (member : Signer Address)
      (found : state.signers.get signer = some member)
      (entitled : Role.operator.value ≤ member.role.value)
      (stored : state.txs.get txId = some tx) (pending : tx.status = .pending)
      (fresh : ¬ state.approvals.has (txId, signer) = true) :
      Effect state (env, .approve signer txId) { state with
        approvals := state.approvals.set (txId, signer) true
        txs := state.txs.set tx.id { tx with
          approvals := tx.approvals + 1
          status := statusAfter (tx.approvals + 1) state.getThreshold tx.status } }
  | executed (env : Env Address contract) (caller : Address) (txId : Nat) (token : Option Address)
      (tx : Transaction Address) (member : Signer Address) (ledger : TokenLedger Address)
      (found : state.signers.get caller = some member)
      (entitled : Role.admin.value ≤ member.role.value)
      (stored : state.txs.get txId = some tx) (queued : tx.status = .queued)
      (waited : tx.executeAfter ≤ env.timestamp)
      (paid : Moved (transferLegs contract tx.amount tx.recipient token) state.ledger ledger) :
      Effect state (env, .execute caller txId token) { state with
        txs := state.txs.set tx.id { tx with status := .executed }
        ledger }
  | cancelled (env : Env Address contract) (caller : Address) (txId : Nat)
      (tx : Transaction Address) (stored : state.txs.get txId = some tx)
      (unfinished : tx.status = .pending ∨ tx.status = .queued) :
      Effect state (env, .cancel caller txId)
        { state with txs := state.txs.set tx.id { tx with status := .cancelled } }

variable {tokens : TokenHost Address} {env : Env Address contract}

theorem requireMinRole_eq_ok {address : Address} {least : Role} {result : Unit} :
    requireMinRole state address least = .ok result ↔
      ∃ signer, state.signers.get address = some signer ∧ least.value ≤ signer.role.value := by
  simp only [requireMinRole, roleOf, call_ok, not_lt]
  constructor
  · rintro ⟨_, ⟨signer, found, rfl⟩, enough⟩
    exact ⟨signer, found, enough⟩
  · rintro ⟨signer, found, enough⟩
    exact ⟨_, ⟨signer, found, rfl⟩, enough⟩

theorem propose_effect {proposer : Address} {description : String} {amount : Int}
    {recipient : Option Address}
    (ran : (Prod.snd <$> propose env proposer description amount recipient state) = .ok next) :
    Effect state (env, .propose proposer description amount recipient) next := by
  simp only [propose, ensureInitialized, ensureNotPaused, map_eq_ok, call_ok, requireMinRole_eq_ok,
    arith_ok] at ran
  obtain ⟨_, ⟨-, -, -, -, -, -, -, -, rfl⟩, rfl⟩ := ran
  exact Effect.proposed env proposer description amount recipient

theorem approve_effect {signer : Address} {txId : Nat}
    (ran : approve env signer txId state = .ok next) :
    Effect state (env, .approve signer txId) next := by
  simp only [approve, ensureInitialized, ensureNotPaused, call_ok, requireMinRole_eq_ok,
    arith_ok] at ran
  obtain ⟨-, -, -, ⟨mem, found, entitled⟩, tx, got, pending, -, fresh, -, rfl⟩ :=
    ran
  exact Effect.approved env signer txId tx mem found entitled got pending fresh

variable {token : Option Address}

theorem payRecipient_moved {tx : Transaction Address} {ledger later : TokenLedger Address}
    (ran : payRecipient contract tokens tx token ledger = .ok later) :
    Moved (transferLegs contract tx.amount tx.recipient token) ledger later := by
  unfold payRecipient at ran
  cases named : tx.recipient with
  | none =>
    rw [named] at ran
    cases ran
    exact moved_nil _
  | some recipient =>
    rw [named] at ran
    cases token with
    | none =>
      cases ran
      exact moved_nil _
    | some tokenAddr =>
      simp only [call_ok] at ran
      exact pay_moved ran.2

variable {caller : Address}

theorem execute_effect {txId : Nat} (ran : execute tokens env caller txId token state = .ok next) :
    Effect state (env, .execute caller txId token) next := by
  simp only [execute, ensureInitialized, ensureNotPaused, call_ok, requireMinRole_eq_ok] at ran
  obtain ⟨-, -, -, ⟨mem, found, entitled⟩, tx, got, queued, waited, -, ledger, paid, rfl⟩ :=
    ran
  exact Effect.executed env caller txId token tx mem ledger found entitled got queued
    (not_lt.mp waited) (payRecipient_moved paid)

theorem cancel_effect {txId : Nat} (ran : cancel env caller txId state = .ok next) :
    Effect state (env, .cancel caller txId) next := by
  simp only [cancel, ensureInitialized, call_ok, requireMinRole_eq_ok] at ran
  obtain ⟨-, -, -, tx, got, _, rfl⟩ := ran
  exact Effect.cancelled env caller txId tx got (by tauto)

variable {call : Env Address contract × Operation Address}

theorem dispatch_effect (ran : dispatch tokens state call = .ok next) : Effect state call next := by
  obtain ⟨_, op⟩ := call
  cases op with
  | propose => exact propose_effect ran
  | approve => exact approve_effect ran
  | execute => exact execute_effect ran
  | cancel => exact cancel_effect ran
  | _ =>
    have same : next.txs = state.txs ∧ next.txCount = state.txCount ∧
        next.approvals = state.approvals := by
      apply Outcome.Yields.of_ok ran
      simp only [dispatch, initializeTreasury, pause, unpause, deposit, addSigner, removeSigner,
        changeThreshold, yields_bind, yields_pure, yields_true, setPaused, and_self]
    exact Effect.other _ _ (fun _ => rfl) same.1 same.2.1 same.2.2 nofun

theorem statusAfter_queued {approvals threshold : Nat} {status : TxStatus}
    (pending : status = .pending) :
    statusAfter approvals threshold status = .queued ↔ threshold ≤ approvals := by
  unfold statusAfter
  split <;> simp_all

theorem votes_record_approve (env : Env Address contract) (signer : Address) (txId : Nat) :
    (minutes.record state (env, .approve signer txId) next).votes txId =
      voteOf state signer txId :: minutes.votes txId :=
  update_self _ _ _

section

omit [DecidableEq Address]

variable {quorum : Nat → Option Nat}

theorem noteQuorum_of_ne {txId other : Nat} (ne : other ≠ txId) :
    noteQuorum state next txId quorum other = quorum other := by
  unfold noteQuorum
  split
  · exact update_of_ne ne _ _
  · rfl

theorem noteQuorum_of_queued {txId : Nat} {tx : Transaction Address}
    (got : next.txs.get txId = some tx) (queued : tx.status = .queued) :
    noteQuorum state next txId quorum txId = some state.getThreshold := by
  unfold noteQuorum
  rw [got, Option.map_some, queued, if_pos rfl, update_self]

end

theorem Kept.step (kept : Kept (state, minutes)) (effect : Effect state call next) :
    Kept (next, minutes.record state call next) := by
  cases effect with
  | other _ _ unrecorded txs count approvals =>
    rw [unrecorded]
    exact kept.frame txs count approvals
  | proposed =>
    obtain ⟨unvoted, unexecuted⟩ := kept.unproposed _ kept.fresh
    refine kept.write rfl (Nat.le_succ _) (fun _ has => has)
      (fun other ne => update_of_ne ne _ _) (fun _ _ => rfl)
      (fun _ _ => rfl) (fun _ _ => rfl) ?_
    refine ⟨rfl, Nat.lt_succ_self _, update_self _ _ _, rfl, ?_, ?_, ?_, ?_, ?_, nofun,
      fun _ => unexecuted⟩
    all_goals
      simp only [Minutes.record]
      rw [unvoted]
      simp
  | approved _ _ txId tx mem found entitled got pending fresh =>
    have entered := kept.entered txId tx got
    obtain rfl := entered.named
    have unexecuted : minutes.executions tx.id = 0 :=
      entered.waiting (by rw [pending]; exact TxStatus.noConfusion)
    refine kept.write rfl le_rfl (fun key has => FiniteMap.has_set_of_has has)
      (fun _ _ => rfl) (fun other ne => update_of_ne ne _ _)
      (fun other ne => noteQuorum_of_ne ne) (fun _ _ => rfl) ?_
    refine ⟨rfl, entered.counted, entered.proposed, entered.timelock, ?_, ?_, ?_, ?_, ?_, ?_,
      fun _ => unexecuted⟩
    · rw [votes_record_approve, List.length_cons, entered.approvals]
    · rw [votes_record_approve, List.map_cons, List.nodup_cons]
      refine ⟨fun voted => ?_, entered.distinct⟩
      obtain ⟨vote, cast, by_signer⟩ := List.mem_map.mp voted
      have noted := entered.recorded vote cast
      rw [by_signer] at noted
      exact fresh noted
    · rw [votes_record_approve]
      refine List.forall_mem_cons.mpr ⟨FiniteMap.has_set_self _ _ _, fun vote cast => ?_⟩
      exact FiniteMap.has_set_of_has (entered.recorded vote cast)
    · rw [votes_record_approve]
      refine List.forall_mem_cons.mpr ⟨⟨mem.role, ?_, entitled⟩, entered.entitled⟩
      unfold voteOf
      rw [found]
      rfl
    · rw [votes_record_approve]
      refine List.forall_mem_cons.mpr ⟨?_, entered.agreed⟩
      unfold voteOf
      rw [got]
      rfl
    · intro queued
      refine ⟨state.getThreshold, ?_, (statusAfter_queued pending).mp queued⟩
      exact noteQuorum_of_queued (get_set_self _ _ _) queued
  | executed _ _ txId _ tx _ _ _ _ got =>
    have entered := kept.entered txId tx got
    obtain rfl := entered.named
    refine kept.write rfl le_rfl (fun _ has => has) (fun _ _ => rfl) (fun _ _ => rfl)
      (fun _ _ => rfl) (fun other ne => update_of_ne ne _ _) ?_
    exact ⟨rfl, entered.counted, entered.proposed, entered.timelock, entered.approvals,
      entered.distinct, entered.recorded, entered.entitled, entered.agreed, nofun,
      fun unexecuted => absurd rfl unexecuted⟩
  | cancelled _ _ txId tx got unfinished =>
    have entered := kept.entered txId tx got
    obtain rfl := entered.named
    refine kept.write rfl le_rfl (fun _ has => has) (fun _ _ => rfl) (fun _ _ => rfl)
      (fun _ _ => rfl) (fun _ _ => rfl) ?_
    refine ⟨rfl, entered.counted, entered.proposed, entered.timelock, entered.approvals,
      entered.distinct, entered.recorded, entered.entitled, entered.agreed, nofun, fun _ => ?_⟩
    rcases unfinished with pending | queued
    · exact entered.waiting (by rw [pending]; exact TxStatus.noConfusion)
    · exact entered.waiting (by rw [queued]; exact TxStatus.noConfusion)

theorem Entered.mandated {txId now : Nat} {tx : Transaction Address}
    (entered : Entered state minutes txId tx) (queued : tx.status = .queued)
    (waited : tx.executeAfter ≤ now) : Mandated minutes txId now tx.amount tx.recipient where
  quorate := by
    rw [entered.approvals]
    exact entered.quorate queued
  distinct := entered.distinct
  entitled := entered.entitled
  agreed := entered.agreed
  waited := ⟨tx.createdAt, entered.proposed, entered.timelock.symm.trans_le waited⟩
  once := entered.waiting (by rw [queued]; exact TxStatus.noConfusion)

variable {account after : State Address × Minutes Address}

theorem Kept.exec (kept : Kept account)
    (ran : (minuted tokens contract).exec account call = .ok after) : Kept after :=
  withGhost_step ran fun _ done => kept.step (dispatch_effect done)

theorem Kept.authorized (kept : Kept account)
    (done : (minuted tokens contract).exec account call = .ok after) :
    Authorized tokens account call := by
  have effect := dispatch_effect (withGhost_exec_eq_ok.mp done).1
  unfold Authorized
  split
  · next caller txId token same =>
    rw [apply_of_ok _ done]
    obtain ⟨_, op⟩ := call
    obtain rfl : op = .execute caller txId token := same
    generalize after.1 = next at effect ⊢
    cases effect with
    | other _ _ _ _ _ _ unexecuted =>
      exact absurd rfl (unexecuted caller txId token)
    | executed _ _ txId _ tx mem _ found entitled got queued waited paid =>
      refine ⟨⟨mem, found, entitled⟩, tx.amount, tx.recipient, ?_, paid⟩
      exact (kept.entered txId tx got).mandated queued waited
  · trivial

/-- Calls signed by the owner and two operators. -/
def sampleEnv (timestamp : Nat) : Env Nat 0 where
  timestamp
  auths := [1, 2, 3]
  contract_silent := zero_notMem_three_signers

/-- The treasury holds two tokens. -/
def sampleLedger : TokenLedger Nat := fun _ holder => if holder = 0 then 1000 else 0

/-- Two of three signers approve a payment to address 5. -/
def queuedPayment : List (Env Nat 0 × Operation Nat) :=
  [(sampleEnv 0, .initializeTreasury 1 2), (sampleEnv 0, .addSigner 1 2 .operator),
    (sampleEnv 0, .addSigner 1 3 .admin), (sampleEnv 0, .propose 1 "grant" 100 (some 5)),
    (sampleEnv 0, .approve 1 0), (sampleEnv 0, .approve 2 0)]

/-- In every run every execution is by an admin, its amount and recipient were approved by as many
different operators as the threshold required when it was queued, its timelock is over, it is the
first of its transaction, and it transfers that amount in the token that the admin names. -/
theorem treasury_executions_authorized (tokens : TokenHost Address) (contract : Address)
    (ledger : TokenLedger Address) (calls : List (Env Address contract × Operation Address)) :
    (minuted tokens contract).Meets (Authorized tokens) ({ ledger }, {}) calls := by
  have start : Kept (({ ledger }, {}) : State Address × Minutes Address) :=
    ⟨fun _ _ => ⟨rfl, rfl⟩, nofun⟩
  exact meets_of_step (fun _ _ _ kept done => kept.exec done)
    (fun _ _ _ kept done => kept.authorized done) start calls

/-- One of the two approving signers is removed and the payment is executed all the same; and the
two admins may choose different tokens for it. -/
theorem queued_payment_not_rechecked :
    (¬ ∀ calls, (machine standardHost (0 : Nat)).Meets ApprovedNow { ledger := sampleLedger }
        calls) ∧
      ¬ ∀ calls (env : Env Nat 0) caller other txId token choice next later,
        dispatch standardHost ((machine standardHost 0).run { ledger := sampleLedger } calls)
            (env, .execute caller txId (some token)) = .ok next →
          dispatch standardHost ((machine standardHost 0).run { ledger := sampleLedger } calls)
            (env, .execute other txId (some choice)) = .ok later →
          next.ledger = later.ledger := by
  constructor
  · intro meets
    have approved := (meets (queuedPayment ++ [(sampleEnv 0, .removeSigner 1 2),
      (sampleEnv 86400, .execute 1 0 (some 7))])).of_append.2.2.1 ⟨_, rfl⟩
    change State.getThreshold _ ≤ (State.liveApprovers _ 0).card at approved
    exact absurd approved (by decide)
  · intro same
    have equal := same queuedPayment (sampleEnv 86400) 1 3 0 7 8 _ _ rfl rfl
    exact absurd (congrFun (congrFun equal 7) 5) (by decide)

end SorobanPlayground.DaoTreasury
