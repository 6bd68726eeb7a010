import SorobanPlayground.TokenVesting.Amounts

/-! # What a schedule pays

What is paid for each schedule is recorded beside the state. The beneficiary gets the released
amount, never more than has vested, and the admin the rest when the schedule is revoked; the
contract's balances cover what is not released. The admin can revoke a schedule where the
vested amount can be computed, which before the cliff of a linear schedule it cannot.
-/

namespace SorobanPlayground.TokenVesting

open Function

variable {Address : Type} [DecidableEq Address] {contract : Address}

/-- What was paid for each schedule, and the time of the last call. -/
structure Payouts where
  received : Nat → Int := fun _ => 0
  returned : Nat → Int := fun _ => 0
  clock : Nat := 0

/-- The released amount of a schedule, zero if there is none. -/
def State.released (state : State Address) (id : Nat) : Int :=
  ((state.schedules.get id).map VestingSchedule.releasedAmount).getD 0

/-- The total amount of a schedule, zero if there is none. -/
def State.totalAmount (state : State Address) (id : Nat) : Int :=
  ((state.schedules.get id).map VestingSchedule.totalAmount).getD 0

/-- What a call is to pay: a release pays the beneficiary what it books as released, and a
revocation also returns the rest to the admin. -/
def payments (contract : Address) (state next : State Address) :
    Operation Address → List (Leg Address)
  | .createLinearSchedule creator _ token totalAmount _ _ _
  | .createMilestoneSchedule creator _ token totalAmount _ _ _ =>
      [⟨token, creator, contract, totalAmount⟩]
  | .release id =>
      (state.schedules.get id).elim [] fun schedule =>
        [⟨schedule.token, contract, schedule.beneficiary, next.released id - state.released id⟩]
  | .revoke id =>
      (state.schedules.get id).elim [] fun schedule =>
        [⟨schedule.token, contract, schedule.beneficiary, next.released id - state.released id⟩,
          ⟨schedule.token, contract, state.admin.getD contract,
            state.totalAmount id - next.released id⟩]
  | .transferTokens token source destination amount => [⟨token, source, destination, amount⟩]
  | _ => []

/-- The record after a call that makes its payments. -/
def Payouts.follow (state : State Address) (call : Env Address contract × Operation Address)
    (next : State Address) (payouts : Payouts) : Payouts :=
  match call.2 with
  | .release id =>
      { payouts with
        received := Function.update payouts.received id
          (payouts.received id + (next.released id - state.released id))
        clock := call.1.timestamp }
  | .revoke id =>
      { received := Function.update payouts.received id
          (payouts.received id + (next.released id - state.released id))
        returned := Function.update payouts.returned id
          (payouts.returned id + (state.totalAmount id - next.released id))
        clock := call.1.timestamp }
  | _ => { payouts with clock := call.1.timestamp }

/-- The contract beside which its payments are recorded. -/
def paying (tokens : TokenHost Address) (contract : Address) :
    CallMachine (State Address × Payouts) (Env Address contract × Operation Address)
      (Failure Error) :=
  (machine tokens contract).withGhost Payouts.follow

/-- A call makes the recorded payments and no others, releases nothing back, and pays a beneficiary
at most what has vested. -/
structure Rightly (tokens : TokenHost Address) (account : State Address × Payouts)
    (call : Env Address contract × Operation Address) : Prop where
  paid : Moved
    (payments contract account.1 ((paying tokens contract).apply account call).1 call.2)
    account.1.ledger ((paying tokens contract).apply account call).1.ledger
  grows : ∀ id, account.1.released id ≤ ((paying tokens contract).apply account call).1.released id
  vested : ∀ id schedule, call.2 = .release id ∨ call.2 = .revoke id →
    account.1.schedules.get id = some schedule →
    ((paying tokens contract).apply account call).2.received id ≤ vestedAt schedule call.1.timestamp

/-- What is not released of a schedule in a token, unless it is revoked. -/
def unreleasedIn (token : Address) (_ : Nat) (schedule : VestingSchedule Address) : Int :=
  if schedule.revoked = false ∧ schedule.token = token then
    schedule.totalAmount - schedule.releasedAmount
  else 0

/-- The amounts of all schedules are in order. -/
structure Lawful (contract : Address) (account : State Address × Payouts) : Prop where
  bounds : ∀ id schedule, account.1.schedules.get id = some schedule →
    0 ≤ schedule.releasedAmount ∧ schedule.releasedAmount ≤ schedule.totalAmount
  received : ∀ id schedule, account.1.schedules.get id = some schedule →
    account.2.received id = schedule.releasedAmount
  within : ∀ id schedule, account.1.schedules.get id = some schedule →
    account.2.received id + account.2.returned id ≤ schedule.totalAmount
  settled : ∀ id schedule, account.1.schedules.get id = some schedule → schedule.revoked = true →
    account.2.received id + account.2.returned id = schedule.totalAmount
  covered : ∀ token,
    account.1.schedules.total (unreleasedIn token) ≤ account.1.ledger token contract

/-- A revocation succeeds, and before the cliff it returns everything unreleased. -/
def Revocable (tokens : TokenHost Address) (env : Env Address contract)
    (state : State Address) (id : Nat) (schedule : VestingSchedule Address) : Prop :=
  ∃ amount next, revoke tokens env id state = .ok (amount, next) ∧
    (env.timestamp < schedule.cliffTimestamp →
      amount = schedule.totalAmount - schedule.releasedAmount)

/-- What a call does to the schedules. -/
inductive Effect (contract : Address) (state : State Address) :
    Env Address contract × Operation Address → State Address → Prop
  | opened (call : Env Address contract × Operation Address) (next : State Address)
      (unrecorded : ∀ payouts, Payouts.follow state call next payouts =
        { payouts with clock := call.1.timestamp })
      (schedules : next.schedules = state.schedules) (count : next.count = state.count)
      (gains : ∀ token, state.ledger token contract ≤ next.ledger token contract)
      (paid : Moved (payments contract state next call.2) state.ledger next.ledger)
      (other : ∀ id, call.2 ≠ .release id ∧ call.2 ≠ .revoke id) :
      Effect contract state call next
  | created (call : Env Address contract × Operation Address) (creator : Address)
      (schedule : VestingSchedule Address) (ledger : TokenLedger Address)
      (unrecorded : ∀ next payouts, Payouts.follow state call next payouts =
        { payouts with clock := call.1.timestamp })
      (outside : creator ≠ contract) (named : schedule.id = state.count + 1)
      (wellformed : Wellformed schedule) (unreleased : schedule.releasedAmount = 0)
      (unrevoked : schedule.revoked = false)
      (due : ∀ next, payments contract state next call.2 =
        [⟨schedule.token, creator, contract, schedule.totalAmount⟩])
      (paid : Moved [⟨schedule.token, creator, contract, schedule.totalAmount⟩] state.ledger ledger)
      (other : ∀ id, call.2 ≠ .release id ∧ call.2 ≠ .revoke id) :
      Effect contract state call { state with
        count := state.count + 1
        schedules := state.schedules.set (state.count + 1) schedule
        ledger }
  | approved (env : Env Address contract) (scheduleId milestoneIndex : Nat)
      (schedule : VestingSchedule Address) (milestones : List Milestone)
      (stored : state.schedules.get scheduleId = some schedule)
      (shares : milestones.map Milestone.pctBps = schedule.milestones.map Milestone.pctBps)
      (more : approvedBps schedule.milestones ≤ approvedBps milestones) :
      Effect contract state (env, .approveMilestone scheduleId milestoneIndex)
        { state with schedules := state.schedules.set schedule.id { schedule with milestones } }
  | released (env : Env Address contract) (scheduleId : Nat) (schedule : VestingSchedule Address)
      (vested : Int) (ledger : TokenLedger Address)
      (stored : state.schedules.get scheduleId = some schedule)
      (unrevoked : schedule.revoked = false)
      (computed : computeVested schedule env.timestamp = .ok vested)
      (paid : Moved [⟨schedule.token, contract, schedule.beneficiary,
        saturateI128 (vested - schedule.releasedAmount)⟩] state.ledger ledger) :
      Effect contract state (env, .release scheduleId) { state with
        schedules := state.schedules.set schedule.id { schedule with
          releasedAmount :=
            schedule.releasedAmount + saturateI128 (vested - schedule.releasedAmount) }
        ledger }
  | revoked (env : Env Address contract) (scheduleId : Nat) (schedule : VestingSchedule Address)
      (admin : Address) (vested : Int) (middle ledger : TokenLedger Address)
      (stored : state.schedules.get scheduleId = some schedule)
      (unrevoked : schedule.revoked = false) (owner : state.admin = some admin)
      (computed : computeVested schedule env.timestamp = .ok vested)
      (paid : 0 ≤ saturateI128 (vested - schedule.releasedAmount) →
        Moved [⟨schedule.token, contract, schedule.beneficiary,
          saturateI128 (vested - schedule.releasedAmount)⟩] state.ledger middle)
      (returned : 0 ≤ saturateI128 (schedule.totalAmount - vested) →
        Moved [⟨schedule.token, contract, admin,
          saturateI128 (schedule.totalAmount - vested)⟩] middle ledger) :
      Effect contract state (env, .revoke scheduleId) { state with
        schedules := state.schedules.set schedule.id { schedule with
          releasedAmount := vested
          revoked := true }
        ledger }

variable {tokens : TokenHost Address} {env : Env Address contract} {state next : State Address}

theorem newMilestones_pctBps {hashes bps : List Nat} (same : hashes.length = bps.length) :
    (newMilestones hashes bps).map Milestone.pctBps = bps := by
  unfold newMilestones
  rw [List.map_map]
  exact List.map_snd_zip same.ge

variable {creator beneficiary token : Address}

theorem createLinearSchedule_effect {totalAmount : Int}
    {cliff start finish : Nat} (fits : InI128 totalAmount)
    (ran : (Prod.snd <$> createLinearSchedule tokens env creator beneficiary token totalAmount
      cliff start finish state) = .ok next) :
    Effect contract state
      (env, .createLinearSchedule creator beneficiary token totalAmount cliff start finish)
      next := by
  simp only [createLinearSchedule, ensureInitialized, map_eq_ok, call_ok, arith_ok, not_or, not_lt,
    not_le] at ran
  obtain ⟨_, ⟨-, signed, pos, ⟨-, long⟩, ledger, paid, -, rfl⟩, rfl⟩ := ran
  exact Effect.created _ creator _ ledger (fun _ _ => rfl) (env.ne_contract signed) rfl
    ⟨pos, fits, fun _ => long, by simp⟩ rfl rfl (fun _ => rfl) (pay_moved paid)
    fun _ => ⟨by simp, by simp⟩

theorem createMilestoneSchedule_effect {totalAmount : Int}
    {cliff : Nat} {hashes bps : List Nat} (fits : InI128 totalAmount)
    (ran : (Prod.snd <$> createMilestoneSchedule tokens env creator beneficiary token
      totalAmount cliff hashes bps state) = .ok next) :
    Effect contract state
      (env, .createMilestoneSchedule creator beneficiary token totalAmount cliff hashes bps)
      next := by
  simp only [createMilestoneSchedule, ensureInitialized, map_eq_ok, call_ok, arith_ok, not_or,
    not_not, not_le] at ran
  obtain ⟨_, ⟨-, signed, pos, ⟨same, -⟩, -, whole, ledger, paid, -, rfl⟩,
    rfl⟩ := ran
  refine Effect.created _ creator _ ledger (fun _ _ => rfl) (env.ne_contract signed) rfl
    ⟨pos, fits, by simp, fun _ => ?_⟩ rfl rfl (fun _ => rfl) (pay_moved paid)
    fun _ => ⟨by simp, by simp⟩
  rw [newMilestones_pctBps same]
  exact whole

variable {scheduleId : Nat}

theorem release_effect (ran : (Prod.snd <$> release tokens env scheduleId state) = .ok next) :
    Effect contract state (env, .release scheduleId) next := by
  simp only [release, computeReleasable, ensureInitialized, loadSchedule, map_eq_ok, call_ok,
    arith_ok] at ran
  obtain ⟨_, ⟨-, schedule, got, unrevoked, -, _, ⟨vested, eq, rfl⟩, -, -, ledger,
    paid, rfl⟩, rfl⟩ := ran
  exact Effect.released env scheduleId schedule vested ledger got
    (Bool.eq_false_iff.mpr unrevoked) eq (pay_moved paid)

theorem revoke_effect (ran : (Prod.snd <$> revoke tokens env scheduleId state) = .ok next) :
    Effect contract state (env, .revoke scheduleId) next := by
  simp only [revoke, ensureInitialized, getAdmin, loadSchedule, map_eq_ok, call_ok] at ran
  obtain ⟨_, ⟨-, admin, owner, -, schedule, got, unrevoked, vested, eq, middle, paid,
    ledger, returned, rfl⟩, rfl⟩ := ran
  exact Effect.revoked env scheduleId schedule admin vested middle ledger got
    (Bool.eq_false_iff.mpr unrevoked) owner eq (pay_positive_moved paid)
    (pay_positive_moved returned)

theorem approveMilestone_effect {milestoneIndex : Nat}
    (ran : approveMilestone env scheduleId milestoneIndex state = .ok next) :
    Effect contract state (env, .approveMilestone scheduleId milestoneIndex) next := by
  simp only [approveMilestone, ensureInitialized, getAdmin, loadSchedule, call_ok,
    orTrap_eq_ok] at ran
  obtain ⟨-, _, -, -, schedule, got, -, -, -, _, found, -, rfl⟩ := ran
  exact Effect.approved env scheduleId milestoneIndex schedule _ got (map_pctBps_approve found)
    (approvedBps_approve found)

variable {call : Env Address contract × Operation Address}

theorem dispatch_effect (ran : dispatch tokens state call = .ok next) :
    Effect contract state call next := by
  obtain ⟨env, op⟩ := call
  cases op with
  | initializeVesting =>
    simp only [dispatch, initializeVesting, call_ok] at ran
    obtain ⟨-, -, rfl⟩ := ran
    exact Effect.opened _ _ (fun _ => rfl) rfl rfl (fun _ => le_rfl)
      (moved_nil _) fun _ => ⟨by simp, by simp⟩
  | createLinearSchedule =>
    unfold dispatch at ran
    simp only [bind_eq_ok, inI128_eq_ok] at ran
    obtain ⟨_, ⟨fits, rfl⟩, ran⟩ := ran
    exact createLinearSchedule_effect fits ran
  | createMilestoneSchedule =>
    unfold dispatch at ran
    simp only [bind_eq_ok, inI128_eq_ok] at ran
    obtain ⟨_, ⟨fits, rfl⟩, ran⟩ := ran
    exact createMilestoneSchedule_effect fits ran
  | approveMilestone => exact approveMilestone_effect ran
  | release => exact release_effect ran
  | revoke => exact revoke_effect ran
  | transferTokens =>
    simp only [dispatch, payAs, call_ok] at ran
    obtain ⟨_, ⟨signed, paid⟩, rfl⟩ := ran
    refine Effect.opened _ _ (fun _ => rfl) rfl rfl (fun read => ?_) (pay_moved paid)
      fun _ => ⟨by simp, by simp⟩
    exact_mod_cast tokens.pay_le paid (env.ne_contract signed).symm read

/-- What was paid for a schedule at the time of the last call. -/
structure Accounted (schedule : VestingSchedule Address) (received returned : Int) (clock : Nat) :
    Prop where
  wellformed : Wellformed schedule
  nonneg : 0 ≤ schedule.releasedAmount
  bounded : schedule.releasedAmount ≤ schedule.totalAmount
  vested : schedule.revoked = false → schedule.releasedAmount ≤ vestedAt schedule clock
  received : received = schedule.releasedAmount
  returned : returned =
    if schedule.revoked = true then schedule.totalAmount - schedule.releasedAmount else 0

/-- All schedules are accounted for, and the balances cover what is not released. -/
structure Books (contract : Address) (account : State Address × Payouts) : Prop where
  named : ∀ id schedule, account.1.schedules.get id = some schedule →
    schedule.id = id ∧ id ≤ account.1.count
  accounted : ∀ id schedule, account.1.schedules.get id = some schedule →
    Accounted schedule (account.2.received id) (account.2.returned id) account.2.clock
  unpaid : ∀ id, account.1.schedules.get id = none →
    account.2.received id = 0 ∧ account.2.returned id = 0
  covered : ∀ token,
    account.1.schedules.total (unreleasedIn token) ≤ account.1.ledger token contract

variable {payouts later : Payouts} {schedule written : VestingSchedule Address} {id : Nat}
  {received returned : Int}

section

omit [DecidableEq Address]

theorem Accounted.at {clock time : Nat} (accounted : Accounted schedule received returned clock)
    (passed : clock ≤ time) : Accounted schedule received returned time :=
  { accounted with
    vested := fun unrevoked => (accounted.vested unrevoked).trans
      (accounted.wellformed.vestedAt_mono passed) }

theorem released_of_stored (got : state.schedules.get id = some schedule) :
    state.released id = schedule.releasedAmount := by
  unfold State.released
  rw [got]
  rfl

theorem totalAmount_of_stored (got : state.schedules.get id = some schedule) :
    state.totalAmount id = schedule.totalAmount := by
  unfold State.totalAmount
  rw [got]
  rfl

end

section

variable (books : Books contract (state, payouts))
include books

theorem Books.write (schedules : next.schedules = state.schedules.set id written)
    (count : state.count ≤ next.count) (named : written.id = id ∧ id ≤ next.count)
    (received : ∀ other ≠ id, later.received other = payouts.received other)
    (returned : ∀ other ≠ id, later.returned other = payouts.returned other)
    (clock : payouts.clock ≤ later.clock)
    (accounted : Accounted written (later.received id) (later.returned id) later.clock)
    (covered : ∀ token, next.schedules.total (unreleasedIn token) ≤ next.ledger token contract) :
    Books contract (next, later) where
  named := by
    rw [schedules]
    refine forall_set (fun other found got => ?_) named
    obtain ⟨same, within⟩ := books.named other found got
    exact ⟨same, within.trans count⟩
  accounted other found got := by
    rw [schedules, get_set] at got
    split at got
    · next same =>
      cases got
      rwa [same]
    · next ne =>
      rw [received other ne, returned other ne]
      exact (books.accounted other found got).at clock
  unpaid other gone := by
    rw [schedules, get_set] at gone
    split at gone
    · cases gone
    · next ne =>
      rw [received other ne, returned other ne]
      exact books.unpaid other gone
  covered := covered

theorem Books.fresh : state.schedules.get (state.count + 1) = none := by
  cases got : state.schedules.get (state.count + 1) with
  | none => rfl
  | some found => exact absurd (books.named _ found got).2 (Nat.not_succ_le_self _)

theorem unreleased_set (got : state.schedules.get id = some schedule) (token : Address) :
    (state.schedules.set schedule.id written).total (unreleasedIn token) =
      state.schedules.total (unreleasedIn token) - unreleasedIn token id schedule +
        unreleasedIn token id written := by
  rw [(books.named id schedule got).1]
  exact total_set_of_stored _ got written

end

omit [DecidableEq Address] in
theorem Accounted.part {clock now : Nat} {vested : Int}
    (accounted : Accounted schedule received returned clock) (unrevoked : schedule.revoked = false)
    (passed : clock ≤ now) (eq : computeVested schedule now = .ok vested) :
    vestedAt schedule now = vested ∧ schedule.releasedAmount ≤ vested ∧
      vested ≤ schedule.totalAmount ∧
      saturateI128 (vested - schedule.releasedAmount) = vested - schedule.releasedAmount ∧
      saturateI128 (schedule.totalAmount - vested) = schedule.totalAmount - vested := by
  have wf := accounted.wellformed
  have value := ((computeVested_eq_ok wf).mp eq).2
  have grown := (accounted.vested unrevoked).trans (wf.vestedAt_mono passed)
  have most := (wf.vestedAt_bounds now).2
  have least := accounted.nonneg
  rw [value] at grown most
  refine ⟨value, grown, most, saturateI128_of_mem ?_, saturateI128_of_mem ?_⟩
  · exact inI128_of_le (by omega) (by omega) wf.fits
  · exact inI128_of_le (by omega) (by omega) wf.fits

theorem Books.step (books : Books contract (state, payouts))
    (effect : Effect contract state call next) (passed : payouts.clock ≤ call.1.timestamp) :
    Books contract (next, payouts.follow state call next) := by
  cases effect with
  | opened _ _ unrecorded schedules count gains =>
    rw [unrecorded]
    refine ⟨?_, fun id schedule got => ?_, ?_, fun token => ?_⟩
    · dsimp only
      rw [schedules, count]
      exact books.named
    · dsimp only at got ⊢
      rw [schedules] at got
      exact (books.accounted id schedule got).at passed
    · dsimp only
      rw [schedules]
      exact books.unpaid
    · dsimp only
      rw [schedules]
      exact (books.covered token).trans (by exact_mod_cast gains token)
  | created _ _ schedule _ unrecorded outside named wellformed unreleased unrevoked _ paid =>
    have fresh := books.fresh
    obtain ⟨unreceived, unreturned⟩ := books.unpaid _ fresh
    rw [unrecorded]
    refine books.write rfl (Nat.le_succ _) ⟨named, le_rfl⟩ (fun _ _ => rfl) (fun _ _ => rfl)
      passed ?_ fun token => ?_
    · refine ⟨wellformed, unreleased.ge, unreleased.trans_le wellformed.positive.le, fun _ => ?_,
        unreceived.trans unreleased.symm, ?_⟩
      · exact unreleased.trans_le (wellformed.vestedAt_bounds _).1
      · rw [unrevoked, if_neg Bool.false_ne_true]
        exact unreturned
    · have before := books.covered token
      have balance := paid token contract
      rw [movedBy_cons, movedBy_nil] at balance
      dsimp only at before balance ⊢
      rw [transferDelta_in outside] at balance
      rw [total_set_of_absent _ _ _ fresh]
      unfold unreleasedIn at before ⊢
      rw [unreleased, sub_zero, if_congr (and_iff_right unrevoked) rfl rfl]
      rw [if_congr (eq_comm : token = schedule.token ↔ _) rfl rfl] at balance
      omega
  | approved _ _ _ schedule milestones got shares more =>
    obtain ⟨named, within⟩ := books.named _ schedule got
    have accounted := (books.accounted _ schedule got).at passed
    have wellformed := accounted.wellformed
    subst named
    refine books.write rfl le_rfl ⟨rfl, within⟩ (fun _ _ => rfl) (fun _ _ => rfl) passed ?_
      fun token => ?_
    · refine { accounted with wellformed := { wellformed with milestones := ?_ }, vested := ?_ }
      · intro kind
        rw [shares]
        exact wellformed.milestones kind
      · intro unrevoked
        exact (accounted.vested unrevoked).trans (wellformed.vestedAt_approve more _)
    · rw [unreleased_set books got]
      have same : unreleasedIn token schedule.id { schedule with milestones } =
          unreleasedIn token schedule.id schedule := rfl
      rw [same, sub_add_cancel]
      exact books.covered token
  | released _ _ schedule vested _ got unrevoked eq paid =>
    obtain ⟨named, within⟩ := books.named _ schedule got
    have accounted := books.accounted _ schedule got
    obtain ⟨value, grown, most, amount, -⟩ := accounted.part unrevoked passed eq
    subst named
    rw [amount] at paid ⊢
    rw [add_sub_cancel]
    refine books.write rfl le_rfl ⟨rfl, within⟩ (fun other ne => ?_) (fun _ _ => rfl)
      passed ?_ fun token => ?_
    · exact update_of_ne ne _ _
    · have settled := accounted.received
      refine {
        wellformed := { accounted.wellformed with }
        nonneg := accounted.nonneg.trans grown
        bounded := most
        vested := fun _ => value.ge
        received := ?_
        returned := ?_ }
      · dsimp only [Payouts.follow]
        rw [update_self, released_of_stored (get_set_self _ _ _),
          released_of_stored got, settled]
        exact add_sub_cancel _ _
      · have unreturned := accounted.returned
        rw [unrevoked, if_neg Bool.false_ne_true] at unreturned ⊢
        exact unreturned
    · have before := books.covered token
      have left := paid.leaves (by omega) token
      dsimp only at before ⊢
      rw [unreleased_set books got]
      unfold unreleasedIn at before ⊢
      dsimp only
      rw [if_congr (and_iff_right unrevoked) rfl rfl, if_congr (and_iff_right unrevoked) rfl rfl]
      split_ifs at left ⊢ <;> omega
  | revoked _ _ schedule _ vested _ _ got unrevoked _ eq paid returned =>
    obtain ⟨named, within⟩ := books.named _ schedule got
    have accounted := books.accounted _ schedule got
    obtain ⟨_, grown, most, _⟩ := accounted.part unrevoked passed eq
    subst named
    refine books.write rfl le_rfl ⟨rfl, within⟩ (fun other ne => ?_)
      (fun other ne => ?_) passed ?_ fun token => ?_
    · exact update_of_ne ne _ _
    · exact update_of_ne ne _ _
    · have settled := accounted.received
      have unreturned := accounted.returned
      rw [unrevoked, if_neg Bool.false_ne_true] at unreturned
      refine {
        wellformed := { accounted.wellformed with }
        nonneg := accounted.nonneg.trans grown
        bounded := most
        vested := nofun
        received := ?_
        returned := ?_ }
      · dsimp only [Payouts.follow]
        rw [update_self, released_of_stored (get_set_self _ _ _),
          released_of_stored got, settled]
        exact add_sub_cancel _ _
      · dsimp only [Payouts.follow]
        rw [update_self, released_of_stored (get_set_self _ _ _),
          totalAmount_of_stored got, if_pos rfl, unreturned]
        exact zero_add _
    · have before := books.covered token
      have first := (paid (by omega)).leaves (by omega) token
      have second := (returned (by omega)).leaves (by omega) token
      dsimp only at before ⊢
      rw [unreleased_set books got]
      unfold unreleasedIn at before ⊢
      rw [if_congr (and_iff_right unrevoked) rfl rfl, if_neg (fun both : true = false ∧
        schedule.token = token => nomatch both.1)]
      split_ifs at first second ⊢ <;> omega

/-- The clock does not go back. -/
def ClockRuns (account : State Address × Payouts)
    (call : Env Address contract × Operation Address) : Prop :=
  account.2.clock ≤ call.1.timestamp

theorem books_empty (ledger : TokenLedger Address) : Books contract ({ ledger }, {}) where
  named := nofun
  accounted := nofun
  unpaid := fun _ _ => ⟨rfl, rfl⟩
  covered := fun _ => Int.natCast_nonneg _

theorem books_step (account : State Address × Payouts)
    (call : Env Address contract × Operation Address) (next : State Address × Payouts)
    (books : Books contract account) (passed : ClockRuns account call)
    (ran : (paying tokens contract).exec account call = .ok next) : Books contract next :=
  withGhost_step ran fun _ done => books.step (dispatch_effect done) passed

variable {account : State Address × Payouts}

theorem Books.lawful (books : Books contract account) : Lawful contract account where
  bounds id schedule got :=
    ⟨(books.accounted id schedule got).nonneg, (books.accounted id schedule got).bounded⟩
  received id schedule got := (books.accounted id schedule got).received
  within id schedule got := by
    have accounted := books.accounted id schedule got
    have bound := accounted.bounded
    rw [accounted.received, accounted.returned]
    split <;> omega
  settled id schedule got revoked := by
    have accounted := books.accounted id schedule got
    rw [accounted.received, accounted.returned, if_pos revoked]
    exact add_sub_cancel _ _
  covered := books.covered

omit [DecidableEq Address] in
theorem released_grows_of_set {id : Nat} {schedule written : VestingSchedule Address}
    (schedules : next.schedules = state.schedules.set id written)
    (got : state.schedules.get id = some schedule)
    (grown : schedule.releasedAmount ≤ written.releasedAmount) (other : Nat) :
    state.released other ≤ next.released other := by
  unfold State.released
  rw [schedules, get_set]
  split
  · next same =>
    rw [same, got]
    exact grown
  · exact le_rfl

section

variable (books : Books contract (state, payouts))
include books

section

variable (passed : payouts.clock ≤ call.1.timestamp)
include passed

section

variable (effect : Effect contract state call next)
include effect

theorem Books.paid : Moved (payments contract state next call.2) state.ledger next.ledger := by
  cases effect with
  | opened _ _ _ _ _ _ paid => exact paid
  | created _ _ _ _ _ _ _ _ _ _ due paid =>
    rw [due]
    exact paid
  | approved =>
    intro read holder
    exact (add_zero _).symm
  | released _ _ schedule _ _ got _ _ paid =>
    have named := (books.named _ schedule got).1
    subst named
    dsimp only [payments]
    rw [got, released_of_stored got, released_of_stored (get_set_self _ _ _)]
    rw [add_sub_cancel_left]
    exact paid
  | revoked _ _ schedule _ _ _ _ got unrevoked owner eq paid returned =>
    have named := (books.named _ schedule got).1
    obtain ⟨-, _, _, amount, rest⟩ :=
      (books.accounted _ schedule got).part unrevoked passed eq
    subst named
    rw [amount] at paid
    rw [rest] at returned
    dsimp only [payments]
    rw [got, owner, released_of_stored got, totalAmount_of_stored got, released_of_stored
      (get_set_self _ _ _)]
    exact (paid (by omega)).append (returned (by omega))

theorem Books.grows (id : Nat) : state.released id ≤ next.released id := by
  cases effect with
  | opened _ _ _ schedules =>
    unfold State.released
    rw [schedules]
  | created _ _ _ _ _ _ _ _ unreleased =>
    unfold State.released
    rw [get_set]
    split
    · next same =>
      rw [same, books.fresh]
      exact unreleased.ge
    · exact le_rfl
  | approved _ _ _ schedule _ got =>
    have named := (books.named _ schedule got).1
    subst named
    refine released_grows_of_set rfl got ?_ id
    exact le_rfl
  | released _ _ schedule _ _ got unrevoked eq =>
    have named := (books.named _ schedule got).1
    obtain ⟨-, grown, -, _, -⟩ :=
      (books.accounted _ schedule got).part unrevoked passed eq
    subst named
    refine released_grows_of_set rfl got ?_ id
    dsimp only
    omega
  | revoked _ _ schedule _ _ _ _ got unrevoked _ eq =>
    have named := (books.named _ schedule got).1
    have grown := ((books.accounted _ schedule got).part unrevoked passed eq).2.1
    subst named
    exact released_grows_of_set rfl got grown id

theorem Books.vested {id : Nat} {schedule : VestingSchedule Address}
    (pays : call.2 = .release id ∨ call.2 = .revoke id)
    (got : state.schedules.get id = some schedule) :
    (payouts.follow state call next).received id = vestedAt schedule call.1.timestamp := by
  have settled := (books.accounted id schedule got).received
  cases effect with
  | opened _ _ _ _ _ _ _ other =>
    exact (pays.elim (other id).1 (other id).2).elim
  | created _ _ _ _ _ _ _ _ _ _ _ _ other =>
    exact (pays.elim (other id).1 (other id).2).elim
  | approved =>
    exact pays.elim nofun nofun
  | released _ _ found _ _ held unrevoked eq =>
    obtain rfl := Operation.release.inj (pays.resolve_right nofun)
    obtain rfl := Option.mem_unique held got
    have named := (books.named _ found got).1
    obtain ⟨value, -, -, amount, -⟩ :=
      (books.accounted _ found got).part unrevoked passed eq
    subst named
    dsimp only [Payouts.follow]
    rw [update_self, released_of_stored got, released_of_stored
      (get_set_self _ _ _), amount, settled, value]
    rw [add_sub_cancel, add_sub_cancel]
  | revoked _ _ found _ _ _ _ held unrevoked _ eq =>
    obtain rfl := Operation.revoke.inj (pays.resolve_left nofun)
    obtain rfl := Option.mem_unique held got
    have named := (books.named _ found got).1
    have value := ((books.accounted _ found got).part unrevoked passed eq).1
    subst named
    dsimp only [Payouts.follow]
    rw [update_self, released_of_stored got, released_of_stored
      (get_set_self _ _ _), settled, value]
    exact add_sub_cancel _ _

end

theorem Books.rightly (ran : dispatch tokens state call = .ok next) :
    Rightly tokens (state, payouts) call := by
  have executes : (paying tokens contract).exec (state, payouts) call =
      .ok (next, payouts.follow state call next) :=
    withGhost_exec_eq_ok.mpr ⟨ran, rfl⟩
  have applied := apply_of_ok _ executes
  have effect := dispatch_effect ran
  refine ⟨?_, ?_, ?_⟩
  · rw [applied]
    exact books.paid passed effect
  · rw [applied]
    exact books.grows passed effect
  · intro id schedule pays got
    rw [applied]
    exact (books.vested passed effect pays got).le

end

theorem Books.covers {id : Nat} {schedule : VestingSchedule Address}
    (got : state.schedules.get id = some schedule) (unrevoked : schedule.revoked = false) :
    schedule.totalAmount - schedule.releasedAmount ≤ state.ledger schedule.token contract := by
  have part : unreleasedIn schedule.token id schedule =
      schedule.totalAmount - schedule.releasedAmount := if_pos ⟨unrevoked, rfl⟩
  have nonneg : ∀ other found, state.schedules.get other = some found →
      0 ≤ unreleasedIn schedule.token other found := by
    intro other found held
    have bound := (books.accounted other found held).bounded
    unfold unreleasedIn
    split <;> omega
  rw [← part]
  exact (weight_le_total nonneg got).trans (books.covered schedule.token)

theorem Books.revocable_iff (pays : tokens.PaysCovered) {env : Env Address contract}
    (passed : payouts.clock ≤ env.timestamp) {id : Nat} {schedule : VestingSchedule Address}
    (got : state.schedules.get id = some schedule) (unrevoked : schedule.revoked = false)
    {admin : Address} (owner : state.admin = some admin) (signed : admin ∈ env.auths) :
    Revocable tokens env state id schedule ↔
      Computable schedule env.timestamp ∧ (env.timestamp < schedule.cliffTimestamp →
        vestedAt schedule env.timestamp = schedule.releasedAmount) := by
  have accounted := books.accounted id schedule got
  have wf := accounted.wellformed
  constructor
  · rintro ⟨amount, next, ran, early⟩
    simp only [revoke, ensureInitialized, getAdmin, loadSchedule, call_ok] at ran
    obtain ⟨-, _, -, -, _, held, -, _, eq, _, -, _, -, rfl, -⟩ := ran
    cases got.symm.trans held
    obtain ⟨_, -, -, -, rest⟩ := accounted.part unrevoked passed eq
    refine ⟨((computeVested_eq_ok wf).mp eq).1, fun before => ?_⟩
    omega
  · rintro ⟨computable, _⟩
    have eq := (computeVested_eq_ok wf).mpr ⟨computable, rfl⟩
    obtain ⟨-, _⟩ := accounted.part unrevoked passed eq
    have covered := books.covers got unrevoked
    have enough : saturateI128 (vestedAt schedule env.timestamp - schedule.releasedAmount) ≤
        state.ledger schedule.token contract := by omega
    obtain ⟨middle, paid⟩ := pays.pay_positive schedule.beneficiary enough
    have left := (pay_positive_moved paid (by omega)).leaves (by omega) schedule.token
    have still : saturateI128 (schedule.totalAmount - vestedAt schedule env.timestamp) ≤
        middle schedule.token contract := by omega
    obtain ⟨ledger, returned⟩ := pays.pay_positive admin still
    have ran : ∃ next, revoke tokens env id state =
        .ok (saturateI128 (schedule.totalAmount - vestedAt schedule env.timestamp), next) := by
      simp only [revoke, ensureInitialized, getAdmin, loadSchedule, call_ok]
      exact ⟨_, by rw [owner]; rfl, admin, owner, signed, schedule, got,
        Bool.eq_false_iff.mp unrevoked, _, eq, middle, paid, ledger, returned, rfl, rfl⟩
    obtain ⟨next, ran⟩ := ran
    refine ⟨_, next, ran, fun before => ?_⟩
    omega

end

theorem clock_step {call : Env Address contract × Operation Address}
    {next : State Address × Payouts} (ran : (paying tokens contract).exec account call = .ok next) :
    next.2.clock = call.1.timestamp := by
  rw [(withGhost_exec_eq_ok.mp ran).2]
  unfold Payouts.follow
  split <;> rfl

theorem clock_run_le {calls : List (Env Address contract × Operation Address)} {now : Nat}
    (started : account.2.clock ≤ now) (passed : ∀ call ∈ calls, call.1.timestamp ≤ now) :
    ((paying tokens contract).run account calls).2.clock ≤ now := by
  have meets : (paying tokens contract).Meets (fun _ call => call.1.timestamp ≤ now) account
    calls :=
    meets_of_mem (fun call mem _ => passed call mem) account
  have always : (paying tokens contract).Always (fun account => account.2.clock ≤ now) account
      calls :=
    always_of_meets (fun _ _ _ _ le ran => (clock_step ran).trans_le le) started meets
  exact always.final

/-- In a run whose clock does not go back all amounts are in order and all payments are right,
and afterwards the admin can revoke exactly the schedules whose vested amount the contract
computes, before the cliff those of which nothing more has vested. -/
theorem schedules_revocable_iff (pays : tokens.PaysCovered) (ledger : TokenLedger Address)
    (calls : List (Env Address contract × Operation Address))
    (ordered : calls.Pairwise fun earlier later => earlier.1.timestamp ≤ later.1.timestamp) :
    (paying tokens contract).Always (Lawful contract) ({ ledger }, {}) calls ∧
    (paying tokens contract).Meets (Rightly tokens) ({ ledger }, {}) calls ∧
    ∀ (env : Env Address contract) (id : Nat) (schedule : VestingSchedule Address)
      (admin : Address), (∀ call ∈ calls, call.1.timestamp ≤ env.timestamp) →
      ((machine tokens contract).run { ledger } calls).schedules.get id = some schedule →
      schedule.revoked = false →
      ((machine tokens contract).run { ledger } calls).admin = some admin → admin ∈ env.auths →
      (Revocable tokens env ((machine tokens contract).run { ledger } calls) id schedule ↔
        Computable schedule env.timestamp ∧ (env.timestamp < schedule.cliffTimestamp →
          vestedAt schedule env.timestamp = schedule.releasedAmount)) := by
  have initial : Books contract (({ ledger }, {}) : State Address × Payouts) := books_empty ledger
  have runs : (paying tokens contract).Meets ClockRuns ({ ledger }, {}) calls := by
    refine meets_of_pairwise ?_ ordered fun _ _ => Nat.zero_le _
    exact fun _ _ _ _ _ ran le => (clock_step ran).trans_le le
  have always := always_of_meets books_step initial runs
  refine ⟨always.mono fun _ books => books.lawful, ?_, ?_⟩
  · apply meets_of_invariant books_step _ initial runs
    intro account call next books passed ran
    exact books.rightly passed (withGhost_exec_eq_ok.mp ran).1
  · intro env id schedule admin passed got unrevoked owner signed
    have clock : ((paying tokens contract).run ({ ledger }, {}) calls).2.clock ≤ env.timestamp :=
      clock_run_le (Nat.zero_le _) passed
    have reached : ((paying tokens contract).run ({ ledger }, {}) calls).1 =
        (machine tokens contract).run { ledger } calls := withGhost_run_fst _ _
    rw [← reached] at got owner ⊢
    exact always.final.revocable_iff pays clock got unrevoked owner signed

/-- A call at a given time that the admin 1 and the creator 2 authorize. -/
def signedAt (timestamp : Nat) : Env Nat 0 :=
  { timestamp, auths := [1, 2], contract_silent := zero_notMem_two_signers }

/-- The creator 2 holds 1,000 units of the token 9. -/
def funded : TokenLedger Nat := fun token holder => if token = 9 ∧ holder = 2 then 1000 else 0

/-- A linear schedule of 1,000 units for 3 from 100 to 200. -/
def locked : List (Env Nat 0 × Operation Nat) :=
  [(signedAt 0, .initializeVesting 1), (signedAt 0, .createLinearSchedule 2 3 9 1000 100 100 200)]

def halfReleased : List (Env Nat 0 × Operation Nat) := locked ++ [(signedAt 150, .release 1)]

theorem schedules_revocable_iff_half :
    (paying standardHost 0).Always (Lawful 0) ({ ledger := funded }, {}) halfReleased ∧
    (paying standardHost 0).Meets (Rightly standardHost) ({ ledger := funded }, {}) halfReleased ∧
    ∀ (env : Env Nat 0) (id : Nat) (schedule : VestingSchedule Nat) (admin : Nat),
      (∀ call ∈ halfReleased, call.1.timestamp ≤ env.timestamp) →
      ((machine standardHost 0).run { ledger := funded } halfReleased).schedules.get id =
        some schedule →
      schedule.revoked = false →
      ((machine standardHost 0).run { ledger := funded } halfReleased).admin = some admin →
      admin ∈ env.auths →
      (Revocable standardHost env ((machine standardHost 0).run { ledger := funded } halfReleased)
          id schedule ↔
        Computable schedule env.timestamp ∧ (env.timestamp < schedule.cliffTimestamp →
          vestedAt schedule env.timestamp = schedule.releasedAmount)) :=
  schedules_revocable_iff standardHost_paysCovered funded halfReleased (by decide)

def lockedSchedule : VestingSchedule Nat where
  id := 1
  beneficiary := 3
  token := 9
  totalAmount := 1000
  releasedAmount := 0
  cliffTimestamp := 100
  startTimestamp := 100
  endTimestamp := 200
  vestingType := .linear
  milestones := []
  revoked := false
  createdAt := 0

/-- At time 50 the admin cannot revoke the schedule: the time since the cliff underflows. -/
theorem early_revocation_traps :
    ((machine standardHost 0).run { ledger := funded } locked).schedules.get 1 =
      some lockedSchedule ∧
    ((machine standardHost 0).run { ledger := funded } locked).admin = some 1 ∧
    revoke standardHost (signedAt 50) 1 ((machine standardHost 0).run { ledger := funded } locked) =
      .error .trap ∧
    ¬ Revocable standardHost (signedAt 50)
      ((machine standardHost 0).run { ledger := funded } locked) 1 lockedSchedule := by
  refine ⟨rfl, rfl, rfl, fun ⟨amount, next, ran, _⟩ => ?_⟩
  cases ran

end SorobanPlayground.TokenVesting
