import SorobanPlayground.Escrow.Milestones

/-! # What the calls of milestone escrows do

A successful call begins the contract, plans an escrow, or writes one escrow and at
most two of its milestones.
-/

namespace SorobanPlayground.MilestoneEscrow

open State

variable {Address : Type} {contract : Address}

/-- Escrows and milestones are stored under their own ids, and escrow ids are counted. -/
structure Filed (state : State Address) : Prop where
  named : ∀ id escrow, state.escrows.get id = some escrow → escrow.id = id ∧ id ≤ state.escrowCount
  numbered : ∀ key milestone, state.milestones.get key = some milestone →
    milestone.id = key.2 ∧ key.1 ≤ state.escrowCount

theorem filed_empty : Filed ({} : State Address) where
  named id escrow got := by cases got
  numbered key milestone got := by cases got

def MilestoneMove (before after : MilestoneStatus) : Prop :=
  (before = .inProgress ∧ after = .underReview) ∨ (before = .underReview ∧ after = .approved) ∨
    (before = .underReview ∧ after = .inProgress)

/-- The state in which an approved milestone is paid and the next one started. -/
def State.pay (state : State Address) (escrow : Escrow Address) (milestone : Milestone) :
    State Address :=
  startNext escrow.id escrow.milestoneCount (milestone.id + 1)
    (state.setMilestone escrow.id { milestone with status := .paid })

/-- What a successful call does. -/
inductive Effect (state next : State Address) : Env Address contract × Operation Address → Prop
  where
  | begins (env : Env Address contract) (admin : Address) (arbiterFeeBps : Nat)
      (untouched : state.initialized = false)
      (written : next =
        { state with admin := some admin, arbiterFeeBps, initialized := true, analytics := {} }) :
      Effect state next (env, .initializeEscrow admin arbiterFeeBps)
  | create (env : Env Address contract) (client freelancer arbiter : Address) (totalAmount : Int)
      (amounts : List Int) (escrow : Escrow Address) (totalEscrows : Nat)
      (ready : state.initialized = true) (named : escrow.id = state.escrowCount + 1)
      (pending : escrow.status = .pending) (unpaid : escrow.paidAmount = 0)
      (counted : escrow.milestoneCount = amounts.length) (nonempty : amounts ≠ [])
      (positive : ∀ amount ∈ amounts, 0 < amount) (sum : escrow.totalAmount = amounts.sum)
      (written : next = (setMilestones escrow.id
        ({ state with escrowCount := escrow.id }.setEscrow escrow) 1 amounts).setAnalytics
          { state.analytics with totalEscrows }) :
      Effect state next (env, .createEscrow client freelancer arbiter totalAmount amounts)
  | deposit (env : Env Address contract) (client : Address) (escrow : Escrow Address)
      (first : Milestone) (ready : state.initialized = true)
      (stored : state.escrows.get escrow.id = some escrow) (pending : escrow.status = .pending)
      (found : state.milestones.get (escrow.id, first.id) = some first) (one : first.id = 1)
      (representable : InI128 (state.analytics.totalValueLocked + escrow.totalAmount))
      (written : next =
        ((state.setMilestone escrow.id { first with status := .inProgress }).setEscrow
          { escrow with status := .active }).setAnalytics
          { state.analytics with
            activeEscrows := state.analytics.activeEscrows + 1
            totalValueLocked := state.analytics.totalValueLocked + escrow.totalAmount }) :
      Effect state next (env, .deposit escrow.id client)
  | move (call : Env Address contract × Operation Address) (escrow : Escrow Address)
      (milestone : Milestone) (status : MilestoneStatus) (ready : state.initialized = true)
      (stored : state.escrows.get escrow.id = some escrow) (active : escrow.status = .active)
      (found : state.milestones.get (escrow.id, milestone.id) = some milestone)
      (moves : MilestoneMove milestone.status status)
      (other : ∀ id caller milestoneId, call.2 ≠ .releasePayment id caller milestoneId)
      (unresolved : ∀ id caller ruling, call.2 ≠ .resolveDispute id caller ruling)
      (written : next = state.setMilestone escrow.id { milestone with status }) :
      Effect state next call
  | release (env : Env Address contract) (client : Address) (escrow : Escrow Address)
      (milestone : Milestone) (ready : state.initialized = true)
      (stored : state.escrows.get escrow.id = some escrow) (active : escrow.status = .active)
      (found : state.milestones.get (escrow.id, milestone.id) = some milestone)
      (approved : milestone.status = .approved)
      (unfinished : escrow.paidAmount + milestone.amount < escrow.totalAmount)
      (written : next = (state.pay escrow milestone).setEscrow
        { escrow with paidAmount := escrow.paidAmount + milestone.amount }) :
      Effect state next (env, .releasePayment escrow.id client milestone.id)
  | complete (env : Env Address contract) (client : Address) (escrow : Escrow Address)
      (milestone : Milestone) (completedEscrows : Nat) (ready : state.initialized = true)
      (stored : state.escrows.get escrow.id = some escrow) (active : escrow.status = .active)
      (found : state.milestones.get (escrow.id, milestone.id) = some milestone)
      (approved : milestone.status = .approved)
      (finished : escrow.totalAmount ≤ escrow.paidAmount + milestone.amount)
      (written : next = ((state.pay escrow milestone).setAnalytics
        { state.analytics with
          activeEscrows := state.analytics.activeEscrows - 1
          completedEscrows
          totalValueLocked := saturateI128 (state.analytics.totalValueLocked - escrow.totalAmount)
          totalPaidOut := state.analytics.totalPaidOut + escrow.totalAmount }).setEscrow
        { escrow with
          paidAmount := escrow.paidAmount + milestone.amount
          status := .completed }) :
      Effect state next (env, .releasePayment escrow.id client milestone.id)
  | dispute (env : Env Address contract) (initiator : Address) (escrow : Escrow Address)
      (disputedEscrows : Nat) (ready : state.initialized = true)
      (stored : state.escrows.get escrow.id = some escrow) (active : escrow.status = .active)
      (written : next = (state.setEscrow { escrow with status := .disputed }).setAnalytics
        { state.analytics with
          disputedEscrows
          activeEscrows := state.analytics.activeEscrows - 1 }) :
      Effect state next (env, .raiseDispute escrow.id initiator)
  | resolve (env : Env Address contract) (arbiter : Address) (ruling : Nat)
      (escrow : Escrow Address) (completedEscrows : Nat) (ready : state.initialized = true)
      (stored : state.escrows.get escrow.id = some escrow) (disputed : escrow.status = .disputed)
      (written : next = (state.setEscrow
          { escrow with paidAmount := escrow.totalAmount, status := .completed }).setAnalytics
        { state.analytics with
          completedEscrows
          totalValueLocked := saturateI128
            (state.analytics.totalValueLocked - (escrow.totalAmount - escrow.paidAmount))
          totalPaidOut :=
            state.analytics.totalPaidOut + (escrow.totalAmount - escrow.paidAmount) }) :
      Effect state next (env, .resolveDispute escrow.id arbiter ruling)
  | cancel (env : Env Address contract) (client : Address) (escrow : Escrow Address)
      (cancelledEscrows : Nat) (ready : state.initialized = true)
      (stored : state.escrows.get escrow.id = some escrow) (pending : escrow.status = .pending)
      (written : next = (state.setEscrow { escrow with status := .cancelled }).setAnalytics
        { state.analytics with cancelledEscrows }) :
      Effect state next (env, .cancelEscrow escrow.id client)

variable {amounts : List Int}

section Calls

variable {state next : State Address}

theorem foldlM_sumAmounts {start sum : Int} (validated : amounts.foldlM (fun sum amount => do
      ensure (¬ amount ≤ 0) Escrow.Error.invalidAmount
      checkedAdd .trap sum amount) start = .ok sum) :
    sum = start + amounts.sum ∧ ∀ amount ∈ amounts, 0 < amount := by
  induction amounts generalizing start with
  | nil =>
    cases validated
    exact ⟨(add_zero _).symm, nofun⟩
  | cons _ _ ih =>
    obtain ⟨_, first, rest⟩ := bind_eq_ok.mp validated
    simp only [call_ok, arith_ok] at first
    obtain ⟨pos, -, rfl⟩ := first
    obtain ⟨_, others⟩ := ih rest
    rw [List.sum_cons]
    exact ⟨by omega, List.forall_mem_cons.mpr ⟨not_le.mp pos, others⟩⟩

variable [DecidableEq Address]

theorem dispatch_effect {call : Env Address contract × Operation Address} (filed : Filed state)
    (ran : dispatch state call = .ok next) : Effect state next call := by
  obtain ⟨env, op⟩ := call
  have moved {party : Escrow Address → Address} {before after : MilestoneStatus} {id : Nat}
      {caller : Address} {milestoneId : Nat} (moves : MilestoneMove before after)
      (other : ∀ id caller milestoneId, op ≠ .releasePayment id caller milestoneId)
      (unresolved : ∀ id caller ruling, op ≠ .resolveDispute id caller ruling)
      (ran : moveMilestone party before after env id caller milestoneId state = .ok next) :
      Effect state next (env, op) := by
    simp only [moveMilestone, ensureInitialized, getEscrow, getMilestone,
      call_ok] at ran
    obtain ⟨ready, -, escrow, got, -, active, milestone, found, rfl, rfl⟩ := ran
    obtain ⟨rfl, -⟩ := filed.named id escrow got
    obtain ⟨rfl, -⟩ := filed.numbered _ milestone found
    exact .move _ escrow milestone after ready got active found moves other unresolved rfl
  cases op with
  | initializeEscrow admin arbiterFeeBps =>
    simp only [dispatch, initializeEscrow, call_ok] at ran
    obtain ⟨untouched, -, -, rfl⟩ := ran
    exact .begins env admin arbiterFeeBps untouched rfl
  | createEscrow client freelancer arbiter totalAmount amounts =>
    obtain ⟨⟨id, left⟩, created, rfl⟩ := map_eq_ok.mp ran
    simp only [createEscrow, ensureInitialized, incrementEscrowCount, call_ok,
      arith_ok] at created
    obtain ⟨ready, -, -, nonempty, -, sum, validated, rfl, -, -, rfl, rfl⟩ := created
    obtain ⟨total, pos⟩ := foldlM_sumAmounts validated
    rw [zero_add] at total
    let escrow : Escrow Address :=
      { id := state.escrowCount + 1, client, freelancer, arbiter, totalAmount := sum
        paidAmount := 0, milestoneCount := amounts.length, status := .pending
        createdAt := env.timestamp, arbiterFeeBps := state.arbiterFeeBps }
    exact .create env client freelancer arbiter sum amounts escrow _ ready rfl rfl rfl rfl
      nonempty pos total rfl
  | deposit escrowId client =>
    simp only [dispatch, deposit, ensureInitialized, getEscrow, getMilestone, call_ok,
      arith_ok] at ran
    obtain ⟨ready, -, escrow, got, -, pending, first, found, -, representable, rfl⟩ := ran
    obtain ⟨rfl, -⟩ := filed.named escrowId escrow got
    have one : first.id = 1 := (filed.numbered _ first found).1
    exact .deposit env client escrow first ready got pending (one ▸ found) one representable
      rfl
  | submitMilestone =>
    exact moved (.inl ⟨rfl, rfl⟩) (by simp) (by simp) ran
  | approveMilestone =>
    exact moved (.inr (.inl ⟨rfl, rfl⟩)) (by simp) (by simp) ran
  | rejectMilestone =>
    exact moved (.inr (.inr ⟨rfl, rfl⟩)) (by simp) (by simp) ran
  | releasePayment escrowId client =>
    obtain ⟨⟨_, left⟩, released, rfl⟩ := map_eq_ok.mp ran
    simp only [releasePayment, ensureInitialized, getEscrow, getMilestone, call_ok,
      arith_ok] at released
    obtain ⟨ready, -, escrow, got, -, active, milestone, found, approved, _, -, -, -, -,
      released⟩ := released
    obtain ⟨rfl, -⟩ := filed.named escrowId escrow got
    obtain ⟨rfl, -⟩ := filed.numbered _ milestone found
    by_cases finished : escrow.totalAmount ≤ escrow.paidAmount + milestone.amount
    · rw [if_pos finished] at released
      simp only [Analytics.complete, call_ok, arith_ok] at released
      obtain ⟨-, -, -, rfl⟩ := released
      exact .complete env client escrow milestone _ ready got active found approved finished
        rfl
    · rw [if_neg finished] at released
      obtain ⟨-, rfl⟩ := released
      exact .release env client escrow milestone ready got active found approved
        (not_le.mp finished) rfl
  | raiseDispute escrowId initiator =>
    simp only [dispatch, raiseDispute, ensureInitialized, getEscrow, call_ok,
      arith_ok] at ran
    obtain ⟨ready, -, escrow, got, -, active, -, rfl⟩ := ran
    obtain ⟨rfl, -⟩ := filed.named escrowId escrow got
    exact .dispute env initiator escrow _ ready got active rfl
  | resolveDispute escrowId arbiter ruling =>
    obtain ⟨⟨_, _⟩, resolved, rfl⟩ := map_eq_ok.mp ran
    simp only [resolveDispute, ensureInitialized, getEscrow, call_ok, arith_ok] at resolved
    obtain ⟨ready, -, escrow, got, -, disputed, _, -, -, _, -, _, -, -,
      -, -, rfl⟩ := resolved
    obtain ⟨rfl, -⟩ := filed.named escrowId escrow got
    exact .resolve env arbiter ruling escrow _ ready got disputed rfl
  | cancelEscrow escrowId client =>
    simp only [dispatch, cancelEscrow, ensureInitialized, getEscrow, call_ok,
      arith_ok] at ran
    obtain ⟨ready, -, escrow, got, -, pending, -, rfl⟩ := ran
    obtain ⟨rfl, -⟩ := filed.named escrowId escrow got
    exact .cancel env client escrow _ ready got pending rfl

end Calls

variable (escrowId : Nat) (state : State Address)

theorem setMilestones_frame (milestoneId : Nat) (amounts : List Int) :
    ∃ milestones, setMilestones escrowId state milestoneId amounts = { state with milestones } := by
  induction amounts generalizing state milestoneId with
  | nil => exact ⟨_, rfl⟩
  | cons _ _ ih =>
    obtain ⟨milestones, same⟩ := ih (state.setMilestone escrowId _) (milestoneId + 1)
    exact ⟨milestones, same⟩

theorem startNext_frame (milestoneCount nextId : Nat) :
    ∃ milestones, startNext escrowId milestoneCount nextId state = { state with milestones } := by
  unfold startNext
  split
  · split
    · split
      · exact ⟨_, rfl⟩
      · exact ⟨_, rfl⟩
    · exact ⟨_, rfl⟩
  · exact ⟨_, rfl⟩

@[simp] theorem setMilestones_initialized (milestoneId : Nat) (amounts : List Int) :
    (setMilestones escrowId state milestoneId amounts).initialized = state.initialized := by
  obtain ⟨_, same⟩ := setMilestones_frame escrowId state milestoneId amounts
  rw [same]

@[simp] theorem setMilestones_escrows (milestoneId : Nat) (amounts : List Int) :
    (setMilestones escrowId state milestoneId amounts).escrows = state.escrows := by
  obtain ⟨_, same⟩ := setMilestones_frame escrowId state milestoneId amounts
  rw [same]

theorem pay_frame (escrow : Escrow Address) (milestone : Milestone) :
    ∃ milestones, state.pay escrow milestone = { state with milestones } := by
  obtain ⟨milestones, same⟩ := startNext_frame escrow.id
    (state.setMilestone escrow.id { milestone with status := .paid }) escrow.milestoneCount
    (milestone.id + 1)
  exact ⟨milestones, same⟩

@[simp] theorem pay_escrows (escrow : Escrow Address) (milestone : Milestone) :
    (state.pay escrow milestone).escrows = state.escrows := by
  obtain ⟨_, same⟩ := pay_frame state escrow milestone
  rw [same]

@[simp] theorem pay_analytics (escrow : Escrow Address) (milestone : Milestone) :
    (state.pay escrow milestone).analytics = state.analytics := by
  obtain ⟨_, same⟩ := pay_frame state escrow milestone
  rw [same]

@[simp] theorem pay_initialized (escrow : Escrow Address) (milestone : Milestone) :
    (state.pay escrow milestone).initialized = state.initialized := by
  obtain ⟨_, same⟩ := pay_frame state escrow milestone
  rw [same]

/-- A milestone started if it was pending. -/
def Milestone.start (milestone : Milestone) : Milestone :=
  if milestone.status = .pending then { milestone with status := .inProgress } else milestone

variable {state : State Address}

theorem get_setMilestones_of_ne {escrowId : Nat} {milestoneId : Nat}
    {key : Nat × Nat} (ne : key.1 ≠ escrowId ∨ key.2 < milestoneId) :
    (setMilestones escrowId state milestoneId amounts).milestones.get key =
      state.milestones.get key := by
  induction amounts generalizing state milestoneId with
  | nil => rfl
  | cons _ _ ih =>
    have other : key ≠ (escrowId, milestoneId) := by
      rintro rfl
      rcases ne with ne | below
      · exact ne rfl
      · exact Nat.lt_irrefl _ below
    exact (ih (ne.imp_right Nat.lt_succ_of_lt)).trans (get_set_of_ne _ _ other)

theorem get_setMilestones {escrowId : Nat} {milestoneId index : Nat}
    (gone : ∀ later, milestoneId ≤ later → state.milestones.get (escrowId, later) = none) :
    (setMilestones escrowId state milestoneId amounts).milestones.get
        (escrowId, milestoneId + index) =
      amounts[index]?.map fun amount =>
        { id := milestoneId + index, amount, status := .pending } := by
  induction amounts generalizing state milestoneId index with
  | nil => exact gone _ (Nat.le_add_right _ _)
  | cons _ _ ih =>
    cases index with
    | zero =>
      exact (get_setMilestones_of_ne (.inr (Nat.lt_succ_self _))).trans (get_set_self _ _ _)
    | succ index =>
      have shifted : milestoneId + (index + 1) = milestoneId + 1 + index := by omega
      rw [shifted, List.getElem?_cons_succ]
      apply ih
      intro later above
      have other : (escrowId, later) ≠ (escrowId, milestoneId) := by
        simp only [ne_eq, Prod.mk.injEq, true_and]
        omega
      exact (get_set_of_ne _ _ other).trans (gone later (by omega))

variable {escrow : Escrow Address}

theorem get_pay {paid : Milestone} (filed : Filed state) (key : Nat × Nat) :
    (state.pay escrow paid).milestones.get key =
      if key = (escrow.id, paid.id) then some { paid with status := .paid }
      else if key = (escrow.id, paid.id + 1) ∧ paid.id + 1 ≤ escrow.milestoneCount then
        (state.milestones.get key).map Milestone.start
      else state.milestones.get key := by
  let settled := state.setMilestone escrow.id { paid with status := .paid }
  have at_settled (other : Nat × Nat) : settled.milestones.get other =
      if other = (escrow.id, paid.id) then some { paid with status := .paid }
      else state.milestones.get other :=
    get_set _ _ _ _
  have after : (escrow.id, paid.id + 1) ≠ (escrow.id, paid.id) := by simp
  have successor := at_settled (escrow.id, paid.id + 1)
  rw [if_neg after] at successor
  change (startNext escrow.id escrow.milestoneCount (paid.id + 1) settled).milestones.get key = _
  unfold startNext
  by_cases inside : paid.id + 1 ≤ escrow.milestoneCount
  · rw [if_pos inside, successor]
    cases found : state.milestones.get (escrow.id, paid.id + 1) with
    | none =>
      rw [at_settled]
      by_cases same : key = (escrow.id, paid.id + 1)
      · rw [same, if_neg after, if_neg after, if_pos ⟨rfl, inside⟩, found]
        rfl
      · rw [if_neg (fun both : _ ∧ _ => same both.1)]
    | some next =>
      have named : next.id = paid.id + 1 := (filed.numbered _ next found).1
      by_cases same : key = (escrow.id, paid.id + 1)
      · rw [same, if_neg after, if_pos ⟨rfl, inside⟩, found, Option.map_some, Milestone.start]
        by_cases pending : next.status = .pending
        · simp only [if_pos pending]
          rw [setMilestone, named]
          exact get_set_self _ _ _
        · simp only [if_neg pending]
          exact successor.trans found
      · rw [if_neg (fun both : _ ∧ _ => same both.1)]
        by_cases pending : next.status = .pending
        · simp only [if_pos pending]
          rw [setMilestone, named, get_set_of_ne _ _ same]
          exact at_settled key
        · simp only [if_neg pending]
          exact at_settled key
  · rw [if_neg inside, if_neg (fun both : _ ∧ _ => inside both.2)]
    exact at_settled key

namespace Filed

variable (filed : Filed state)
include filed

theorem setEscrow (counted : escrow.id ≤ state.escrowCount) : Filed (state.setEscrow escrow) where
  named := forall_set filed.named ⟨rfl, counted⟩
  numbered := filed.numbered

theorem setMilestone {escrowId : Nat} {milestone : Milestone}
    (counted : escrowId ≤ state.escrowCount) : Filed (state.setMilestone escrowId milestone) where
  named := filed.named
  numbered := forall_set filed.numbered ⟨rfl, counted⟩

theorem setAnalytics {analytics : Analytics} : Filed (state.setAnalytics analytics) :=
  ⟨filed.named, filed.numbered⟩

theorem setMilestones {escrowId : Nat} (counted : escrowId ≤ state.escrowCount) (milestoneId : Nat)
    (amounts : List Int) : Filed (setMilestones escrowId state milestoneId amounts) := by
  induction amounts generalizing state milestoneId with
  | nil => exact filed
  | cons _ _ ih => exact ih (filed.setMilestone counted) counted _

theorem pay (counted : escrow.id ≤ state.escrowCount)
    (milestone : Milestone) : Filed (state.pay escrow milestone) := by
  have settled : Filed (state.setMilestone escrow.id { milestone with status := .paid }) :=
    filed.setMilestone counted
  unfold State.pay startNext
  split
  · split
    · split
      · exact settled.setMilestone counted
      · exact settled
    · exact settled
  · exact settled

end Filed

variable {next : State Address} {call : Env Address contract × Operation Address}

theorem Effect.filed (filed : Filed state) (effect : Effect state next call) : Filed next := by
  have counted {escrow : Escrow Address} (got : state.escrows.get escrow.id = some escrow) :=
    (filed.named escrow.id escrow got).2
  cases effect with
  | begins _ _ _ _ wrote =>
    subst wrote
    exact ⟨filed.named, filed.numbered⟩
  | create _ _ _ _ _ amounts escrow _ _ fresh _ _ _ _ _ _ wrote =>
    have above : state.escrowCount ≤ escrow.id := fresh ▸ Nat.le_succ _
    have extended : Filed { state with escrowCount := escrow.id } :=
      { named := fun id other got =>
          (filed.named id other got).imp_right fun below => below.trans above
        numbered := fun key milestone got =>
          (filed.numbered key milestone got).imp_right fun below => below.trans above }
    have planned := (extended.setEscrow le_rfl).setMilestones le_rfl 1 amounts
    subst wrote
    exact planned.setAnalytics
  | deposit _ _ escrow first _ got _ _ _ _ wrote =>
    have below := counted got
    have started : Filed (state.setMilestone escrow.id { first with status := .inProgress }) :=
      filed.setMilestone below
    subst wrote
    apply Filed.setAnalytics
    exact started.setEscrow below
  | move _ _ _ _ _ got _ _ _ _ _ wrote =>
    have below := counted got
    subst wrote
    exact filed.setMilestone below
  | release _ _ escrow milestone _ got _ _ _ _ wrote =>
    have below := counted got
    have paid := filed.pay below milestone
    obtain ⟨milestones, same⟩ := pay_frame state escrow milestone
    rw [same] at paid wrote
    subst wrote
    exact paid.setEscrow below
  | complete _ _ escrow milestone _ _ got _ _ _ _ wrote =>
    have below := counted got
    have paid := filed.pay below milestone
    obtain ⟨_, same⟩ := pay_frame state escrow milestone
    rw [same] at paid wrote
    subst wrote
    exact paid.setAnalytics.setEscrow below
  | dispute _ _ _ _ _ got _ wrote =>
    have below := counted got
    subst wrote
    apply Filed.setAnalytics
    exact filed.setEscrow below
  | resolve _ _ _ _ _ _ got _ wrote =>
    have below := counted got
    subst wrote
    apply Filed.setAnalytics
    exact filed.setEscrow below
  | cancel _ _ _ _ _ got _ wrote =>
    have below := counted got
    subst wrote
    apply Filed.setAnalytics
    exact filed.setEscrow below

end SorobanPlayground.MilestoneEscrow
