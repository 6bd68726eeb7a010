import SorobanPlayground.VcVesting.Contract

/-! # What a tranche pays out

A tranche should pay out no more than its amount, and each investor no more than its
share. The release pays the whole amount to the pool's admin, and a claim pays on top
of it and leaves no record: the bounds of a tranche hold exactly until its first
claim.
-/

namespace SorobanPlayground.VcVesting

variable {Address : Type} [DecidableEq Address] {contract : Address}

/-- What has been paid out because of a tranche, by all calls and to claiming investors. -/
structure Payouts (Address : Type) where
  total : Int := 0
  claimed : Int := 0
  received : Address → Int := fun _ => 0

def Payouts.release (payouts : Payouts Address) (amount : Int) : Payouts Address :=
  { payouts with total := payouts.total + amount }

def Payouts.claim (payouts : Payouts Address) (investor : Address) (amount : Int) :
    Payouts Address where
  total := payouts.total + amount
  claimed := payouts.claimed + amount
  received := Function.update payouts.received investor (payouts.received investor + amount)

/-- What a call takes out of the contract. -/
def outflow (contract : Address) (state next : State Address) : Int :=
  match state.token with
  | some token => state.ledger token contract - next.ledger token contract
  | none => 0

/-- The payouts of a tranche after a successful call. -/
def follow (poolId trancheId : Nat) (state : State Address)
    (call : Env Address contract × Operation Address) (next : State Address)
    (payouts : Payouts Address) : Payouts Address :=
  match call.2 with
  | .finalizeVoting pool tranche =>
      if (pool, tranche) = (poolId, trancheId) then
        payouts.release (outflow contract state next)
      else payouts
  | .claimTokens pool tranche investor =>
      if (pool, tranche) = (poolId, trancheId) then
        payouts.claim investor (outflow contract state next)
      else payouts
  | _ => payouts

/-- The contract beside whose state the payouts of a tranche are counted. -/
def payoutMachine (tokens : TokenHost Address) (contract : Address) (poolId trancheId : Nat) :
    CallMachine (State Address × Payouts Address) (Env Address contract × Operation Address)
      (Failure Error) :=
  (machine tokens contract).withGhost (follow poolId trancheId)

def State.trancheAmount (state : State Address) (poolId trancheId : Nat) : Int :=
  ((state.tranches.get (poolId, trancheId)).map Tranche.totalAmount).getD 0

def State.allocationOf (state : State Address) (poolId : Nat) (investor : Address) : Int :=
  ((state.investors.get (poolId, investor)).map Investor.allocation).getD 0

/-- A tranche has paid out no more than its amount, and to each investor no more than its share. -/
structure Within (poolId trancheId : Nat) (account : State Address × Payouts Address) : Prop where
  total : account.2.total ≤ account.1.trancheAmount poolId trancheId
  received : ∀ investor, account.2.received investor ≤
    account.1.trancheAmount poolId trancheId * account.1.allocationOf poolId investor /
      account.1.investorAllocation poolId

def AddedOnce (state : State Address) (call : Env Address contract × Operation Address) : Prop :=
  match call.2 with
  | .addTranche poolId trancheId .. => state.tranches.get (poolId, trancheId) = none
  | .addInvestor poolId investor _ => state.investors.get (poolId, investor) = none
  | _ => True

/-- The call is no claim on a tranche. -/
def Unclaimed (poolId trancheId : Nat) (_ : State Address)
    (call : Env Address contract × Operation Address) : Prop :=
  ∀ investor, call.2 ≠ .claimTokens poolId trancheId investor

/-- What the payouts of a tranche are made of: its release and its claims. -/
structure Counted (state : State Address) (poolId trancheId : Nat) (payouts : Payouts Address) :
    Prop where
  released : ∀ tranche, state.tranches.get (poolId, trancheId) = some tranche →
    tranche.released = true → payouts.total = tranche.totalAmount + payouts.claimed
  unreleased : (∀ tranche, state.tranches.get (poolId, trancheId) = some tranche →
    tranche.released = false) → payouts.total = 0 ∧ payouts.claimed = 0
  received : ∀ investor, payouts.received investor ≤ payouts.claimed
  claimed : 0 ≤ payouts.claimed

/-- Amounts are positive and the admins are not the contract. -/
structure Wellformed (contract : Address) (state : State Address) : Prop where
  tranches : ∀ key tranche, state.tranches.get key = some tranche → 0 < tranche.totalAmount
  investors : ∀ key investor, state.investors.get key = some investor → 0 < investor.allocation
  totals : ∀ poolId total, state.totalInvestorAllocation.get poolId = some total → 0 ≤ total
  admin : ∀ admin, state.admin = some admin → admin ≠ contract
  pools : ∀ poolId pool, state.pools.get poolId = some pool → pool.admin ≠ contract

structure Books (contract : Address) (poolId trancheId : Nat)
    (account : State Address × Payouts Address) : Prop where
  wellformed : Wellformed contract account.1
  counted : Counted account.1 poolId trancheId account.2

/-- A tranche changes by a vote or its opening. -/
structure Revised (before after : Tranche) : Prop where
  amount : after.totalAmount = before.totalAmount
  released : before.released = false ∧ after.released = false

/-- The calls that pay nobody. -/
def Operation.Unpaid : Operation Address → Prop
  | .finalizeVoting .. | .claimTokens .. => False
  | _ => True

/-- What a successful call leaves of the tranches and what it pays. -/
inductive Effect (contract : Address) (state : State Address) :
    Operation Address → State Address → Prop
  | quiet (operation : Operation Address) (next : State Address) (unpaid : operation.Unpaid)
      (tranches : next.tranches = state.tranches) : Effect contract state operation next
  | added (poolId trancheId : Nat) (amount : Int) (milestoneDescription : String)
      (requiredVotesBps : Nat) (tranche : Tranche) (unreleased : tranche.released = false) :
      Effect contract state
        (.addTranche poolId trancheId amount milestoneDescription requiredVotesBps)
        { state with tranches := state.tranches.set (poolId, trancheId) tranche }
  | revised (operation : Operation Address) (next : State Address) (poolId trancheId : Nat)
      (before after : Tranche) (unpaid : operation.Unpaid)
      (stored : state.tranches.get (poolId, trancheId) = some before)
      (revision : Revised before after)
      (tranches : next.tranches = state.tranches.set (poolId, trancheId) after) :
      Effect contract state operation next
  | rejected (poolId trancheId : Nat) :
      Effect contract state (.finalizeVoting poolId trancheId) state
  | released (poolId trancheId : Nat) (before after : Tranche) (ledger : TokenLedger Address)
      (stored : state.tranches.get (poolId, trancheId) = some before)
      (unreleased : before.released = false) (closed : after.released = true)
      (amount : after.totalAmount = before.totalAmount)
      (paid : outflow contract state { state with ledger } = before.totalAmount) :
      Effect contract state (.finalizeVoting poolId trancheId) { state with
        tranches := state.tranches.set (poolId, trancheId) after
        ledger }
  | claimed (poolId trancheId : Nat) (investor : Address) (tranche : Tranche)
      (ledger : TokenLedger Address)
      (stored : state.tranches.get (poolId, trancheId) = some tranche)
      (released : tranche.released = true)
      (paid : 0 < outflow contract state { state with ledger }) :
      Effect contract state (.claimTokens poolId trancheId investor) { state with ledger }

variable {state next : State Address} {env : Env Address contract} {tokens : TokenHost Address}

omit [DecidableEq Address] in
theorem Wellformed.investorAllocation_nonneg [DecidableEq Address] (wf : Wellformed contract state)
    (poolId : Nat) : 0 ≤ state.investorAllocation poolId := by
  unfold State.investorAllocation
  cases got : state.totalInvestorAllocation.get poolId with
  | none => exact le_rfl
  | some total => exact wf.totals poolId total got

variable {ledger : TokenLedger Address}

theorem outflow_of_paid {token receiver : Address} {amount : Int}
    (named : state.token = some token) (away : receiver ≠ contract)
    (paid : (tokens.pay state.ledger token contract receiver amount : Outcome Error _) =
      .ok ledger) :
    outflow contract state { state with ledger } = amount := by
  have debited := tokens.pay_spent paid away
  unfold outflow
  rw [named]
  dsimp only
  omega

theorem finalizeVoting_effect {poolId trancheId : Nat} {approved : Bool}
    (wf : Wellformed contract state)
    (ran : finalizeVoting tokens env poolId trancheId state = .ok (approved, next)) :
    Wellformed contract next ∧ Effect contract state (.finalizeVoting poolId trancheId) next := by
  simp only [finalizeVoting, call_ok, arith_ok] at ran
  obtain ⟨tranche, got, unreleased, -, -, -, -, -, counted⟩ := ran
  split at counted
  · simp only [call_ok] at counted
    obtain ⟨_, named, pool, found, ledger, paid, -, rfl⟩ := counted
    have away := wf.pools poolId pool found
    have pos := wf.tranches (poolId, trancheId) tranche got
    refine ⟨⟨?_, wf.investors, wf.totals, wf.admin, wf.pools⟩, ?_⟩
    · exact forall_set wf.tranches pos
    · exact .released poolId trancheId tranche _ ledger got unreleased rfl rfl
        (outflow_of_paid named away paid)
  · cases counted
    exact ⟨wf, .rejected poolId trancheId⟩

theorem claimTokens_effect {poolId trancheId : Nat} {investor : Address} {claimAmount : Int}
    (wf : Wellformed contract state)
    (ran : claimTokens tokens env poolId trancheId investor state = .ok (claimAmount, next)) :
    Wellformed contract next ∧
      Effect contract state (.claimTokens poolId trancheId investor) next := by
  simp only [claimTokens, call_ok, arith_ok] at ran
  obtain ⟨signed, tranche, got, released, _, -, _, -, -, -, -, -,
    pos, _, named, ledger, paid, -, rfl⟩ := ran
  refine ⟨⟨wf.tranches, wf.investors, wf.totals, wf.admin,
    wf.pools⟩, .claimed poolId trancheId investor tranche ledger got released ?_⟩
  rw [outflow_of_paid named (env.ne_contract signed) paid]
  exact not_le.mp pos

theorem dispatch_effect {operation : Operation Address} (wf : Wellformed contract state)
    (ran : dispatch tokens state (env, operation) = .ok next) :
    Wellformed contract next ∧ Effect contract state operation next := by
  cases operation with
  | initializeVesting =>
    simp only [dispatch, initializeVesting, call_ok] at ran
    obtain ⟨-, signed, rfl⟩ := ran
    refine ⟨⟨wf.tranches, wf.investors, wf.totals, ?_,
      wf.pools⟩, .quiet _ _ trivial rfl⟩
    rintro _ ⟨⟩
    exact env.ne_contract signed
  | createPool =>
    obtain ⟨⟨poolId, after⟩, created, rfl⟩ := map_eq_ok.mp ran
    simp only [createPool, call_ok, arith_ok] at created
    obtain ⟨admin, -, signed, -, -, _, -, -, rfl⟩ := created
    refine ⟨⟨wf.tranches, wf.investors, ?_, wf.admin, ?_⟩,
      .quiet _ _ trivial rfl⟩
    · exact forall_set wf.totals le_rfl
    · exact forall_set wf.pools (env.ne_contract signed)
  | addTranche =>
    simp only [dispatch, addTranche, call_ok] at ran
    obtain ⟨admin, -, -, _, -, -, -, valid, rfl⟩ := ran
    have pos := not_le.mp (not_or.mp valid).1
    refine ⟨⟨?_, wf.investors, wf.totals, wf.admin, wf.pools⟩,
      .added _ _ _ _ _ _ rfl⟩
    exact forall_set wf.tranches pos
  | addInvestor poolId =>
    simp only [dispatch, addInvestor, call_ok, arith_ok] at ran
    obtain ⟨admin, -, -, valid, _, -, -, -, rfl⟩ := ran
    have pos := not_le.mp valid
    refine ⟨⟨wf.tranches, ?_, ?_, wf.admin, wf.pools⟩,
      .quiet _ _ trivial rfl⟩
    · exact forall_set wf.investors pos
    · exact forall_set wf.totals
        (add_nonneg (wf.investorAllocation_nonneg poolId) pos.le)
  | openVoting poolId trancheId votingDuration =>
    simp only [dispatch, openVoting, call_ok, arith_ok] at ran
    obtain ⟨admin, -, -, -, tranche, got, unreleased, -, rfl⟩ := ran
    refine ⟨⟨?_, wf.investors, wf.totals, wf.admin, wf.pools⟩,
      .revised _ _ poolId trancheId tranche
        { tranche with votingEndTime := env.timestamp + votingDuration } trivial got
        ⟨rfl, unreleased, unreleased⟩ rfl⟩
    have pos := wf.tranches (poolId, trancheId) tranche got
    exact forall_set wf.tranches pos
  | vote poolId trancheId _ approve =>
    simp only [dispatch, vote, call_ok, arith_ok] at ran
    obtain ⟨-, -, _, -, tranche, got, unreleased, -, -, rfl⟩ := ran
    have pos := wf.tranches (poolId, trancheId) tranche got
    refine ⟨⟨forall_set wf.tranches ?_, wf.investors,
      wf.totals, wf.admin, wf.pools⟩,
      .revised _ _ poolId trancheId tranche _ trivial got ⟨?_, unreleased, ?_⟩ rfl⟩
    · cases approve <;> exact pos
    · cases approve <;> rfl
    · cases approve <;> exact unreleased
  | finalizeVoting =>
    obtain ⟨⟨_, after⟩, finalized, rfl⟩ := map_eq_ok.mp ran
    exact finalizeVoting_effect wf finalized
  | claimTokens =>
    obtain ⟨⟨_, _⟩, claimed, rfl⟩ := map_eq_ok.mp ran
    exact claimTokens_effect wf claimed
  | transferTokens =>
    simp only [dispatch, call_ok] at ran
    obtain ⟨_, -, rfl⟩ := ran
    exact ⟨⟨wf.tranches, wf.investors, wf.totals, wf.admin,
      wf.pools⟩, .quiet _ _ trivial rfl⟩

variable {operation : Operation Address} {poolId trancheId : Nat} {payouts : Payouts Address}

theorem follow_of_unpaid (unpaid : operation.Unpaid) :
    follow poolId trancheId state (env, operation) next payouts = payouts := by
  cases operation <;> first | rfl | exact unpaid.elim

section

omit [DecidableEq Address]

theorem Counted.of_unreleased (counted : Counted state poolId trancheId payouts)
    (before : ∀ tranche, state.tranches.get (poolId, trancheId) = some tranche →
      tranche.released = false)
    (after : ∀ tranche, next.tranches.get (poolId, trancheId) = some tranche →
      tranche.released = false) : Counted next poolId trancheId payouts where
  released tranche got released := by
    rw [after tranche got] at released
    cases released
  unreleased _ := counted.unreleased before
  received := counted.received
  claimed := counted.claimed

theorem Counted.of_same (counted : Counted state poolId trancheId payouts)
    (same : next.tranches.get (poolId, trancheId) = state.tranches.get (poolId, trancheId)) :
    Counted next poolId trancheId payouts where
  released := same ▸ counted.released
  unreleased := same ▸ counted.unreleased
  received := counted.received
  claimed := counted.claimed

end

theorem Counted.claim (counted : Counted state poolId trancheId payouts) {tranche : Tranche}
    (got : state.tranches.get (poolId, trancheId) = some tranche)
    (released : tranche.released = true) {investor : Address} {amount : Int} (paid : 0 < amount) :
    Counted { state with ledger } poolId trancheId (payouts.claim investor amount) where
  released current found closed := by
    unfold Payouts.claim
    rw [counted.released current found closed, add_assoc]
  unreleased every := by
    have still := every tranche got
    rw [released] at still
    cases still
  received other := by
    unfold Payouts.claim
    dsimp only
    by_cases this : other = investor
    · rw [this, Function.update_self]
      exact add_le_add_left (counted.received investor) amount
    · rw [Function.update_of_ne this]
      exact (counted.received other).trans (le_add_of_nonneg_right paid.le)
  claimed := add_nonneg counted.claimed paid.le

theorem follow_claim (investor : Address) :
    follow poolId trancheId state (env, .claimTokens poolId trancheId investor) next payouts =
      payouts.claim investor (outflow contract state next) := if_pos rfl

theorem follow_of_ne {pool id : Nat} (ne : (poolId, trancheId) ≠ (pool, id))
    (concerns : operation = .finalizeVoting pool id ∨
      ∃ investor, operation = .claimTokens pool id investor) :
    follow poolId trancheId state (env, operation) next payouts = payouts := by
  rcases concerns with rfl | ⟨_, rfl⟩
  · exact if_neg ne.symm
  · exact if_neg ne.symm

theorem counted_effect (counted : Counted state poolId trancheId payouts)
    (fresh : AddedOnce state (env, operation)) (effect : Effect contract state operation next) :
    Counted next poolId trancheId
      (follow poolId trancheId state (env, operation) next payouts) := by
  cases effect with
  | quiet _ _ unpaid tranches =>
    rw [follow_of_unpaid unpaid]
    exact counted.of_same (by rw [tranches])
  | added pool id _ _ _ _ unreleased =>
    by_cases same : (poolId, trancheId) = (pool, id)
    · cases same
      refine counted.of_unreleased ?_ ?_
      · intro before got
        cases (show state.tranches.get (poolId, trancheId) = none from fresh).symm.trans got
      · intro after got
        obtain rfl := Option.some.inj ((get_set_self _ _ _).symm.trans got)
        exact unreleased
    · exact counted.of_same (get_set_of_ne _ _ same)
  | revised _ _ pool id _ _ unpaid got revision tranches =>
    rw [follow_of_unpaid unpaid]
    by_cases same : (poolId, trancheId) = (pool, id)
    · cases same
      refine counted.of_unreleased ?_ ?_
      · intro tranche found
        cases got.symm.trans found
        exact revision.released.1
      · intro tranche found
        rw [tranches, get_set_self] at found
        cases found
        exact revision.released.2
    · refine counted.of_same ?_
      rw [tranches]
      exact get_set_of_ne _ _ same
  | rejected pool id =>
    have none : outflow contract state state = 0 := by
      unfold outflow
      split
      · exact sub_self _
      · rfl
    have unchanged : follow poolId trancheId state (env, .finalizeVoting pool id) state payouts =
        payouts := by
      unfold follow
      dsimp only
      rw [none]
      unfold Payouts.release
      rw [add_zero]
      split <;> rfl
    rw [unchanged]
    exact counted
  | released pool id before after ledger got unreleased closed amount paid =>
    by_cases same : (poolId, trancheId) = (pool, id)
    · cases same
      obtain ⟨unpaid, unclaimed⟩ := counted.unreleased fun tranche found => by
        cases got.symm.trans found
        exact unreleased
      have followed : follow poolId trancheId state (env, .finalizeVoting poolId trancheId)
          { state with
            tranches := state.tranches.set (poolId, trancheId) after
            ledger } payouts = payouts.release before.totalAmount := by
        rw [← paid]
        exact if_pos rfl
      rw [followed]
      refine ⟨fun tranche found _ => ?_, fun every => ?_, counted.received, counted.claimed⟩
      · obtain rfl := Option.some.inj ((get_set_self _ _ _).symm.trans found)
        unfold Payouts.release
        rw [unpaid, unclaimed, amount, zero_add, add_zero]
      · have still := every after (get_set_self _ _ _)
        rw [closed] at still
        cases still
    · rw [follow_of_ne same (.inl rfl)]
      exact counted.of_same (get_set_of_ne _ _ same)
  | claimed pool id investor _ _ got released paid =>
    by_cases same : (poolId, trancheId) = (pool, id)
    · cases same
      rw [follow_claim]
      exact counted.claim got released paid
    · rw [follow_of_ne same (.inr ⟨investor, rfl⟩)]
      exact counted.of_same rfl

theorem Wellformed.trancheAmount_nonneg (wf : Wellformed contract state) :
    0 ≤ state.trancheAmount poolId trancheId := by
  unfold State.trancheAmount
  cases got : state.tranches.get (poolId, trancheId) with
  | none => exact le_rfl
  | some tranche => exact (wf.tranches _ tranche got).le

theorem Wellformed.allocationOf_nonneg (wf : Wellformed contract state)
    (investor : Address) : 0 ≤ state.allocationOf poolId investor := by
  unfold State.allocationOf
  cases got : state.investors.get (poolId, investor) with
  | none => exact le_rfl
  | some entry => exact (wf.investors _ entry got).le

theorem within_iff_unclaimed (wf : Wellformed contract state)
    (counted : Counted state poolId trancheId payouts) :
    Within poolId trancheId (state, payouts) ↔ payouts.claimed = 0 := by
  constructor
  · intro within
    have atMost : payouts.total ≤ state.trancheAmount poolId trancheId := within.total
    by_cases unreleased : ∀ tranche, state.tranches.get (poolId, trancheId) = some tranche →
        tranche.released = false
    · exact (counted.unreleased unreleased).2
    · push Not at unreleased
      obtain ⟨tranche, got, closed⟩ := unreleased
      have total := counted.released tranche got (by simpa using closed)
      have amount : state.trancheAmount poolId trancheId = tranche.totalAmount := by
        unfold State.trancheAmount
        rw [got]
        rfl
      have nonneg := counted.claimed
      omega
  · intro unclaimed
    constructor
    · by_cases unreleased : ∀ tranche, state.tranches.get (poolId, trancheId) = some tranche →
          tranche.released = false
      · rw [(counted.unreleased unreleased).1]
        exact wf.trancheAmount_nonneg
      · push Not at unreleased
        obtain ⟨tranche, got, closed⟩ := unreleased
        rw [counted.released tranche got (by simpa using closed), unclaimed, add_zero]
        unfold State.trancheAmount
        rw [got]
        exact le_rfl
    · intro investor
      have received : payouts.received investor ≤ 0 := by
        rw [← unclaimed]
        exact counted.received investor
      refine received.trans (Int.ediv_nonneg ?_ (wf.investorAllocation_nonneg poolId))
      exact mul_nonneg wf.trancheAmount_nonneg (wf.allocationOf_nonneg investor)

theorem claimed_iff_unclaimed (unclaimed : payouts.claimed = 0)
    (effect : Effect contract state operation next) :
    (follow poolId trancheId state (env, operation) next payouts).claimed = 0 ↔
      Unclaimed poolId trancheId state (env, operation) := by
  cases effect with
  | quiet _ _ unpaid =>
    rw [follow_of_unpaid unpaid]
    refine iff_of_true unclaimed ?_
    rintro investor rfl
    exact unpaid
  | added =>
    exact iff_of_true unclaimed nofun
  | revised _ _ _ _ _ _ unpaid =>
    rw [follow_of_unpaid unpaid]
    refine iff_of_true unclaimed ?_
    rintro investor rfl
    exact unpaid
  | rejected =>
    refine iff_of_true ?_ nofun
    unfold follow
    dsimp only
    split <;> exact unclaimed
  | released =>
    refine iff_of_true ?_ nofun
    unfold follow
    dsimp only
    split <;> exact unclaimed
  | claimed pool id investor _ _ _ _ paid =>
    by_cases same : (poolId, trancheId) = (pool, id)
    · cases same
      refine iff_of_false ?_ fun unclaimed => unclaimed investor rfl
      rw [follow_claim]
      unfold Payouts.claim
      rw [unclaimed, zero_add]
      exact paid.ne'
    · rw [follow_of_ne same (.inr ⟨investor, rfl⟩)]
      refine iff_of_true unclaimed ?_
      rintro _ ⟨⟩
      exact same rfl

theorem books_empty (ledger : TokenLedger Address) :
    Books contract poolId trancheId ({ ledger }, {}) where
  wellformed := ⟨nofun, nofun, nofun, nofun, nofun⟩
  counted := ⟨nofun, fun _ => ⟨rfl, rfl⟩, fun _ => le_rfl, le_rfl⟩

theorem books_step (account : State Address × Payouts Address)
    (call : Env Address contract × Operation Address) (next : State Address × Payouts Address)
    (books : Books contract poolId trancheId account) (fresh : AddedOnce account.1 call)
    (ran : (payoutMachine tokens contract poolId trancheId).exec account call = .ok next) :
    Books contract poolId trancheId next := by
  obtain ⟨dispatched, followed⟩ := withGhost_exec_eq_ok.mp ran
  obtain ⟨wf, effect⟩ := dispatch_effect books.wellformed dispatched
  refine ⟨wf, ?_⟩
  rw [followed]
  exact counted_effect books.counted fresh effect

theorem within_step_iff (account : State Address × Payouts Address)
    (call : Env Address contract × Operation Address) (next : State Address × Payouts Address)
    (books : Books contract poolId trancheId account) (within : Within poolId trancheId account)
    (fresh : AddedOnce account.1 call)
    (ran : (payoutMachine tokens contract poolId trancheId).exec account call = .ok next) :
    Within poolId trancheId next ↔ Unclaimed poolId trancheId account.1 call := by
  have booksNext := books_step account call next books fresh ran
  obtain ⟨dispatched, followed⟩ := withGhost_exec_eq_ok.mp ran
  obtain ⟨-, effect⟩ := dispatch_effect books.wellformed dispatched
  rw [show Within poolId trancheId next ↔ next.2.claimed = 0 from within_iff_unclaimed
    booksNext.wellformed booksNext.counted, followed]
  exact claimed_iff_unclaimed ((within_iff_unclaimed books.wellformed books.counted).mp within)
    effect

/-- In a run that adds tranches and investors once, a tranche stays within its bounds exactly as
long as nothing is claimed on it. -/
theorem within_iff_no_claims (poolId trancheId : Nat) (ledger : TokenLedger Address)
    (calls : List (Env Address contract × Operation Address))
    (added : (machine tokens contract).Meets AddedOnce { ledger } calls) :
    (payoutMachine tokens contract poolId trancheId).Always (Within poolId trancheId)
        ({ ledger }, {}) calls ↔
      (machine tokens contract).Meets (Unclaimed poolId trancheId) { ledger } calls := by
  have assumed : (payoutMachine tokens contract poolId trancheId).Meets
      (fun account => AddedOnce account.1) ({ ledger }, {}) calls :=
    withGhost_meets.mpr added
  have books :
      Books contract poolId trancheId (({ ledger }, {}) : State Address × Payouts Address) :=
    books_empty ledger
  have initial : Within poolId trancheId (({ ledger }, {}) : State Address × Payouts Address) :=
    (within_iff_unclaimed books.wellformed books.counted).mpr rfl
  refine (CallMachine.always_iff_meets_assuming books_step within_step_iff books initial
    assumed).trans ?_
  exact withGhost_meets

/-! One investor holds a pool's whole allocation, and its tranche of 1,000 units is approved. -/

/-- A call at a given time that the admin 1 and the investor 2 authorize. -/
def signedAt (timestamp : Nat) : Env Nat 0 :=
  { timestamp, auths := [1, 2], contract_silent := zero_notMem_two_signers }

/-- The contract holds 3,000 units of the token 9. -/
def funded : TokenLedger Nat := fun token holder => if token = 9 ∧ holder = 0 then 3000 else 0

/-- The tranche is voted on and released. -/
def approvedTranche : List (Env Nat 0 × Operation Nat) :=
  [(signedAt 0, .initializeVesting 1 9), (signedAt 0, .createPool "fund" 1000 1),
    (signedAt 0, .addTranche 1 1 1000 "launch" 5000), (signedAt 0, .addInvestor 1 2 100),
    (signedAt 0, .openVoting 1 1 10), (signedAt 0, .vote 1 1 2 true),
    (signedAt 11, .finalizeVoting 1 1)]

theorem within_iff_no_claims_approved :
    (payoutMachine standardHost 0 1 1).Always (Within 1 1) ({ ledger := funded }, {})
        approvedTranche ↔
      (machine standardHost 0).Meets (Unclaimed 1 1) { ledger := funded } approvedTranche := by
  refine within_iff_no_claims 1 1 funded approvedTranche ?_
  refine ⟨?_, ?_, ?_, ?_, ?_, ?_, ?_, trivial⟩ <;> intro _ <;> first | exact trivial | rfl

/-- The investor claims twice. -/
def repeatedClaims : List (Env Nat 0 × Operation Nat) :=
  approvedTranche ++ [(signedAt 11, .claimTokens 1 1 2), (signedAt 11, .claimTokens 1 1 2)]

/-- The claims pay 2,000 units beside the 1,000 of the release. -/
theorem repeated_claims_exceed_tranche :
    (machine standardHost 0).Meets AddedOnce { ledger := funded } repeatedClaims ∧
    ¬ Within 1 1 ((payoutMachine standardHost 0 1 1).run ({ ledger := funded }, {})
      repeatedClaims) ∧
    ((payoutMachine standardHost 0 1 1).run ({ ledger := funded }, {}) repeatedClaims).2.total =
      3000 ∧
    ((payoutMachine standardHost 0 1 1).run ({ ledger := funded }, {}) repeatedClaims).2.received
      2 = 2000 := by
  refine ⟨?_, fun within => ?_, rfl, rfl⟩
  · refine ⟨?_, ?_, ?_, ?_, ?_, ?_, ?_, ?_, ?_, trivial⟩ <;>
      intro _ <;> first | exact trivial | rfl
  · exact absurd within.total (by decide)

end SorobanPlayground.VcVesting
