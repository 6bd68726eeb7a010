import SorobanPlayground.ParametricInsurance.Effects

/-! # The reserve covers the active crop policies

What is reserved is the coverage of the funded policies, the funded policies are the
active crop policies, and the reserve covers all of it: a claim that qualifies is paid
in full. No policy is settled twice.
-/

namespace SorobanPlayground.ParametricInsurance

variable {Address : Type} [DecidableEq Address] {contract : Address}

def fundedCoverage (state : State Address) : Int :=
  state.policies.total fun policyId policy =>
    if isPolicyFunded state policyId = true then policy.coverageAmount else 0

def IsActiveCrop (state : State Address) (policyId : Nat) : Prop :=
  ∃ policy, state.policies.get policyId = some policy ∧ policy.status = .active ∧
    hasCropTerms state policy.productId = true

structure ReserveHolds (contract : Address) (state : State Address) : Prop where
  reserved : state.totalReserved = fundedCoverage state
  funded : ∀ policyId, isPolicyFunded state policyId = true ↔ IsActiveCrop state policyId
  solvent : ∀ settlementToken, state.reserveConfig = some settlementToken →
    state.totalReserved ≤ state.ledger settlementToken contract

/-- What else the invariant needs. -/
structure Books (contract : Address) (state : State Address) : Prop
    extends ReserveHolds contract state where
  unset : state.admin = none →
    (∀ productId, state.products.get productId = none) ∧
      ∀ policyId, state.policies.get policyId = none
  products : ∀ productId product, state.products.get productId = some product →
    productId ≤ state.productCount ∧ 0 < product.coverageAmount
  policies : ∀ policyId policy, state.policies.get policyId = some policy →
    policyId ≤ state.policyCount ∧ 0 < policy.coverageAmount ∧
      ∃ product, state.products.get policy.productId = some product
  configured : ∀ policyId, isPolicyFunded state policyId = true →
    ∃ settlementToken, state.reserveConfig = some settlementToken
  fits : state.totalReserved ≤ i128Max

variable {state next : State Address} {written : Policy Address}

section

omit [DecidableEq Address]

theorem isPolicyFunded_set (state : State Address) (policyId other : Nat) (funded : Bool)
    (flags : FiniteMap Nat Bool) (same : flags = state.fundedPolicies.set policyId funded) :
    (flags.get other).getD false =
      if other = policyId then funded else isPolicyFunded state other := by
  rw [same, get_set]
  split <;> rfl

theorem isPolicyFunded_unset {policyId : Nat} (unfunded : isPolicyFunded state policyId = false)
    (other : Nat) :
    isPolicyFunded state other =
      if other = policyId then false else isPolicyFunded state other := by
  split
  · next same => rw [same, unfunded]
  · rfl

theorem Books.unfunded_fresh (books : Books contract state) :
    state.policies.get (state.policyCount + 1) = none ∧
      isPolicyFunded state (state.policyCount + 1) = false := by
  have fresh : state.policies.get (state.policyCount + 1) = none := by
    cases got : state.policies.get (state.policyCount + 1) with
    | none => rfl
    | some policy => exact absurd (books.policies _ policy got).1 (Nat.not_succ_le_self _)
  refine ⟨fresh, Bool.eq_false_iff.mpr fun funded => ?_⟩
  obtain ⟨_, got, -⟩ := (books.funded _).mp funded
  cases fresh.symm.trans got

variable {policyId : Nat} {policy : Policy Address}

theorem Books.sold_earlier (books : Books contract state)
    (got : state.policies.get policyId = some policy) : policy.productId ≤ state.productCount := by
  obtain ⟨-, -, product, found⟩ := books.policies policyId policy got
  exact (books.products _ product found).1

theorem Books.coverage_le (books : Books contract state)
    (got : state.policies.get policyId = some policy)
    (funded : isPolicyFunded state policyId = true) :
    policy.coverageAmount ≤ state.totalReserved := by
  have nonneg : ∀ other held, state.policies.get other = some held →
      (0 : Int) ≤ if isPolicyFunded state other = true then held.coverageAmount else 0 := by
    intro other held found
    split
    · exact (books.policies other held found).2.1.le
    · exact le_rfl
  have bound := weight_le_total nonneg got
  rw [if_pos funded] at bound
  rw [books.reserved]
  exact bound

theorem Books.ready_of_stored (books : Books contract state)
    (got : state.policies.get policyId = some policy) : state.admin ≠ none := by
  intro unset
  cases ((books.unset unset).2 policyId).symm.trans got

/-- A policy is written and maybe its flag: the reserved coverage changes by what the policy
reserves. -/
theorem fundedCoverage_write {policyId : Nat} {funded : Bool}
    (policies : next.policies = state.policies.set policyId written)
    (flags : ∀ other, isPolicyFunded next other =
      if other = policyId then funded else isPolicyFunded state other) :
    fundedCoverage next = fundedCoverage state -
        (state.policies.get policyId).elim 0 (fun policy =>
          if isPolicyFunded state policyId = true then policy.coverageAmount else 0) +
      if funded = true then written.coverageAmount else 0 := by
  unfold fundedCoverage
  rw [policies, FiniteMap.total_set_reweigh state.policies policyId written]
  · rw [flags, if_pos rfl]
    cases state.policies.get policyId <;> rfl
  · intro index policy ne
    rw [flags, if_neg ne]

theorem Books.write (books : Books contract state) (ready : state.admin ≠ none) {funded : Bool}
    (admin : next.admin = state.admin) (products : next.products = state.products)
    (productCount : next.productCount = state.productCount)
    (cropTerms : next.cropTerms = state.cropTerms)
    (reserveConfig : next.reserveConfig = state.reserveConfig)
    (policies : next.policies = state.policies.set policyId written)
    (flags : ∀ other, isPolicyFunded next other =
      if other = policyId then funded else isPolicyFunded state other)
    (counted : state.policyCount ≤ next.policyCount) (within : policyId ≤ next.policyCount)
    (pos : 0 < written.coverageAmount)
    (offered : ∃ product, state.products.get written.productId = some product)
    (active : funded = true ↔ written.status = .active ∧
      hasCropTerms state written.productId = true)
    (reserved : next.totalReserved = state.totalReserved - (state.policies.get policyId).elim 0
      (fun policy => if isPolicyFunded state policyId = true then policy.coverageAmount else 0) +
      if funded = true then written.coverageAmount else 0)
    (setUp : funded = true → ∃ settlementToken, state.reserveConfig = some settlementToken)
    (solvent : ∀ settlementToken, state.reserveConfig = some settlementToken →
      next.totalReserved ≤ next.ledger settlementToken contract)
    (fits : next.totalReserved ≤ i128Max) : Books contract next where
  fits := fits
  reserved := by rw [reserved, fundedCoverage_write policies flags, books.reserved]
  funded other := by
    unfold IsActiveCrop hasCropTerms
    rw [policies, cropTerms, get_set, flags]
    by_cases same : other = policyId
    · subst same
      rw [if_pos rfl, if_pos rfl, active]
      constructor
      · intro active
        exact ⟨written, rfl, active⟩
      · rintro ⟨policy, got, active⟩
        cases got
        exact active
    · rw [if_neg same, if_neg same]
      exact books.funded other
  solvent settlementToken named := solvent settlementToken (reserveConfig ▸ named)
  unset unset := absurd (admin.symm.trans unset) ready
  products := by
    rw [products, productCount]
    exact books.products
  policies := by
    rw [policies, products]
    refine forall_set (fun other policy got => ?_) ⟨within, pos, offered⟩
    obtain ⟨least, rest⟩ := books.policies other policy got
    exact ⟨least.trans counted, rest⟩
  configured other read := by
    rw [reserveConfig]
    rw [flags] at read
    split at read
    · exact setUp read
    · exact books.configured other read

theorem Books.step (books : Books contract state) (effect : Effect contract state next) :
    Books contract next := by
  cases effect with
  | initialized _ unset =>
    obtain ⟨noProducts, noPolicies⟩ := books.unset unset
    refine { books with
      unset := by simp
      products := fun productId product got => ?_
      policies := fun policyId policy got => ?_ }
    · cases (noProducts productId).symm.trans got
    · cases (noPolicies policyId).symm.trans got
  | configured settlementToken unset =>
    have unfunded : ∀ policyId, isPolicyFunded state policyId = false := by
      intro policyId
      refine Bool.eq_false_iff.mpr fun funded => ?_
      obtain ⟨token, named⟩ := books.configured policyId funded
      cases unset.symm.trans named
    have nothing : fundedCoverage state = 0 := by
      refine total_eq_zero _ fun policyId policy _ => ?_
      rw [unfunded policyId]
      rfl
    exact { books with
      reserved := nothing.symm
      configured := fun policyId _ => ⟨settlementToken, rfl⟩
      fits := (by decide : (0 : Int) ≤ i128Max)
      solvent := fun token _ => Int.natCast_nonneg _ }
  | reported =>
    exact { books with }
  | moved _ covered =>
    exact { books with
      solvent := fun token named => covered token named (books.solvent token named) }
  | offered ready _ _ pos same =>
    refine { books with
      funded := fun policyId => ?_
      unset := fun unset => absurd unset ready
      products := forall_set (fun productId known got => ?_) ⟨le_rfl, pos⟩
      policies := fun policyId policy got => ?_ }
    · refine (books.funded policyId).trans
        (exists_congr fun policy => and_congr_right fun got => ?_)
      have sold := books.sold_earlier got
      unfold hasCropTerms FiniteMap.has
      rw [same _ (Nat.lt_succ_of_le sold).ne]
    · obtain ⟨counted, covers⟩ := books.products productId known got
      exact ⟨counted.trans (Nat.le_succ _), covers⟩
    · obtain ⟨counted, covers, known, found⟩ := books.policies policyId policy got
      have sold := books.sold_earlier got
      exact ⟨counted, covers, known, (get_set_of_ne _ _ (Nat.lt_succ_of_le sold).ne).trans found⟩
  | deactivated productId product got =>
    have pos := books.products productId product got
    refine { books with
      unset := fun unset => ?_
      products := forall_set books.products pos
      policies := fun policyId policy held => ?_ }
    · cases ((books.unset unset).1 productId).symm.trans got
    · obtain ⟨counted, covers, known, found⟩ := books.policies policyId policy held
      refine ⟨counted, covers, ?_⟩
      rw [get_set]
      split
      · exact ⟨_, rfl⟩
      · exact ⟨known, found⟩
  | issued ready policy product offered coverage _ plain =>
    obtain ⟨fresh, unfunded⟩ := books.unfunded_fresh
    refine books.write ready rfl rfl rfl rfl rfl rfl (isPolicyFunded_unset unfunded)
      (Nat.le_succ _) le_rfl ?_ ⟨product, offered⟩ ?_ ?_ (by simp) books.solvent books.fits
    · rw [coverage]
      exact (books.products _ product offered).2
    · rw [plain]
      exact iff_of_false (by simp) fun crop => Bool.false_ne_true crop.2
    · rw [fresh, Option.elim_none, sub_zero, if_neg Bool.false_ne_true, add_zero]
  | cropIssued ready policy product settlementToken ledger offered coverage active crop configured
      fits covered =>
    refine books.write ready rfl rfl rfl rfl rfl rfl
      (fun other => isPolicyFunded_set state (state.policyCount + 1) other true _ rfl)
      (Nat.le_succ _) le_rfl ?_ ⟨product, offered⟩ (iff_of_true rfl ⟨active, crop⟩) ?_
      (fun _ => ⟨settlementToken, configured⟩) (fun token named => ?_) fits
    · rw [coverage]
      exact (books.products _ product offered).2
    · rw [books.unfunded_fresh.1, Option.elim_none, sub_zero, if_pos rfl]
    · cases configured.symm.trans named
      exact covered
  | settled policyId policy updated got _ inactive product coverage unfunded =>
    obtain ⟨counted, pos, offered⟩ := books.policies policyId policy got
    have plain : isPolicyFunded state policyId = false := by
      refine Bool.eq_false_iff.mpr fun funded => ?_
      obtain ⟨known, found, -, crop⟩ := (books.funded policyId).mp funded
      cases got.symm.trans found
      cases crop.symm.trans (unfunded funded)
    refine books.write (books.ready_of_stored got) rfl rfl rfl rfl rfl rfl
      (isPolicyFunded_unset plain) le_rfl counted (coverage.symm ▸ pos)
      (product.symm ▸ offered) (iff_of_false (by simp) fun still => inactive still.1) ?_ (by simp)
      books.solvent books.fits
    rw [plain, got, Option.elim_some, if_neg Bool.false_ne_true, sub_zero,
      if_neg Bool.false_ne_true, add_zero]
  | cropSettled policyId policy updated ledger got _ inactive product coverage funded covered =>
    obtain ⟨counted, pos, offered⟩ := books.policies policyId policy got
    refine books.write (books.ready_of_stored got) rfl rfl rfl rfl rfl rfl
      (fun other => isPolicyFunded_set state policyId other false _ rfl) le_rfl counted
      (coverage.symm ▸ pos) (product.symm ▸ offered)
      (iff_of_false (by simp) fun still => inactive still.1) ?_ (by simp)
      (fun token named => covered token named (books.solvent token named)) ?_
    · rw [got, Option.elim_some, if_pos funded, if_neg Bool.false_ne_true, add_zero]
    · exact (sub_le_self _ pos.le).trans books.fits

end

theorem processSatelliteClaim_pays (books : Books contract state) {tokens : TokenHost Address}
    (pays : tokens.PaysCovered) {env : InsuranceEnv Address contract} {policyId weatherDataId : Nat}
    {policy : Policy Address} (got : state.policies.get policyId = some policy)
    (active : policy.status = .active) {rainfall : Int}
    (qualifies : qualifyingRainfall env policy weatherDataId state = .ok rainfall) :
    ∃ settlementToken next, state.reserveConfig = some settlementToken ∧
      processSatelliteClaim tokens env policyId weatherDataId state =
        .ok (policy.coverageAmount, next) ∧
      Moved [⟨settlementToken, contract, policy.holder, policy.coverageAmount⟩] state.ledger
        next.ledger := by
  have ready := Option.isSome_iff_ne_none.mpr (books.ready_of_stored got)
  have crop : hasCropTerms state policy.productId = true := by
    simp only [qualifyingRainfall, getCropTerms, call_ok] at qualifies
    obtain ⟨-, _, -, terms, found, -⟩ := qualifies
    exact has_eq_true.mpr ⟨terms, found⟩
  have funded : isPolicyFunded state policyId = true :=
    (books.funded policyId).mpr ⟨policy, got, active, crop⟩
  have reserved := books.coverage_le got funded
  have pos := (books.policies policyId policy got).2.1
  obtain ⟨settlementToken, setUp⟩ := books.configured policyId funded
  have covered := reserved.trans (books.solvent settlementToken setUp)
  obtain ⟨ledger, paid⟩ := pays.pay (ε := Error) policy.holder pos.le covered
  have released : releaseReservedCoverage policy.coverageAmount state =
      .ok (state.totalReserved - policy.coverageAmount) := by
    simp only [releaseReservedCoverage, call_ok, arith_ok]
    have within : ¬ (policy.coverageAmount < 0 ∨ state.totalReserved < policy.coverageAmount) := by
      rintro (negative | more)
      · exact absurd negative (not_lt.mpr pos.le)
      · exact absurd more (not_lt.mpr reserved)
    refine ⟨within, ⟨le_trans (by decide) (sub_nonneg.mpr reserved), ?_⟩, trivial⟩
    exact (sub_le_self _ pos.le).trans books.fits
  have ran : processSatelliteClaim tokens env policyId weatherDataId state =
      .ok (policy.coverageAmount, { state with
        policies := state.policies.set policyId (policy.paidOut rainfall)
        fundedPolicies := state.fundedPolicies.set policyId false
        totalReserved := state.totalReserved - policy.coverageAmount
        ledger }) := by
    simp only [processSatelliteClaim, assertInitialized, getPolicy, getReserveConfig, call_ok,
      ensureActive_eq_ok]
    exact ⟨ready, policy, got, active, funded, rainfall, qualifies, _, released,
      settlementToken, setUp, ledger, paid, rfl, rfl⟩
  exact ⟨settlementToken, _, setUp, ran, pay_moved paid⟩

def statusOf (state : State Address) (policyId : Nat) : Option PolicyStatus :=
  (state.policies.get policyId).map Policy.status

def LeavesActive (policyId : Nat) (before after : State Address) : Prop :=
  statusOf before policyId = some .active ∧ statusOf after policyId ≠ some .active

instance (policyId : Nat) : DecidableRel (@LeavesActive Address policyId) := fun _ _ =>
  inferInstanceAs (Decidable (_ ∧ _))

/-- The policy was issued and is not active any more. -/
def Closed (policyId : Nat) (state : State Address) : Prop :=
  statusOf state policyId ≠ none ∧ statusOf state policyId ≠ some .active

instance (policyId : Nat) : DecidablePred (@Closed Address policyId) := fun _ =>
  inferInstanceAs (Decidable (_ ∧ _))

section

omit [DecidableEq Address]

variable {target : Nat}

theorem statusOf_write {state next : State Address}
    (policies : next.policies = state.policies.set target written) (policyId : Nat) :
    statusOf next policyId =
      if policyId = target then some written.status else statusOf state policyId := by
  unfold statusOf
  rw [policies, get_set]
  split <;> rfl

theorem statusOf_issued {state next : State Address}
    (policies : next.policies = state.policies.set target written)
    (fresh : state.policies.get target = none) (active : written.status = .active)
    (policyId : Nat) :
    statusOf next policyId = statusOf state policyId ∨
      statusOf state policyId = none ∧ statusOf next policyId = some .active := by
  rw [statusOf_write policies]
  split
  · next same =>
    refine .inr ⟨?_, congrArg some active⟩
    rw [statusOf, same, fresh]
    rfl
  · exact .inl rfl

theorem statusOf_settled {state next : State Address}
    {policy written : Policy Address} (policies : next.policies = state.policies.set target written)
    (got : state.policies.get target = some policy) (active : policy.status = .active)
    (inactive : written.status ≠ .active) (policyId : Nat) :
    statusOf next policyId = statusOf state policyId ∨
      statusOf state policyId = some .active ∧ Closed policyId next := by
  unfold Closed
  rw [statusOf_write policies]
  split
  · next same =>
    refine .inr ⟨?_, nofun, fun still => inactive (Option.some.inj still)⟩
    rw [statusOf, same, got, ← active]
    rfl
  · exact .inl rfl

theorem statusOf_step {state next : State Address} (books : Books contract state)
    (effect : Effect contract state next) (policyId : Nat) :
    statusOf next policyId = statusOf state policyId ∨
      statusOf state policyId = none ∧ statusOf next policyId = some .active ∨
      statusOf state policyId = some .active ∧ Closed policyId next := by
  cases effect with
  | initialized | configured | reported | moved | offered | deactivated => exact .inl rfl
  | issued _ _ _ _ _ active =>
    exact (statusOf_issued rfl books.unfunded_fresh.1 active policyId).imp_right .inl
  | cropIssued _ _ _ _ _ _ _ active =>
    exact (statusOf_issued rfl books.unfunded_fresh.1 active policyId).imp_right .inl
  | settled _ _ _ got active inactive =>
    exact (statusOf_settled rfl got active inactive _).imp_right .inr
  | cropSettled _ _ _ _ got active inactive =>
      exact (statusOf_settled rfl got active inactive _).imp_right .inr

end

variable (tokens : TokenHost Address)

theorem books_step (state : State Address)
    (call : InsuranceEnv Address contract × Operation Address) (next : State Address)
    (books : Books contract state)
    (ran : (machine tokens contract).exec state call = .ok next) : Books contract next :=
  books.step (dispatch_effect ran)

omit [DecidableEq Address] in
theorem books_start (ledger : TokenLedger Address) : Books contract { ledger } where
  reserved := rfl
  funded policyId := by
    refine iff_of_false ?_ ?_
    · exact nofun
    · rintro ⟨policy, got, -⟩
      cases (get_empty policyId).symm.trans got
  solvent := nofun
  unset _ := ⟨fun _ => get_empty _, fun _ => get_empty _⟩
  products productId product got := by
    cases (get_empty productId).symm.trans got
  policies policyId policy got := by cases (get_empty policyId).symm.trans got
  configured policyId funded := by
    cases funded
  fits := (by decide : (0 : Int) ≤ i128Max)

theorem leavesActive_le (ledger : TokenLedger Address) (policyId : Nat)
    (calls : List (InsuranceEnv Address contract × Operation Address)) :
    (machine tokens contract).countSteps (LeavesActive policyId) { ledger } calls ≤ 1 := by
  have stays : ∀ state call next, Books contract state → Closed policyId state →
      (machine tokens contract).exec state call = .ok next → Closed policyId next := by
    intro state call next books closed ran
    rcases statusOf_step books (dispatch_effect ran) policyId with same | ⟨gone, -⟩ |
      ⟨active, -⟩
    · unfold Closed
      rwa [same]
    · exact absurd gone closed.1
    · exact absurd active closed.2
  have entry : ∀ state call next, Books contract state →
      (machine tokens contract).exec state call = .ok next →
      (LeavesActive policyId state next ↔ ¬ Closed policyId state ∧ Closed policyId next) := by
    intro state call next books ran
    rcases statusOf_step books (dispatch_effect ran) policyId with same | ⟨gone, issued⟩ |
      ⟨active, closed⟩
    · unfold LeavesActive Closed
      rw [same]
      exact iff_of_false (fun leaves => leaves.2 leaves.1) fun both => both.1 both.2
    · refine iff_of_false (fun leaves => ?_) fun both => both.2.2 issued
      cases gone.symm.trans leaves.1
    · exact iff_of_true ⟨active, closed.2⟩ ⟨fun settled => settled.2 active, closed⟩
  have counted := CallMachine.countSteps_entry (books_step tokens) stays entry
    (fun _ leaves => leaves.2 leaves.1) (books_start ledger) calls
  have most : (if Closed policyId ((machine tokens contract).run { ledger } calls) then 1 else 0) ≤
      1 := by
    split
    · exact le_rfl
    · exact Nat.zero_le 1
  omega

/-- In every run the reserve is right, a claim that qualifies on an active policy is paid in full,
and a policy leaves its active status at most once. -/
theorem reserve_holds (ledger : TokenLedger Address)
    (calls : List (InsuranceEnv Address contract × Operation Address)) :
    (machine tokens contract).Always (ReserveHolds contract) { ledger } calls ∧
    (tokens.PaysCovered → ∀ (env : InsuranceEnv Address contract) policyId weatherDataId policy
      rainfall,
      let state := (machine tokens contract).run { ledger } calls
      state.policies.get policyId = some policy → policy.status = .active →
      qualifyingRainfall env policy weatherDataId state = .ok rainfall →
      ∃ settlementToken next, state.reserveConfig = some settlementToken ∧
        processSatelliteClaim tokens env policyId weatherDataId state =
          .ok (policy.coverageAmount, next) ∧
        Moved [⟨settlementToken, contract, policy.holder, policy.coverageAmount⟩] state.ledger
          next.ledger) ∧
    ∀ policyId,
      (machine tokens contract).countSteps (LeavesActive policyId) { ledger } calls ≤ 1 := by
  have always : (machine tokens contract).Always (Books contract) { ledger } calls :=
    always_invariant (books_step tokens) (books_start ledger) calls
  refine ⟨always.mono fun _ books => books.toReserveHolds, ?_,
    fun policyId => leavesActive_le tokens ledger policyId calls⟩
  intro pays env policyId weatherDataId policy rainfall state got active qualifies
  exact processSatelliteClaim_pays always.final pays got active qualifies

/-- Calls signed by the admin, a holder and a funder, with a dry observation of the region. -/
def sampleEnv : InsuranceEnv Nat 0 where
  timestamp := 100
  auths := [1, 2, 3]
  contract_silent := zero_notMem_three_signers
  weatherData _ _ := some {
    location := "north", precipitation := 10, timestamp := 100, status := .verified
    confirmations := 1, sourceType := .satellite }

/-- Everybody holds a thousand of the settlement token at first. -/
def sampleLedger : TokenLedger Nat := fun _ holder => if holder = 0 then 0 else 1000

/-- A drought product is created, the reserve funded and a policy bought. -/
def droughtCalls : List (InsuranceEnv Nat 0 × Operation Nat) :=
  [(sampleEnv, .initializeInsurance 1),
    (sampleEnv, .createCropProduct 1 "drought" 10 500 5 "north" 50 .atOrBelow 1000 3600),
    (sampleEnv, .configureReserve 1 9), (sampleEnv, .fundReserve 3 600),
    (sampleEnv, .buyCropPolicy 2 1)]

/-- The holder of a drought policy is paid in a drought. -/
theorem drought_claim_paid :
    let state := (machine standardHost (0 : Nat)).run { ledger := sampleLedger } droughtCalls
    ∃ settlementToken next, state.reserveConfig = some settlementToken ∧
      processSatelliteClaim standardHost sampleEnv 1 7 state = .ok (500, next) ∧
      Moved [⟨settlementToken, 0, 2, 500⟩] state.ledger next.ledger := by
  obtain ⟨-, pays, -⟩ := reserve_holds standardHost sampleLedger droughtCalls
  exact pays standardHost_paysCovered sampleEnv 1 7 _ 10 rfl rfl rfl

end SorobanPlayground.ParametricInsurance
