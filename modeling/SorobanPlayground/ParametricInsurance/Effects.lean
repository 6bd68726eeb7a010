import SorobanPlayground.ParametricInsurance.Contract

/-! # What a call does to the reserve

Every successful call has one of a few effects on the policies, their funding and the
reserve. A policy is issued as active, and settled once.
-/

namespace SorobanPlayground.ParametricInsurance

variable {Address : Type} [DecidableEq Address] {contract : Address}

inductive Effect (contract : Address) (state : State Address) : State Address → Prop
  | initialized (admin : Address) (unset : state.admin = none) :
      Effect contract state { state with
        admin := some admin
        productCount := 0
        policyCount := 0 }
  | configured (settlementToken : Address) (unset : state.reserveConfig = none) :
      Effect contract state { state with
        reserveConfig := some settlementToken
        totalReserved := 0 }
  | reported (oracles : FiniteMap Address Bool)
      (oracleReadings : FiniteMap (Address × String) OracleReading) :
      Effect contract state { state with oracles, oracleReadings }
  | moved (ledger : TokenLedger Address)
      (covered : ∀ token, state.reserveConfig = some token →
        state.totalReserved ≤ state.ledger token contract →
        state.totalReserved ≤ ledger token contract) :
      Effect contract state { state with ledger }
  | offered (ready : state.admin ≠ none) (product : Product Address)
      (cropTerms : FiniteMap Nat CropTerms) (positive : 0 < product.coverageAmount)
      (same : ∀ other, other ≠ state.productCount + 1 →
        cropTerms.get other = state.cropTerms.get other) :
      Effect contract state { state with
        products := state.products.set (state.productCount + 1) product
        cropTerms
        productCount := state.productCount + 1 }
  | deactivated (productId : Nat) (product : Product Address)
      (stored : state.products.get productId = some product) :
      Effect contract state { state with
        products := state.products.set productId { product with isActive := false } }
  | issued (ready : state.admin ≠ none) (policy : Policy Address) (product : Product Address)
      (offered : state.products.get policy.productId = some product)
      (coverage : policy.coverageAmount = product.coverageAmount) (active : policy.status = .active)
      (plain : hasCropTerms state policy.productId = false) :
      Effect contract state { state with
        policies := state.policies.set (state.policyCount + 1) policy
        policyCount := state.policyCount + 1 }
  | cropIssued (ready : state.admin ≠ none) (policy : Policy Address) (product : Product Address)
      (settlementToken : Address) (ledger : TokenLedger Address)
      (offered : state.products.get policy.productId = some product)
      (coverage : policy.coverageAmount = product.coverageAmount) (active : policy.status = .active)
      (crop : hasCropTerms state policy.productId = true)
      (configured : state.reserveConfig = some settlementToken)
      (fits : state.totalReserved + policy.coverageAmount ≤ i128Max)
      (covered : state.totalReserved + policy.coverageAmount ≤ ledger settlementToken contract) :
      Effect contract state { state with
        policies := state.policies.set (state.policyCount + 1) policy
        fundedPolicies := state.fundedPolicies.set (state.policyCount + 1) true
        totalReserved := state.totalReserved + policy.coverageAmount
        policyCount := state.policyCount + 1
        ledger }
  | settled (policyId : Nat) (policy updated : Policy Address)
      (stored : state.policies.get policyId = some policy) (active : policy.status = .active)
      (inactive : updated.status ≠ .active) (product : updated.productId = policy.productId)
      (coverage : updated.coverageAmount = policy.coverageAmount)
      (unfunded : isPolicyFunded state policyId = true →
        hasCropTerms state policy.productId = false) :
      Effect contract state { state with policies := state.policies.set policyId updated }
  | cropSettled (policyId : Nat) (policy updated : Policy Address) (ledger : TokenLedger Address)
      (stored : state.policies.get policyId = some policy) (active : policy.status = .active)
      (inactive : updated.status ≠ .active) (product : updated.productId = policy.productId)
      (coverage : updated.coverageAmount = policy.coverageAmount)
      (funded : isPolicyFunded state policyId = true)
      (covered : ∀ token, state.reserveConfig = some token →
        state.totalReserved ≤ state.ledger token contract →
        state.totalReserved - policy.coverageAmount ≤ ledger token contract) :
      Effect contract state { state with
        policies := state.policies.set policyId updated
        fundedPolicies := state.fundedPolicies.set policyId false
        totalReserved := state.totalReserved - policy.coverageAmount
        ledger }

variable {tokens : TokenHost Address} {env : InsuranceEnv Address contract}
  {state next : State Address} {amount : Int}

theorem fundReserve_effect {funder : Address}
    (ran : fundReserve tokens env funder amount state = .ok next) : Effect contract state next := by
  simp only [fundReserve, assertInitialized, getReserveConfig, call_ok] at ran
  obtain ⟨-, signed, -, _, -, ledger, paid, rfl⟩ := ran
  refine Effect.moved ledger fun token _ covered => covered.trans ?_
  exact tokens.pay_le paid (env.toEnv.ne_contract signed).symm token

variable {admin : Address}

theorem withdrawExcessReserve_effect
    (ran : withdrawExcessReserve tokens env admin amount state = .ok next) :
    Effect contract state next := by
  simp only [withdrawExcessReserve, assertAdmin, assertInitialized, getReserveConfig, call_ok,
    arith_ok] at ran
  obtain ⟨⟨-, -, _, -, -⟩, -, settlementToken, setUp, -, _, ledger, paid,
    rfl⟩ := ran
  refine Effect.moved ledger fun token named _ => ?_
  cases setUp.symm.trans named
  have left := tokens.pay_leaves paid settlementToken
  omega

theorem transferTokens_effect {token source destination : Address} {ledger : TokenLedger Address}
    (moved : (tokens.payAs env.toEnv state.ledger token source destination amount :
      Outcome Error _) = .ok ledger) : Effect contract state { state with ledger } := by
  simp only [payAs, call_ok] at moved
  obtain ⟨signed, paid⟩ := moved
  refine Effect.moved ledger fun read _ covered => covered.trans ?_
  exact tokens.pay_le paid (env.toEnv.ne_contract signed).symm read

variable {name : String} {premium coverageAmount : Int} {triggerDirection : TriggerDirection}
  {termSecs : Nat}

theorem createProduct_effect {oracle : Address} {parameterKey : String} {triggerThreshold : Int}
    (ran : (Prod.snd <$> createProduct env admin name premium coverageAmount oracle
      parameterKey triggerThreshold triggerDirection termSecs state) = .ok next) :
    Effect contract state next := by
  simp only [createProduct, assertAdmin, assertInitialized, map_eq_ok, call_ok,
    arith_ok] at ran
  obtain ⟨_, ⟨⟨ready, -, _, -, -⟩, -, -, pos, -, -, rfl⟩, rfl⟩ := ran
  exact Effect.offered (Option.isSome_iff_ne_none.mp ready) _ state.cropTerms (not_le.mp pos)
    fun _ _ => rfl

theorem createCropProduct_effect {satelliteOracle : Address} {region : String}
    {rainfallThreshold : Int} {maxObservationAge : Nat}
    (ran : (Prod.snd <$> createCropProduct env admin name premium coverageAmount
      satelliteOracle region rainfallThreshold triggerDirection termSecs maxObservationAge state) =
        .ok next) : Effect contract state next := by
  simp only [createCropProduct, assertAdmin, assertInitialized, map_eq_ok, call_ok,
    arith_ok] at ran
  obtain ⟨_, ⟨⟨ready, -, _, -, -⟩, -, -, pos, -, -, rfl⟩, rfl⟩ := ran
  exact Effect.offered (Option.isSome_iff_ne_none.mp ready) _ _ (not_le.mp pos)
    fun other ne => get_set_of_ne _ _ ne

variable {holder : Address} {productId : Nat}

theorem buyPolicy_effect (ran : (Prod.snd <$> buyPolicy env holder productId state) = .ok next) :
    Effect contract state next := by
  simp only [buyPolicy, assertInitialized, getProduct, map_eq_ok, call_ok, arith_ok] at ran
  obtain ⟨_, ⟨ready, -, product, offered, -, plain, -, -, rfl⟩, rfl⟩ := ran
  exact Effect.issued (Option.isSome_iff_ne_none.mp ready)
    (newPolicy env holder productId product _) product offered rfl rfl
    (Bool.eq_false_iff.mpr plain)

theorem buyCropPolicy_effect
    (ran : (Prod.snd <$> buyCropPolicy tokens env holder productId state) = .ok next) :
    Effect contract state next := by
  simp only [buyCropPolicy, assertInitialized, getCropTerms, getProduct, getReserveConfig,
    map_eq_ok, call_ok, arith_ok] at ran
  obtain ⟨_, ⟨ready, -, terms, crop, product, offered, -, settlementToken, setUp, -, -,
    fits, ledger, -, covered, rfl⟩, rfl⟩ := ran
  exact Effect.cropIssued (Option.isSome_iff_ne_none.mp ready)
    (newPolicy env holder productId product _) product settlementToken ledger offered rfl
    rfl (has_eq_true.mpr ⟨terms, crop⟩) setUp fits.2 (not_lt.mp covered)

variable {policy : Policy Address}

omit [DecidableEq Address] in
theorem ensureActive_eq_ok {result : Unit} :
    ensureActive policy = .ok result ↔ policy.status = .active := by
  unfold ensureActive
  split_ifs with inactive claimed
  · exact iff_of_false nofun inactive
  · exact iff_of_false nofun inactive
  · exact iff_of_true rfl (not_not.mp inactive)

variable {policyId : Nat}

theorem processClaim_effect (ran : (Prod.snd <$> processClaim env policyId state) = .ok next) :
    Effect contract state next := by
  simp only [processClaim, assertInitialized, getPolicy, getProduct, map_eq_ok, call_ok,
    ensureActive_eq_ok] at ran
  obtain ⟨_, ⟨-, policy, got, active, -, _, -, plain, reading, -, -, -, rfl⟩, rfl⟩ :=
    ran
  exact Effect.settled policyId policy (policy.paidOut reading.value) got active
    (by simp [Policy.paidOut]) rfl rfl
    fun _ => Bool.eq_false_iff.mpr plain

section

omit [DecidableEq Address]

theorem releaseReservedCoverage_eq_ok {amount released : Int}
    (ran : releaseReservedCoverage amount state = .ok released) :
    0 ≤ amount ∧ released = state.totalReserved - amount := by
  simp only [releaseReservedCoverage, call_ok, arith_ok] at ran
  obtain ⟨within, -, rfl⟩ := ran
  exact ⟨not_lt.mp fun negative => within (.inl negative), rfl⟩

theorem releaseExpired_eq_ok {policyId : Nat}
    (ran : releaseExpired policyId policy state = .ok next) :
    (isPolicyFunded state policyId = true ∧ 0 ≤ policy.coverageAmount ∧ next = { state with
      totalReserved := state.totalReserved - policy.coverageAmount
      fundedPolicies := state.fundedPolicies.set policyId false }) ∨
    isPolicyFunded state policyId = false ∧ next = state := by
  unfold releaseExpired at ran
  split at ran
  · next funded =>
    simp only [call_ok] at ran
    obtain ⟨_, release, rfl⟩ := ran
    obtain ⟨nonneg, rfl⟩ := releaseReservedCoverage_eq_ok release
    exact .inl ⟨funded, nonneg, rfl⟩
  · next unfunded =>
    exact .inr ⟨Bool.eq_false_iff.mpr unfunded, (pure_eq_ok.mp ran).symm⟩

end

theorem processSatelliteClaim_effect {weatherDataId : Nat}
    (ran : (Prod.snd <$> processSatelliteClaim tokens env policyId weatherDataId state) =
      .ok next) :
    Effect contract state next := by
  simp only [processSatelliteClaim, assertInitialized, getPolicy, getReserveConfig, map_eq_ok,
    call_ok, ensureActive_eq_ok] at ran
  obtain ⟨_, ⟨-, policy, got, active, funded, rainfall, -, _, release, settlementToken,
    setUp, ledger, paid, rfl⟩, rfl⟩ := ran
  obtain ⟨-, rfl⟩ := releaseReservedCoverage_eq_ok release
  refine Effect.cropSettled policyId policy (policy.paidOut rainfall) ledger got active
    (by simp [Policy.paidOut]) rfl
    rfl funded fun token named covered => ?_
  cases setUp.symm.trans named
  have left := tokens.pay_leaves paid settlementToken
  rw [if_pos rfl] at left
  omega

omit [DecidableEq Address] in
theorem expirePolicy_effect (ran : expirePolicy env policyId state = .ok next) :
    Effect contract state next := by
  simp only [expirePolicy, assertInitialized, getPolicy, call_ok] at ran
  obtain ⟨-, policy, got, active, -, released⟩ := ran
  rcases releaseExpired_eq_ok released with ⟨funded, _, rfl⟩ | ⟨unfunded, rfl⟩
  · refine Effect.cropSettled policyId policy _ state.ledger got active nofun rfl rfl funded
      fun token _ covered => ?_
    omega
  · refine Effect.settled policyId policy _ got active nofun rfl rfl fun funded => ?_
    cases unfunded.symm.trans funded

theorem dispatch_effect {call : InsuranceEnv Address contract × Operation Address}
    (ran : dispatch tokens state call = .ok next) : Effect contract state next := by
  obtain ⟨_, op⟩ := call
  cases op with
  | initializeInsurance admin =>
    unfold dispatch initializeInsurance at ran
    simp only [call_ok] at ran
    obtain ⟨unset, -, rfl⟩ := ran
    exact Effect.initialized admin (Option.not_isSome_iff_eq_none.mp unset)
  | setOracle =>
    unfold dispatch setOracle at ran
    simp only [call_ok] at ran
    obtain ⟨_, -, rfl⟩ := ran
    exact Effect.reported _ _
  | submitReading =>
    unfold dispatch submitReading at ran
    simp only [call_ok] at ran
    obtain ⟨_, -, _, -, _, -, rfl⟩ := ran
    exact Effect.reported _ _
  | configureReserve _ settlementToken =>
    unfold dispatch configureReserve at ran
    simp only [call_ok] at ran
    obtain ⟨_, -, unset, rfl⟩ := ran
    exact Effect.configured settlementToken (Option.not_isSome_iff_eq_none.mp unset)
  | fundReserve => exact fundReserve_effect ran
  | withdrawExcessReserve => exact withdrawExcessReserve_effect ran
  | createProduct => exact createProduct_effect ran
  | deactivateProduct _ productId =>
    unfold dispatch deactivateProduct getProduct at ran
    simp only [call_ok] at ran
    obtain ⟨_, -, product, got, rfl⟩ := ran
    exact Effect.deactivated productId product got
  | createCropProduct => exact createCropProduct_effect ran
  | buyPolicy => exact buyPolicy_effect ran
  | buyCropPolicy => exact buyCropPolicy_effect ran
  | processClaim => exact processClaim_effect ran
  | processSatelliteClaim => exact processSatelliteClaim_effect ran
  | expirePolicy => exact expirePolicy_effect ran
  | transferTokens =>
    unfold dispatch at ran
    simp only [call_ok] at ran
    obtain ⟨_, moved, rfl⟩ := ran
    exact transferTokens_effect moved

end SorobanPlayground.ParametricInsurance
