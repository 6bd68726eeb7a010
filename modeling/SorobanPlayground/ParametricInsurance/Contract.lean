import SorobanPlayground.Host

/-! # Parametric insurance

The admin defines products with a trigger on oracle data, and anyone buys policies of
them. A policy of an ordinary product is accounting only. A policy of a crop product is
backed by a reserve of a settlement token, of which its coverage stays reserved while it
is active, and it is settled from satellite data of a weather oracle.
-/

namespace SorobanPlayground.ParametricInsurance

inductive Error where
  | alreadyInitialized
  | notInitialized
  | unauthorized
  | productNotFound
  | policyNotFound
  | productInactive
  | policyExpired
  | policyAlreadyClaimed
  | triggerNotMet
  | zeroPremium
  | zeroCoverage
  | invalidTrigger
  | unknownOracle
  | oracleDataStale
  | emptyName
  | policyNotActive
  | reserveNotConfigured
  | reserveAlreadyConfigured
  | insufficientReserve
  | invalidOracleData
  | wrongRegion
  | satelliteDataRequired
  | policyNotFunded
  | invalidObservation
  | invalidConfig
  | overflow
  deriving DecidableEq, Repr

inductive WeatherDataStatus where
  | pending
  | verified
  | disputed
  | finalized
  deriving DecidableEq, Repr

inductive DataSourceType where
  | satellite
  | groundStation
  | weatherApi
  deriving DecidableEq, Repr

/-- What the contract reads of a weather oracle's record. -/
structure SatelliteWeatherData where
  location : String
  precipitation : Nat
  timestamp : Nat
  status : WeatherDataStatus
  confirmations : Nat
  sourceType : DataSourceType
  deriving DecidableEq, Repr

structure CropTerms where
  region : String
  maxObservationAge : Nat
  deriving DecidableEq, Repr

inductive TriggerDirection where
  | atOrAbove
  | atOrBelow
  deriving DecidableEq, Repr

inductive PolicyStatus where
  | active
  | claimed
  | expired
  deriving DecidableEq, Repr

structure Product (Address : Type) where
  premium : Int
  coverageAmount : Int
  oracle : Address
  parameterKey : String
  triggerThreshold : Int
  triggerDirection : TriggerDirection
  termSecs : Nat
  isActive : Bool
  deriving DecidableEq, Repr

structure Policy (Address : Type) where
  productId : Nat
  holder : Address
  premiumPaid : Int
  coverageAmount : Int
  purchasedAt : Nat
  expiresAt : Nat
  status : PolicyStatus
  triggerValue : Option Int
  payoutAmount : Option Int
  deriving DecidableEq, Repr

structure OracleReading where
  value : Int
  timestamp : Nat
  deriving DecidableEq, Repr

def maxOracleStalenessSecs : Nat := 86400

def maxCropObservationAgeSecs : Nat := 7 * 86400

/-- The contract's storage and the balances at the token contracts. `reserveConfig` is the
settlement token. -/
structure State (Address : Type) where
  admin : Option Address := none
  productCount : Nat := 0
  policyCount : Nat := 0
  reserveConfig : Option Address := none
  totalReserved : Int := 0
  products : FiniteMap Nat (Product Address) := ∅
  policies : FiniteMap Nat (Policy Address) := ∅
  oracles : FiniteMap Address Bool := ∅
  oracleReadings : FiniteMap (Address × String) OracleReading := ∅
  cropTerms : FiniteMap Nat CropTerms := ∅
  fundedPolicies : FiniteMap Nat Bool := ∅
  ledger : TokenLedger Address

/-- What a call sees of the ledger and of the weather oracles. -/
structure InsuranceEnv (Address : Type) (contract : Address) extends Env Address contract where
  weatherData : Address → Nat → Option SatelliteWeatherData

variable {Address : Type} [DecidableEq Address] {contract : Address} (state : State Address)

def assertInitialized : Outcome Error Unit :=
  ensure (state.admin.isSome = true) .notInitialized

def assertAdmin (env : Env Address contract) (caller : Address) : Outcome Error Unit := do
  assertInitialized state
  requireAuth env caller
  let admin ← orError state.admin .notInitialized
  ensure (caller = admin) .unauthorized

def getProduct (productId : Nat) : Outcome Error (Product Address) :=
  orError (state.products.get productId) .productNotFound

def getPolicy (policyId : Nat) : Outcome Error (Policy Address) :=
  orError (state.policies.get policyId) .policyNotFound

def getCropTerms (productId : Nat) : Outcome Error CropTerms :=
  orError (state.cropTerms.get productId) .satelliteDataRequired

def hasCropTerms (productId : Nat) : Bool := state.cropTerms.has productId

def getReserveConfig : Outcome Error Address := orError state.reserveConfig .reserveNotConfigured

def isPolicyFunded (policyId : Nat) : Bool := (state.fundedPolicies.get policyId).getD false

def isOracle (oracle : Address) : Bool := (state.oracles.get oracle).getD false

variable (tokens : TokenHost Address) (env : InsuranceEnv Address contract)

def initializeInsurance (admin : Address) (state : State Address) :
    Outcome Error (State Address) := do
  ensure (¬ state.admin.isSome = true) .alreadyInitialized
  requireAuth env.toEnv admin
  return { state with
    admin := some admin
    productCount := 0
    policyCount := 0 }

def setOracle (admin oracle : Address) (active : Bool) (state : State Address) :
    Outcome Error (State Address) := do
  assertAdmin state env.toEnv admin
  return { state with oracles := state.oracles.set oracle active }

def submitReading (oracle : Address) (parameterKey : String) (value : Int)
    (state : State Address) : Outcome Error (State Address) := do
  assertInitialized state
  requireAuth env.toEnv oracle
  ensure (isOracle state oracle = true) .unknownOracle
  return { state with
    oracleReadings :=
      state.oracleReadings.set (oracle, parameterKey) { value, timestamp := env.timestamp } }

def configureReserve (admin settlementToken : Address) (state : State Address) :
    Outcome Error (State Address) := do
  assertAdmin state env.toEnv admin
  ensure (¬ state.reserveConfig.isSome = true) .reserveAlreadyConfigured
  return { state with
    reserveConfig := some settlementToken
    totalReserved := 0 }

def fundReserve (funder : Address) (amount : Int) (state : State Address) :
    Outcome Error (State Address) := do
  assertInitialized state
  requireAuth env.toEnv funder
  ensure (¬ amount ≤ 0) .invalidConfig
  let settlementToken ← getReserveConfig state
  let ledger ← tokens.pay state.ledger settlementToken funder contract amount
  return { state with ledger }

def withdrawExcessReserve (admin : Address) (amount : Int) (state : State Address) :
    Outcome Error (State Address) := do
  assertAdmin state env.toEnv admin
  ensure (¬ amount ≤ 0) .invalidConfig
  let settlementToken ← getReserveConfig state
  let available ←
    checkedSub (.error .overflow) (state.ledger settlementToken contract) state.totalReserved
  ensure (¬ available < amount) .insufficientReserve
  let ledger ← tokens.pay state.ledger settlementToken contract admin amount
  return { state with ledger }

/-- Create an accounting-only product; returns its id. -/
def createProduct (admin : Address) (name : String) (premium coverageAmount : Int)
    (oracle : Address) (parameterKey : String) (triggerThreshold : Int)
    (triggerDirection : TriggerDirection) (termSecs : Nat) (state : State Address) :
    Outcome Error (Nat × State Address) := do
  assertAdmin state env.toEnv admin
  ensure (name.utf8ByteSize ≠ 0) .emptyName
  ensure (¬ premium ≤ 0) .zeroPremium
  ensure (¬ coverageAmount ≤ 0) .zeroCoverage
  ensure (termSecs ≠ 0) .invalidTrigger
  let id ← inUnsigned u32Max .trap (state.productCount + 1)
  return (id, { state with
    products := state.products.set id {
      premium, coverageAmount, oracle, parameterKey, triggerThreshold, triggerDirection, termSecs
      isActive := true }
    productCount := id })

def deactivateProduct (admin : Address) (productId : Nat) (state : State Address) :
    Outcome Error (State Address) := do
  assertAdmin state env.toEnv admin
  let product ← getProduct state productId
  return { state with products := state.products.set productId { product with isActive := false } }

/-- Create a product that is settled from satellite rainfall; returns its id. -/
def createCropProduct (admin : Address) (name : String) (premium coverageAmount : Int)
    (satelliteOracle : Address) (region : String) (rainfallThreshold : Int)
    (triggerDirection : TriggerDirection) (termSecs maxObservationAge : Nat)
    (state : State Address) : Outcome Error (Nat × State Address) := do
  assertAdmin state env.toEnv admin
  ensure (¬ (name.utf8ByteSize = 0 ∨ region.utf8ByteSize = 0)) .emptyName
  ensure (¬ premium ≤ 0) .zeroPremium
  ensure (¬ coverageAmount ≤ 0) .zeroCoverage
  ensure (¬ (rainfallThreshold < 0 ∨ termSecs = 0 ∨ maxObservationAge = 0 ∨
    maxCropObservationAgeSecs < maxObservationAge)) .invalidConfig
  let id ← inUnsigned u32Max (.error .overflow) (state.productCount + 1)
  return (id, { state with
    products := state.products.set id {
      premium, coverageAmount, triggerDirection, termSecs
      oracle := satelliteOracle
      parameterKey := "SAT_RAIN"
      triggerThreshold := rainfallThreshold
      isActive := true }
    cropTerms := state.cropTerms.set id { region, maxObservationAge }
    productCount := id })

/-- The policy that both purchases store. -/
def newPolicy (holder : Address) (productId : Nat) (product : Product Address) (expiresAt : Nat) :
    Policy Address where
  productId
  holder
  premiumPaid := product.premium
  coverageAmount := product.coverageAmount
  purchasedAt := env.timestamp
  expiresAt
  status := .active
  triggerValue := none
  payoutAmount := none

/-- Buy an accounting-only policy; returns its id. -/
def buyPolicy (holder : Address) (productId : Nat) (state : State Address) :
    Outcome Error (Nat × State Address) := do
  assertInitialized state
  requireAuth env.toEnv holder
  let product ← getProduct state productId
  ensure (product.isActive = true) .productInactive
  ensure (¬ hasCropTerms state productId = true) .satelliteDataRequired
  let id ← inUnsigned u32Max (.error .overflow) (state.policyCount + 1)
  let expiresAt ← inUnsigned u64Max (.error .overflow) (env.timestamp + product.termSecs)
  return (id, { state with
    policies := state.policies.set id (newPolicy env holder productId product expiresAt)
    policyCount := id })

/-- Buy a crop policy, whose full coverage is reserved; returns its id. -/
def buyCropPolicy (holder : Address) (productId : Nat) (state : State Address) :
    Outcome Error (Nat × State Address) := do
  assertInitialized state
  requireAuth env.toEnv holder
  let _ ← getCropTerms state productId
  let product ← getProduct state productId
  ensure (product.isActive = true) .productInactive
  let settlementToken ← getReserveConfig state
  let expiresAt ← inUnsigned u64Max (.error .overflow) (env.timestamp + product.termSecs)
  let id ← inUnsigned u32Max (.error .overflow) (state.policyCount + 1)
  let newReserved ← checkedAdd (.error .overflow) state.totalReserved product.coverageAmount
  let ledger ← tokens.pay state.ledger settlementToken holder contract product.premium
  ensure (¬ (ledger settlementToken contract : Int) < newReserved) .insufficientReserve
  return (id, { state with
    policies := state.policies.set id (newPolicy env holder productId product expiresAt)
    fundedPolicies := state.fundedPolicies.set id true
    totalReserved := newReserved
    policyCount := id
    ledger })

/-- The trigger condition on a value. -/
def triggered (product : Product Address) (value : Int) : Bool :=
  match product.triggerDirection with
  | .atOrAbove => product.triggerThreshold ≤ value
  | .atOrBelow => value ≤ product.triggerThreshold

/-- Only active policies are claimed from. -/
def ensureActive (policy : Policy Address) : Outcome Error Unit :=
  if policy.status ≠ .active then
    if policy.status = .claimed then .error (.error .policyAlreadyClaimed)
    else .error (.error .policyNotActive)
  else pure ()

/-- The policy after a payout. -/
def Policy.paidOut (policy : Policy Address) (value : Int) : Policy Address :=
  { policy with
    status := .claimed
    triggerValue := some value
    payoutAmount := some policy.coverageAmount }

/-- Process a claim on an accounting-only policy; returns the payout. A policy past its term is
marked as expired, but with the error that is returned then the mark is rolled back. -/
def processClaim (policyId : Nat) (state : State Address) :
    Outcome Error (Int × State Address) := do
  assertInitialized state
  let policy ← getPolicy state policyId
  ensureActive policy
  ensure (¬ policy.expiresAt < env.timestamp) .policyExpired
  let product ← getProduct state policy.productId
  ensure (¬ hasCropTerms state policy.productId = true) .satelliteDataRequired
  let reading ←
    orError (state.oracleReadings.get (product.oracle, product.parameterKey)) .oracleDataStale
  ensure (¬ maxOracleStalenessSecs < env.timestamp - reading.timestamp) .oracleDataStale
  ensure (triggered product reading.value = true) .triggerNotMet
  return (policy.coverageAmount,
    { state with policies := state.policies.set policyId (policy.paidOut reading.value) })

/-- The rainfall for which a policy is claimed: its term is not over, and a verified satellite
observation of the region, made in the term and recent enough, meets the trigger. -/
def qualifyingRainfall (policy : Policy Address) (weatherDataId : Nat) (state : State Address) :
    Outcome Error Int := do
  ensure (¬ policy.expiresAt < env.timestamp) .policyExpired
  let product ← getProduct state policy.productId
  let terms ← getCropTerms state policy.productId
  let reading ← orTrap (env.weatherData product.oracle weatherDataId)
  ensure (¬ ((reading.status ≠ .verified ∧ reading.status ≠ .finalized) ∨
    reading.sourceType ≠ .satellite ∨ reading.confirmations = 0)) .invalidOracleData
  ensure (reading.location = terms.region) .wrongRegion
  ensure (¬ (reading.timestamp < policy.purchasedAt ∨ env.timestamp < reading.timestamp ∨
    policy.expiresAt < reading.timestamp ∨
    terms.maxObservationAge < env.timestamp - reading.timestamp)) .invalidObservation
  let rainfall : Int := reading.precipitation
  ensure (triggered product rainfall = true) .triggerNotMet
  return rainfall

def releaseReservedCoverage (amount : Int) (state : State Address) : Outcome Error Int := do
  ensure (¬ (amount < 0 ∨ state.totalReserved < amount)) .overflow
  checkedSub (.error .overflow) state.totalReserved amount

/-- Process a claim on a crop policy; returns the payout. -/
def processSatelliteClaim (policyId weatherDataId : Nat) (state : State Address) :
    Outcome Error (Int × State Address) := do
  assertInitialized state
  let policy ← getPolicy state policyId
  ensureActive policy
  ensure (isPolicyFunded state policyId = true) .policyNotFunded
  let rainfall ← qualifyingRainfall env policy weatherDataId state
  let totalReserved ← releaseReservedCoverage policy.coverageAmount state
  let settlementToken ← getReserveConfig state
  let ledger ←
    tokens.pay state.ledger settlementToken contract policy.holder policy.coverageAmount
  return (policy.coverageAmount, { state with
    policies := state.policies.set policyId (policy.paidOut rainfall)
    fundedPolicies := state.fundedPolicies.set policyId false
    totalReserved
    ledger })

def releaseExpired (policyId : Nat) (policy : Policy Address) (state : State Address) :
    Outcome Error (State Address) :=
  if isPolicyFunded state policyId = true then do
    let totalReserved ← releaseReservedCoverage policy.coverageAmount state
    return { state with
      totalReserved
      fundedPolicies := state.fundedPolicies.set policyId false }
  else pure state

def expirePolicy (policyId : Nat) (state : State Address) : Outcome Error (State Address) := do
  assertInitialized state
  let policy ← getPolicy state policyId
  ensure (policy.status = .active) .policyNotActive
  ensure (¬ env.timestamp ≤ policy.expiresAt) .policyExpired
  releaseExpired policyId policy
    { state with policies := state.policies.set policyId { policy with status := .expired } }

/-- The calls that change the contract's storage, and the transfers that others make. -/
inductive Operation (Address : Type) where
  | initializeInsurance (admin : Address)
  | setOracle (admin oracle : Address) (active : Bool)
  | submitReading (oracle : Address) (parameterKey : String) (value : Int)
  | configureReserve (admin settlementToken : Address)
  | fundReserve (funder : Address) (amount : Int)
  | withdrawExcessReserve (admin : Address) (amount : Int)
  | createProduct (admin : Address) (name : String) (premium coverageAmount : Int)
      (oracle : Address) (parameterKey : String) (triggerThreshold : Int)
      (triggerDirection : TriggerDirection) (termSecs : Nat)
  | deactivateProduct (admin : Address) (productId : Nat)
  | createCropProduct (admin : Address) (name : String) (premium coverageAmount : Int)
      (satelliteOracle : Address) (region : String) (rainfallThreshold : Int)
      (triggerDirection : TriggerDirection) (termSecs maxObservationAge : Nat)
  | buyPolicy (holder : Address) (productId : Nat)
  | buyCropPolicy (holder : Address) (productId : Nat)
  | processClaim (policyId : Nat)
  | processSatelliteClaim (policyId weatherDataId : Nat)
  | expirePolicy (policyId : Nat)
  | transferTokens (token source destination : Address) (amount : Int)

def dispatch (tokens : TokenHost Address) (state : State Address)
    (call : InsuranceEnv Address contract × Operation Address) : Outcome Error (State Address) :=
  match call.2 with
  | .initializeInsurance admin => initializeInsurance call.1 admin state
  | .setOracle admin oracle active => setOracle call.1 admin oracle active state
  | .submitReading oracle parameterKey value =>
      submitReading call.1 oracle parameterKey value state
  | .configureReserve admin settlementToken => configureReserve call.1 admin settlementToken state
  | .fundReserve funder amount => fundReserve tokens call.1 funder amount state
  | .withdrawExcessReserve admin amount => withdrawExcessReserve tokens call.1 admin amount state
  | .createProduct admin name premium coverageAmount oracle parameterKey triggerThreshold
      triggerDirection termSecs =>
      Prod.snd <$> createProduct call.1 admin name premium coverageAmount oracle parameterKey
        triggerThreshold triggerDirection termSecs state
  | .deactivateProduct admin productId => deactivateProduct call.1 admin productId state
  | .createCropProduct admin name premium coverageAmount satelliteOracle region rainfallThreshold
      triggerDirection termSecs maxObservationAge =>
      Prod.snd <$> createCropProduct call.1 admin name premium coverageAmount satelliteOracle
        region rainfallThreshold triggerDirection termSecs maxObservationAge state
  | .buyPolicy holder productId => Prod.snd <$> buyPolicy call.1 holder productId state
  | .buyCropPolicy holder productId =>
      Prod.snd <$> buyCropPolicy tokens call.1 holder productId state
  | .processClaim policyId => Prod.snd <$> processClaim call.1 policyId state
  | .processSatelliteClaim policyId weatherDataId =>
      Prod.snd <$> processSatelliteClaim tokens call.1 policyId weatherDataId state
  | .expirePolicy policyId => expirePolicy call.1 policyId state
  | .transferTokens token source destination amount => do
      let ledger ← tokens.payAs call.1.toEnv state.ledger token source destination amount
      return { state with ledger }

def machine (tokens : TokenHost Address) (contract : Address) :
    CallMachine (State Address) (InsuranceEnv Address contract × Operation Address)
      (Failure Error) where
  exec := dispatch tokens

end SorobanPlayground.ParametricInsurance
