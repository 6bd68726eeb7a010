import SorobanPlayground.Host

/-! # The cross-chain bridge

Depositors lock an amount for the other chain. Until the deposit expires a
relayer can confirm that it was minted there, on its own or on a proof that a
quorum of validators voted for; after it has expired the depositor can reclaim
it. Statistics of the deposits are kept along the way.
-/

namespace SorobanPlayground.CrossChainBridge

/-- Ten percent. -/
def maxFeeBps : Nat := 1000

inductive Error where
  | alreadyInitialized
  | notInitialized
  | unauthorized
  | zeroAmount
  | depositNotFound
  | alreadyProcessed
  | notExpired
  | emptyTxHash
  | emptyDestination
  | emptyToken
  | bridgePaused
  | depositExpired
  | unknownRelayer
  | dailyLimitExceeded
  | invalidFee
  | unknownValidator
  | alreadyVoted
  | emptyProofHash
  | invalidQuorum
  | proofNotVerified
  | proofAlreadyFinalized
  | arithmeticOverflow
  | invalidAmount
  deriving DecidableEq, Repr

inductive DepositStatus where
  | pending
  | minted
  | refunded
  deriving DecidableEq, Repr

/-- A byte string. -/
abbrev Bytes := List UInt8

/-- A single lock-and-mint deposit. -/
structure Deposit (Address : Type) where
  depositor : Address
  token : String
  /-- The amount locked, after the fee. -/
  amount : Int
  fee : Int
  ethDestination : String
  createdAt : Nat
  /-- The last moment of a mint; a refund is allowed after it. -/
  expiresAt : Nat
  status : DepositStatus
  ethTxHash : Option Bytes
  deriving DecidableEq, Repr

structure BridgeStats where
  totalLocked : Int := 0
  totalMinted : Int := 0
  totalRefunded : Int := 0
  depositCount : Nat := 0
  activeDeposits : Nat := 0
  deriving DecidableEq, Repr

inductive ProofStatus where
  | pending
  | verified
  deriving DecidableEq, Repr

/-- The votes for a deposit's proof. -/
structure ValidatorProof where
  /-- The first hash that was submitted. -/
  proofHash : Bytes
  voteCount : Nat
  status : ProofStatus
  deriving DecidableEq, Repr

/-- The contract's storage, with the values that absent keys stand for. -/
structure State (Address : Type) where
  admin : Option Address := none
  paused : Bool := false
  feeBps : Nat := 30
  expirySeconds : Nat := 86400
  dailyLimit : Int := i128Max
  dailyVolume : Int := 0
  dailyVolumeTs : Nat := 0
  depositCount : Nat := 0
  deposits : FiniteMap Nat (Deposit Address) := ∅
  relayers : FiniteMap Address Bool := ∅
  stats : BridgeStats := {}
  validators : FiniteMap Address Bool := ∅
  validatorQuorum : Nat := 2
  proofs : FiniteMap Nat ValidatorProof := ∅
  validatorVotes : FiniteMap (Nat × Address) Bool := ∅

variable {Address : Type} [DecidableEq Address] {contract : Address} (state : State Address)

def State.getAdmin : Outcome Error Address := orError state.admin .notInitialized

def State.getDeposit (id : Nat) : Outcome Error (Deposit Address) :=
  orError (state.deposits.get id) .depositNotFound

def State.setDeposit (id : Nat) (deposit : Deposit Address) : State Address :=
  { state with deposits := state.deposits.set id deposit }

def State.isRelayer (relayer : Address) : Bool := (state.relayers.get relayer).getD false

def State.isValidator (validator : Address) : Bool := (state.validators.get validator).getD false

def State.hasValidatorVoted (depositId : Nat) (validator : Address) : Bool :=
  (state.validatorVotes.get (depositId, validator)).getD false

def assertInitialized : Outcome Error Unit := ensure (state.admin.isSome = true) .notInitialized

def assertAdmin (env : Env Address contract) (caller : Address) : Outcome Error Unit := do
  assertInitialized state
  requireAuth env caller
  let admin ← state.getAdmin
  ensure (caller = admin) .unauthorized

/-- The daily volume after a lock; it starts anew a day after it was last written. -/
def accumulateDailyVolume (env : Env Address contract) (amount : Int) : Int × State Address :=
  let current := if 86400 ≤ env.timestamp - state.dailyVolumeTs then 0 else state.dailyVolume
  let newVolume := saturateI128 (current + amount)
  (newVolume, { state with dailyVolume := newVolume, dailyVolumeTs := env.timestamp })

variable (env : Env Address contract)

def initializeBridge (admin : Address) (feeBps expirySeconds : Nat) (dailyLimit : Int)
    (state : State Address) : Outcome Error (State Address) := do
  ensure (state.admin.isSome = false) .alreadyInitialized
  ensure (¬ maxFeeBps < feeBps) .invalidFee
  requireAuth env admin
  return { state with
    admin := some admin
    feeBps
    expirySeconds
    dailyLimit
    paused := false
    depositCount := 0 }

def setPaused (admin : Address) (paused : Bool) (state : State Address) :
    Outcome Error (State Address) := do
  assertAdmin state env admin
  return { state with paused }

def setFee (admin : Address) (feeBps : Nat) (state : State Address) :
    Outcome Error (State Address) := do
  assertAdmin state env admin
  ensure (¬ maxFeeBps < feeBps) .invalidFee
  return { state with feeBps }

def setExpiry (admin : Address) (expirySeconds : Nat) (state : State Address) :
    Outcome Error (State Address) := do
  assertAdmin state env admin
  return { state with expirySeconds }

def setDailyLimit (admin : Address) (limit : Int) (state : State Address) :
    Outcome Error (State Address) := do
  assertAdmin state env admin
  ensure (¬ limit < 0) .invalidAmount
  return { state with dailyLimit := limit }

def setRelayer (admin relayer : Address) (active : Bool) (state : State Address) :
    Outcome Error (State Address) := do
  assertAdmin state env admin
  return { state with relayers := state.relayers.set relayer active }

def setValidator (admin validator : Address) (active : Bool) (state : State Address) :
    Outcome Error (State Address) := do
  assertAdmin state env admin
  return { state with validators := state.validators.set validator active }

def setValidatorQuorum (admin : Address) (quorum : Nat) (state : State Address) :
    Outcome Error (State Address) := do
  assertAdmin state env admin
  ensure (¬ quorum = 0) .invalidQuorum
  return { state with validatorQuorum := quorum }

/-- Returns the id of the deposit. -/
def lock (depositor : Address) (token : String) (amount : Int) (ethDestination : String)
    (state : State Address) : Outcome Error (Nat × State Address) := do
  assertInitialized state
  ensure (state.paused = false) .bridgePaused
  requireAuth env depositor
  ensure (¬ amount ≤ 0) .zeroAmount
  ensure (¬ token.length = 0) .emptyToken
  ensure (¬ ethDestination.length = 0) .emptyDestination
  let (newVolume, state) := accumulateDailyVolume state env amount
  ensure (¬ state.dailyLimit < newVolume) .dailyLimitExceeded
  let scaled ← checkedMul (.error .arithmeticOverflow) amount state.feeBps
  let fee ← checkedDiv (.error .arithmeticOverflow) scaled 10000
  let netAmount ← checkedSub (.error .arithmeticOverflow) amount fee
  let now := env.timestamp
  let expiry ← inUnsigned u64Max (.error .arithmeticOverflow) (now + state.expirySeconds)
  let id ← inUnsigned u32Max (.error .arithmeticOverflow) (state.depositCount + 1)
  let deposit : Deposit Address :=
    { depositor, token, amount := netAmount, fee, ethDestination, createdAt := now,
      expiresAt := expiry, status := .pending, ethTxHash := none }
  let totalLocked ← checkedAdd (.error .arithmeticOverflow) state.stats.totalLocked netAmount
  let depositCount ← inUnsigned u32Max (.error .arithmeticOverflow) (state.stats.depositCount + 1)
  let activeDeposits ← inUnsigned u32Max (.error .arithmeticOverflow)
    (state.stats.activeDeposits + 1)
  return (id, { state.setDeposit id deposit with
    depositCount := id
    stats := { state.stats with totalLocked, depositCount, activeDeposits } })

/-- What both ways of confirming a mint do once the relayer and the proof are checked. -/
def mintDeposit (depositId : Nat) (ethTxHash : Bytes) (state : State Address) :
    Outcome Error (State Address) := do
  let deposit ← state.getDeposit depositId
  ensure (deposit.status = .pending) .alreadyProcessed
  ensure (¬ deposit.expiresAt < env.timestamp) .depositExpired
  let minted := { deposit with status := .minted, ethTxHash := some ethTxHash }
  let totalMinted ← checkedAdd (.error .arithmeticOverflow) state.stats.totalMinted deposit.amount
  return { state.setDeposit depositId minted with
    stats := { state.stats with totalMinted, activeDeposits := state.stats.activeDeposits - 1 } }

def confirmMint (relayer : Address) (depositId : Nat) (ethTxHash : Bytes) (state : State Address) :
    Outcome Error (State Address) := do
  assertInitialized state
  requireAuth env relayer
  ensure (state.isRelayer relayer = true) .unknownRelayer
  ensure (¬ ethTxHash.length = 0) .emptyTxHash
  mintDeposit env depositId ethTxHash state

def confirmMintWithProof (relayer : Address) (depositId : Nat) (ethTxHash : Bytes)
    (state : State Address) : Outcome Error (State Address) := do
  assertInitialized state
  requireAuth env relayer
  ensure (state.isRelayer relayer = true) .unknownRelayer
  ensure (¬ ethTxHash.length = 0) .emptyTxHash
  let proof ← orError (state.proofs.get depositId) .proofNotVerified
  ensure (proof.status = .verified) .proofNotVerified
  mintDeposit env depositId ethTxHash state

/-- Reclaim a deposit after it has expired; the fee is not refunded. -/
def refund (depositor : Address) (depositId : Nat) (state : State Address) :
    Outcome Error (Int × State Address) := do
  assertInitialized state
  requireAuth env depositor
  let deposit ← state.getDeposit depositId
  ensure (deposit.depositor = depositor) .unauthorized
  ensure (deposit.status = .pending) .alreadyProcessed
  ensure (¬ env.timestamp ≤ deposit.expiresAt) .notExpired
  let refunded := { deposit with status := .refunded }
  let refundAmount := deposit.amount
  let totalRefunded ← checkedAdd (.error .arithmeticOverflow) state.stats.totalRefunded refundAmount
  return (refundAmount, { state.setDeposit depositId refunded with
    stats := { state.stats with totalRefunded, activeDeposits := state.stats.activeDeposits - 1 } })

/-- The first vote sets the hash, and later ones must match it. -/
def submitValidatorVote (depositId : Nat) (validator : Address) (proofHash : Bytes)
    (state : State Address) : Outcome Error (ValidatorProof × State Address) := do
  ensure (state.hasValidatorVoted depositId validator = false) .alreadyVoted
  let proof := (state.proofs.get depositId).getD
    { proofHash, voteCount := 0, status := .pending }
  ensure (¬ proof.status = .verified) .proofAlreadyFinalized
  ensure (¬ (0 < proof.voteCount ∧ proof.proofHash ≠ proofHash)) .emptyProofHash
  let voteCount ← inUnsigned u32Max .trap (proof.voteCount + 1)
  let status := if state.validatorQuorum ≤ voteCount then .verified else proof.status
  let proof := { proof with voteCount, status }
  return (proof, { state with
    validatorVotes := state.validatorVotes.set (depositId, validator) true
    proofs := state.proofs.set depositId proof })

/-- A registered validator submits a proof hash. -/
def submitProof (validator : Address) (depositId : Nat) (proofHash : Bytes) (state : State Address)
    :
    Outcome Error (ValidatorProof × State Address) := do
  assertInitialized state
  ensure (state.paused = false) .bridgePaused
  requireAuth env validator
  ensure (state.isValidator validator = true) .unknownValidator
  ensure (¬ proofHash.length = 0) .emptyProofHash
  let _ ← state.getDeposit depositId
  submitValidatorVote depositId validator proofHash state

inductive Operation (Address : Type) where
  | initializeBridge (admin : Address) (feeBps expirySeconds : Nat) (dailyLimit : Int)
  | setPaused (admin : Address) (paused : Bool)
  | setFee (admin : Address) (feeBps : Nat)
  | setExpiry (admin : Address) (expirySeconds : Nat)
  | setDailyLimit (admin : Address) (limit : Int)
  | setRelayer (admin relayer : Address) (active : Bool)
  | setValidator (admin validator : Address) (active : Bool)
  | setValidatorQuorum (admin : Address) (quorum : Nat)
  | lock (depositor : Address) (token : String) (amount : Int) (ethDestination : String)
  | confirmMint (relayer : Address) (depositId : Nat) (ethTxHash : Bytes)
  | confirmMintWithProof (relayer : Address) (depositId : Nat) (ethTxHash : Bytes)
  | refund (depositor : Address) (depositId : Nat)
  | submitProof (validator : Address) (depositId : Nat) (proofHash : Bytes)

def dispatch (state : State Address) (call : Env Address contract × Operation Address) :
    Outcome Error (State Address) :=
  match call.2 with
  | .initializeBridge admin feeBps expirySeconds dailyLimit =>
      initializeBridge call.1 admin feeBps expirySeconds dailyLimit state
  | .setPaused admin paused => setPaused call.1 admin paused state
  | .setFee admin feeBps => setFee call.1 admin feeBps state
  | .setExpiry admin expirySeconds => setExpiry call.1 admin expirySeconds state
  | .setDailyLimit admin limit => setDailyLimit call.1 admin limit state
  | .setRelayer admin relayer active => setRelayer call.1 admin relayer active state
  | .setValidator admin validator active => setValidator call.1 admin validator active state
  | .setValidatorQuorum admin quorum => setValidatorQuorum call.1 admin quorum state
  | .lock depositor token amount ethDestination =>
      Prod.snd <$> lock call.1 depositor token amount ethDestination state
  | .confirmMint relayer depositId ethTxHash =>
      confirmMint call.1 relayer depositId ethTxHash state
  | .confirmMintWithProof relayer depositId ethTxHash =>
      confirmMintWithProof call.1 relayer depositId ethTxHash state
  | .refund depositor depositId => Prod.snd <$> refund call.1 depositor depositId state
  | .submitProof validator depositId proofHash =>
      Prod.snd <$> submitProof call.1 validator depositId proofHash state

def machine (contract : Address) :
    CallMachine (State Address) (Env Address contract × Operation Address) (Failure Error) where
  exec := dispatch

end SorobanPlayground.CrossChainBridge
