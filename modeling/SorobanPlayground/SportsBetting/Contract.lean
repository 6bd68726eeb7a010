import SorobanPlayground.Host

/-! # Sports betting

Bettors stake tokens on the outcomes of an event. Oracles vote on the result; the winners
share the pool pro rata after a fee, and a market without a result is refunded.
-/

namespace SorobanPlayground.SportsBetting

def maxFeeBps : Nat := 1000

def maxOracles : Nat := 32

inductive MarketStatus where
  | opened
  | resolved
  | cancelled
  deriving DecidableEq, Repr

structure Market (Address : Type) where
  id : Nat
  eventId : String
  token : Address
  closeTime : Nat
  settlementDeadline : Nat
  oracleThreshold : Nat
  status : MarketStatus
  winningOutcome : Option Nat
  pools : List Int
  totalPool : Int
  feeAmount : Int
  feeClaimed : Bool
  deriving DecidableEq, Repr

inductive Error where
  | alreadyInitialized
  | notInitialized
  | unauthorized
  | paused
  | invalidFee
  | invalidThreshold
  | oracleAlreadyExists
  | oracleNotFound
  | tooManyOracles
  | invalidSchedule
  | invalidEvent
  | invalidOutcome
  | invalidAmount
  | marketNotFound
  | bettingClosed
  | marketNotClosed
  | settlementExpired
  | alreadyVoted
  | marketFinalized
  | notResolved
  | nothingToClaim
  | alreadyClaimed
  | arithmeticError
  | cancellationUnavailable
  deriving DecidableEq, Repr

/-- What the admin sets up. -/
structure Config (Address : Type) where
  admin : Address
  feeRecipient : Address
  feeBps : Nat
  deriving DecidableEq, Repr

abbrev BetKey (Address : Type) := Nat × Address × Nat

structure State (Address : Type) [DecidableEq Address] where
  config : Option (Config Address) := none
  paused : Bool := false
  marketCount : Nat := 0
  oracles : FiniteMap Address Bool := ∅
  oracleCount : Nat := 0
  markets : FiniteMap Nat (Market Address) := ∅
  bets : FiniteMap (BetKey Address) Int := ∅
  votes : FiniteMap (Nat × Address) Nat := ∅
  voteCounts : FiniteMap Nat (List Nat) := ∅
  ledger : TokenLedger Address

variable {Address : Type} [DecidableEq Address] {contract : Address} (state : State Address)

def loadConfig : Outcome Error (Config Address) :=
  orError state.config .notInitialized

def ensureNotPaused : Outcome Error Unit :=
  ensure (¬ state.paused = true) .paused

def loadMarket (id : Nat) : Outcome Error (Market Address) :=
  orError (state.markets.get id) .marketNotFound

def State.isOracle (oracle : Address) : Bool :=
  (state.oracles.get oracle).getD false

/-- The recorded stake of a bet. -/
def State.stakeOf (key : BetKey Address) : Int :=
  (state.bets.get key).getD 0

/-- The votes for each outcome of a market. -/
def State.countsOf (id : Nat) (market : Market Address) : List Nat :=
  (state.voteCounts.get id).getD (List.replicate market.pools.length 0)

/-- `a * b / divisor` in `i128`. -/
def checkedMulDiv (a b divisor : Int) : Outcome Error Int := do
  let product ← checkedMul (.error .arithmeticError) a b
  checkedDiv (.error .arithmeticError) product divisor

variable (tokens : TokenHost Address) (env : Env Address contract)

def initializeBetting (admin feeRecipient : Address) (feeBps : Nat) (state : State Address) :
    Outcome Error (State Address) := do
  ensure (¬ state.config.isSome = true) .alreadyInitialized
  ensure (¬ maxFeeBps < feeBps) .invalidFee
  requireAuth env admin
  return { state with
    config := some { admin, feeRecipient, feeBps }
    paused := false
    marketCount := 0
    oracleCount := 0 }

def setPaused (paused : Bool) (state : State Address) : Outcome Error (State Address) := do
  let config ← loadConfig state
  requireAuth env config.admin
  return { state with paused }

def addOracle (oracle : Address) (state : State Address) : Outcome Error (State Address) := do
  let config ← loadConfig state
  requireAuth env config.admin
  ensure (¬ state.isOracle oracle = true) .oracleAlreadyExists
  ensure (¬ maxOracles ≤ state.oracleCount) .tooManyOracles
  return { state with
    oracles := state.oracles.set oracle true
    oracleCount := state.oracleCount + 1 }

def removeOracle (oracle : Address) (state : State Address) : Outcome Error (State Address) := do
  let config ← loadConfig state
  requireAuth env config.admin
  ensure (state.isOracle oracle = true) .oracleNotFound
  let oracleCount ← checkedSubUnsigned .trap state.oracleCount 1
  return { state with
    oracles := state.oracles.set oracle false
    oracleCount }

def createMarket (eventId : String) (token : Address)
    (outcomeCount closeTime settlementDeadline oracleThreshold : Nat) (state : State Address) :
    Outcome Error (Nat × State Address) := do
  let config ← loadConfig state
  requireAuth env config.admin
  ensureNotPaused state
  ensure (eventId.utf8ByteSize ≠ 0) .invalidEvent
  ensure (2 ≤ outcomeCount ∧ outcomeCount ≤ 8) .invalidOutcome
  ensure (¬ (closeTime ≤ env.timestamp ∨ settlementDeadline ≤ closeTime)) .invalidSchedule
  ensure (¬ (oracleThreshold = 0 ∨ state.oracleCount < oracleThreshold)) .invalidThreshold
  let marketCount ← inUnsigned u64Max .trap (state.marketCount + 1)
  return (state.marketCount, { state with
    markets := state.markets.set state.marketCount {
      id := state.marketCount
      eventId, token, closeTime, settlementDeadline, oracleThreshold
      status := .opened
      winningOutcome := none
      pools := List.replicate outcomeCount 0
      totalPool := 0
      feeAmount := 0
      feeClaimed := false }
    marketCount })

def placeBet (bettor : Address) (marketId outcome : Nat) (amount : Int) (state : State Address) :
    Outcome Error (State Address) := do
  let _ ← loadConfig state
  ensureNotPaused state
  requireAuth env bettor
  ensure (¬ amount ≤ 0) .invalidAmount
  let market ← loadMarket state marketId
  ensure (market.status = .opened) .marketFinalized
  ensure (¬ market.closeTime ≤ env.timestamp) .bettingClosed
  ensure (outcome < market.pools.length) .invalidOutcome
  let pool ← orTrap market.pools[outcome]?
  let newPool ← checkedAdd (.error .arithmeticError) pool amount
  let totalPool ← checkedAdd (.error .arithmeticError) market.totalPool amount
  let updated ← checkedAdd (.error .arithmeticError) (state.stakeOf (marketId, bettor, outcome))
    amount
  let ledger ← tokens.pay state.ledger market.token bettor contract amount
  return { state with
    bets := state.bets.set (marketId, bettor, outcome) updated
    markets := state.markets.set market.id { market with
      totalPool
      pools := market.pools.set outcome newPool }
    ledger }

/-- The market that enough votes settle; without bets on the outcome it is cancelled. -/
def settle (market : Market Address) (outcome feeBps : Nat) : Outcome Error (Market Address) := do
  let pool ← orTrap market.pools[outcome]?
  if pool = 0 then return { market with status := .cancelled }
  else do
    let feeAmount ← checkedMulDiv market.totalPool feeBps 10000
    return { market with
      status := .resolved
      winningOutcome := some outcome
      feeAmount }

/-- Vote for a result; returns whether that settles the market. -/
def submitResult (oracle : Address) (marketId outcome : Nat) (state : State Address) :
    Outcome Error (Bool × State Address) := do
  let config ← loadConfig state
  ensureNotPaused state
  requireAuth env oracle
  ensure (state.isOracle oracle = true) .unauthorized
  let market ← loadMarket state marketId
  ensure (market.status = .opened) .marketFinalized
  ensure (¬ env.timestamp < market.closeTime) .marketNotClosed
  ensure (¬ market.settlementDeadline < env.timestamp) .settlementExpired
  ensure (outcome < market.pools.length) .invalidOutcome
  ensure (¬ state.votes.has (marketId, oracle) = true) .alreadyVoted
  let count ← orTrap (state.countsOf marketId market)[outcome]?
  let votes ← inUnsigned u32Max .trap (count + 1)
  let counted := { state with
    votes := state.votes.set (marketId, oracle) outcome
    voteCounts :=
      state.voteCounts.set marketId ((state.countsOf marketId market).set outcome votes) }
  if market.oracleThreshold ≤ votes then do
    let settled ← settle market outcome config.feeBps
    return (true, { counted with markets := counted.markets.set settled.id settled })
  else return (false, counted)

def cancelExpired (marketId : Nat) (state : State Address) : Outcome Error (State Address) := do
  let _ ← loadConfig state
  let market ← loadMarket state marketId
  ensure (market.status = .opened) .marketFinalized
  ensure (¬ env.timestamp ≤ market.settlementDeadline) .cancellationUnavailable
  return { state with
    markets := state.markets.set market.id { market with status := .cancelled } }

/-- What a stake is paid in a settled market. -/
def computePayout (market : Market Address) (outcome : Nat) (stake : Int) : Outcome Error Int :=
  if market.status = .cancelled then pure stake
  else if market.winningOutcome = some outcome then do
    let distributable ← checkedSub (.error .arithmeticError) market.totalPool market.feeAmount
    let pool ← orTrap market.pools[outcome]?
    checkedMulDiv stake distributable pool
  else pure 0

variable (contract) in
/-- A transfer out of the contract, unless there is nothing to transfer. -/
def payIfPositive (ledger : TokenLedger Address) (token destination : Address) (amount : Int) :
    Outcome Error (TokenLedger Address) :=
  if 0 < amount then tokens.pay ledger token contract destination amount else pure ledger

/-- Claim the payout of a bet; returns it. -/
def claim (bettor : Address) (marketId outcome : Nat) (state : State Address) :
    Outcome Error (Int × State Address) := do
  let _ ← loadConfig state
  requireAuth env bettor
  let market ← loadMarket state marketId
  ensure (outcome < market.pools.length) .invalidOutcome
  ensure (¬ market.status = .opened) .notResolved
  ensure (¬ state.stakeOf (marketId, bettor, outcome) = 0) .nothingToClaim
  let payout ← computePayout market outcome (state.stakeOf (marketId, bettor, outcome))
  let ledger ← payIfPositive contract tokens state.ledger market.token bettor payout
  return (payout, { state with
    bets := state.bets.set (marketId, bettor, outcome) 0
    ledger })

def claimFee (marketId : Nat) (state : State Address) : Outcome Error (Int × State Address) := do
  let config ← loadConfig state
  requireAuth env config.feeRecipient
  let market ← loadMarket state marketId
  ensure (market.status = .resolved) .notResolved
  ensure (¬ market.feeClaimed = true) .alreadyClaimed
  let ledger ← payIfPositive contract tokens state.ledger market.token config.feeRecipient
    market.feeAmount
  return (market.feeAmount, { state with
    markets := state.markets.set market.id { market with feeClaimed := true }
    ledger })

inductive Operation (Address : Type) where
  | initializeBetting (admin feeRecipient : Address) (feeBps : Nat)
  | setPaused (paused : Bool)
  | addOracle (oracle : Address)
  | removeOracle (oracle : Address)
  | createMarket (eventId : String) (token : Address)
      (outcomeCount closeTime settlementDeadline oracleThreshold : Nat)
  | placeBet (bettor : Address) (marketId outcome : Nat) (amount : Int)
  | submitResult (oracle : Address) (marketId outcome : Nat)
  | cancelExpired (marketId : Nat)
  | claim (bettor : Address) (marketId outcome : Nat)
  | claimFee (marketId : Nat)
  | transferTokens (token source destination : Address) (amount : Int)

/-- The state a call leaves; the host passes amounts of type `i128` only. -/
def dispatch (tokens : TokenHost Address) (state : State Address)
    (call : Env Address contract × Operation Address) : Outcome Error (State Address) :=
  match call.2 with
  | .initializeBetting admin feeRecipient feeBps =>
      initializeBetting call.1 admin feeRecipient feeBps state
  | .setPaused paused => setPaused call.1 paused state
  | .addOracle oracle => addOracle call.1 oracle state
  | .removeOracle oracle => removeOracle call.1 oracle state
  | .createMarket eventId token outcomeCount closeTime settlementDeadline oracleThreshold =>
      Prod.snd <$> createMarket call.1 eventId token outcomeCount closeTime settlementDeadline
        oracleThreshold state
  | .placeBet bettor marketId outcome amount => do
      let amount ← inI128 .trap amount
      placeBet tokens call.1 bettor marketId outcome amount state
  | .submitResult oracle marketId outcome =>
      Prod.snd <$> submitResult call.1 oracle marketId outcome state
  | .cancelExpired marketId => cancelExpired call.1 marketId state
  | .claim bettor marketId outcome =>
      Prod.snd <$> claim tokens call.1 bettor marketId outcome state
  | .claimFee marketId => Prod.snd <$> claimFee tokens call.1 marketId state
  | .transferTokens token source destination amount => do
      let ledger ← tokens.payAs call.1 state.ledger token source destination amount
      return { state with ledger }

def machine (tokens : TokenHost Address) (contract : Address) :
    CallMachine (State Address) (Env Address contract × Operation Address) (Failure Error) where
  exec := dispatch tokens

end SorobanPlayground.SportsBetting
