import SorobanPlayground.Host

/-! # Fractional ownership of an NFT

A vault holds an NFT and has issued a fixed supply of fractions for it. A buyout is
an ascending auction that escrows the high bid and refunds the one it replaces. After
the settlement holders burn fractions for their part of the winning bid.
-/

namespace SorobanPlayground.NftFractional

def maxBps : Nat := 10000
def maxMetadataLen : Nat := 64

inductive Error where
  | alreadyInitialized
  | notInitialized
  | invalidAmount
  | invalidConfig
  | insufficientBalance
  | insufficientAllowance
  | allowanceExpired
  | auctionActive
  | auctionNotActive
  | auctionEnded
  | auctionNotEnded
  | bidTooLow
  | notSettled
  | nothingToClaim
  | arithmeticOverflow
  | custodyFailed
  deriving DecidableEq, Repr

inductive VaultStatus where
  | fractionalized
  | auction
  | settled
  deriving DecidableEq, Repr

structure InitConfig (Address : Type) where
  nftContract : Address
  nftId : Nat
  paymentToken : Address
  totalSupply : Int
  name : String
  symbol : String
  reservePrice : Int
  auctionDuration : Nat
  minIncrementBps : Nat

structure AuctionInfo (Address : Type) where
  bidder : Address
  bid : Int
  endTime : Nat
  deriving DecidableEq, Repr

structure Allowance where
  amount : Int
  expirationLedger : Nat
  deriving DecidableEq, Repr

structure NftHost (Address Nfts : Type) where
  transferFrom : Nfts → (nftContract caller source destination : Address) → (tokenId : Nat) →
    Option Nfts
  ownerOf : Nfts → (nftContract : Address) → (tokenId : Nat) → Option Address

/-- The vault's storage, beside the payment tokens and the NFT contracts. -/
structure State (Address Nfts : Type) where
  curator : Option Address := none
  nftContract : Option Address := none
  nftId : Option Nat := none
  paymentToken : Option Address := none
  reservePrice : Option Int := none
  auctionDuration : Option Nat := none
  minIncrementBps : Option Nat := none
  status : VaultStatus := .fractionalized
  supply : Option Int := none
  auction : Option (AuctionInfo Address) := none
  proceeds : Option Int := none
  balances : FiniteMap Address Int := ∅
  allowances : FiniteMap (Address × Address) Allowance := ∅
  ledger : TokenLedger Address
  nfts : Nfts

/-- A call also sees the sequence number of its ledger. -/
structure VaultEnv (Address : Type) (contract : Address) extends Env Address contract where
  sequence : Nat

variable {Address Nfts : Type} [DecidableEq Address] {contract : Address}
  (tokens : TokenHost Address) (nftHost : NftHost Address Nfts) (state : State Address Nfts)

def State.balance (owner : Address) : Int := (state.balances.get owner).getD 0

def State.setBalance (owner : Address) (value : Int) : State Address Nfts :=
  { state with
    balances := if value = 0 then state.balances.remove owner else state.balances.set owner value }

def State.totalSupply : Int := state.supply.getD 0

def State.remainingProceeds : Int := state.proceeds.getD 0

def requireInitialized : Outcome Error Unit :=
  ensure (state.curator.isSome = true) .notInitialized

def transferPayment (source destination : Address) (amount : Int) :
    Outcome Error (State Address Nfts) := do
  let token ← orTrap state.paymentToken
  let ledger ← tokens.pay state.ledger token source destination amount
  return { state with ledger }

/-- `value as u128` of an `i128`: values that are not negative stay as they are. -/
def asU128 (value : Int) : Int := if value < 0 then value + (u128Max + 1) else value

/-- `a * b / denominator` in 256 bits, which the product of two `u128` fits. -/
def mulDiv (a b denominator : Int) (roundUp : Bool) : Outcome Error Int := do
  let product := asU128 a * asU128 b
  let divisor := asU128 denominator
  assertOrTrap (divisor ≠ 0)
  let adjusted := if roundUp then product + (divisor - 1) else product
  let result := adjusted / divisor
  ensure (¬ i128Max < result) .arithmeticOverflow
  return result

variable (env : VaultEnv Address contract)

def initializeVault (curator depositor : Address) (config : InitConfig Address)
    (state : State Address Nfts) : Outcome Error (State Address Nfts) := do
  ensure (state.curator.isSome = false) .alreadyInitialized
  ensure (¬ (config.totalSupply ≤ 0 ∨ config.reservePrice ≤ 0 ∨ config.auctionDuration = 0 ∨
    config.minIncrementBps = 0 ∨ maxBps < config.minIncrementBps ∨
    config.name.utf8ByteSize = 0 ∨ maxMetadataLen < config.name.utf8ByteSize ∨
    config.symbol.utf8ByteSize = 0 ∨ maxMetadataLen < config.symbol.utf8ByteSize)) .invalidConfig
  requireAuth env.toEnv depositor
  let nfts ← orTrap
    (nftHost.transferFrom state.nfts config.nftContract contract depositor contract config.nftId)
  let owner ← orTrap (nftHost.ownerOf nfts config.nftContract config.nftId)
  ensure (owner = contract) .custodyFailed
  let opened : State Address Nfts := { state with
    curator := some curator
    nftContract := some config.nftContract
    nftId := some config.nftId
    paymentToken := some config.paymentToken
    reservePrice := some config.reservePrice
    auctionDuration := some config.auctionDuration
    minIncrementBps := some config.minIncrementBps
    status := .fractionalized
    supply := some config.totalSupply
    proceeds := some 0
    nfts }
  return opened.setBalance depositor config.totalSupply

/-- Move fractions; the receiver's balance is read after the sender's is written. -/
def moveBalance (source destination : Address) (amount : Int) (state : State Address Nfts) :
    Outcome Error (State Address Nfts) := do
  ensure (¬ amount ≤ 0) .invalidAmount
  let sourceBalance := state.balance source
  ensure (¬ sourceBalance < amount) .insufficientBalance
  let left ← checkedSub .trap sourceBalance amount
  let state := state.setBalance source left
  let newBalance ← checkedAdd (.error .arithmeticOverflow) (state.balance destination) amount
  return state.setBalance destination newBalance

def transfer (source destination : Address) (amount : Int) (state : State Address Nfts) :
    Outcome Error (State Address Nfts) := do
  requireInitialized state
  requireAuth env.toEnv source
  moveBalance source destination amount state

def approve (source spender : Address) (amount : Int) (expirationLedger : Nat)
    (state : State Address Nfts) : Outcome Error (State Address Nfts) := do
  requireInitialized state
  requireAuth env.toEnv source
  ensure (¬ (amount < 0 ∨ (0 < amount ∧ expirationLedger < env.sequence))) .invalidAmount
  return { state with
    allowances :=
      if amount = 0 then state.allowances.remove (source, spender)
      else state.allowances.set (source, spender) { amount, expirationLedger } }

def transferFrom (spender source destination : Address) (amount : Int) (state : State Address Nfts)
    :
    Outcome Error (State Address Nfts) := do
  requireInitialized state
  requireAuth env.toEnv spender
  ensure (¬ amount ≤ 0) .invalidAmount
  let approved := (state.allowances.get (source, spender)).getD
    { amount := 0, expirationLedger := 0 }
  ensure (¬ approved.expirationLedger < env.sequence) .allowanceExpired
  ensure (¬ approved.amount < amount) .insufficientAllowance
  let left ← checkedSub .trap approved.amount amount
  moveBalance source destination amount { state with
    allowances :=
      if left = 0 then state.allowances.remove (source, spender)
      else state.allowances.set (source, spender) { approved with amount := left } }

/-- Open the auction with a bid of at least the reserve price. -/
def startAuction (bidder : Address) (bid : Int) (state : State Address Nfts) :
    Outcome Error (State Address Nfts) := do
  requireInitialized state
  ensure (state.status = .fractionalized) .auctionActive
  let reserve ← orTrap state.reservePrice
  ensure (¬ bid < reserve) .bidTooLow
  requireAuth env.toEnv bidder
  let state ← transferPayment tokens state bidder contract bid
  let duration ← orTrap state.auctionDuration
  let endTime ← inUnsigned u64Max (.error .arithmeticOverflow) (env.timestamp + duration)
  return { state with
    auction := some { bidder, bid, endTime }
    status := .auction }

/-- Outbid the high bid, which is refunded. -/
def bid (env : VaultEnv Address contract) (bidder : Address) (amount : Int)
    (state : State Address Nfts) : Outcome Error (State Address Nfts) := do
  requireInitialized state
  ensure (state.status = .auction) .auctionNotActive
  let current ← orTrap state.auction
  ensure (¬ current.endTime ≤ env.timestamp) .auctionEnded
  let bps ← orTrap state.minIncrementBps
  let increment ← mulDiv current.bid bps maxBps true
  let minimum ← checkedAdd (.error .arithmeticOverflow) current.bid increment
  ensure (¬ amount < minimum) .bidTooLow
  requireAuth env.toEnv bidder
  let state ← transferPayment tokens state bidder contract amount
  let state ← transferPayment tokens state contract current.bidder current.bid
  return { state with
    auction := some { bidder, bid := amount, endTime := current.endTime } }

/-- End the auction: the winning bid becomes the proceeds, the NFT goes to the winner. -/
def settle (state : State Address Nfts) : Outcome Error (State Address Nfts) := do
  requireInitialized state
  ensure (state.status = .auction) .auctionNotActive
  let auction ← orTrap state.auction
  ensure (¬ env.timestamp < auction.endTime) .auctionNotEnded
  let nftAddress ← orTrap state.nftContract
  let nftId ← orTrap state.nftId
  let nfts ← orTrap
    (nftHost.transferFrom state.nfts nftAddress contract contract auction.bidder nftId)
  return { state with
    status := .settled
    proceeds := some auction.bid
    nfts }

/-- The share of the proceeds; the last claim takes what is left. -/
def payoutOf (amount supply proceeds : Int) : Outcome Error Int :=
  if amount = supply then pure proceeds else mulDiv amount proceeds supply false

/-- Burn fractions for their share of the proceeds; returns it. -/
def claim (holder : Address) (amount : Int) (state : State Address Nfts) :
    Outcome Error (Int × State Address Nfts) := do
  requireInitialized state
  ensure (state.status = .settled) .notSettled
  requireAuth env.toEnv holder
  ensure (¬ amount ≤ 0) .invalidAmount
  let holderBalance := state.balance holder
  ensure (¬ holderBalance < amount) .insufficientBalance
  let supply ← orTrap state.supply
  let proceeds ← orTrap state.proceeds
  let payout ← payoutOf amount supply proceeds
  ensure (¬ payout ≤ 0) .nothingToClaim
  let left ← checkedSub .trap holderBalance amount
  let supplyLeft ← checkedSub .trap supply amount
  let proceedsLeft ← checkedSub .trap proceeds payout
  let burnt : State Address Nfts := { state.setBalance holder left with
    supply := some supplyLeft
    proceeds := some proceedsLeft }
  let paid ← transferPayment tokens burnt contract holder payout
  return (payout, paid)

/-- The calls of the contract that write its storage, and what happens to the tokens and the NFTs
outside. -/
inductive Operation (Address Nfts : Type) where
  | initializeVault (curator depositor : Address) (config : InitConfig Address)
  | transfer (source destination : Address) (amount : Int)
  | approve (source spender : Address) (amount : Int) (expirationLedger : Nat)
  | transferFrom (spender source destination : Address) (amount : Int)
  | startAuction (bidder : Address) (bid : Int)
  | bid (bidder : Address) (amount : Int)
  | settle
  | claim (holder : Address) (amount : Int)
  | transferTokens (token source destination : Address) (amount : Int)
  | moveNfts (nfts : Nfts)

def dispatch (state : State Address Nfts)
    (call : VaultEnv Address contract × Operation Address Nfts) :
    Outcome Error (State Address Nfts) :=
  match call.2 with
  | .initializeVault curator depositor config =>
      initializeVault nftHost call.1 curator depositor config state
  | .transfer source destination amount => transfer call.1 source destination amount state
  | .approve source spender amount expirationLedger =>
      approve call.1 source spender amount expirationLedger state
  | .transferFrom spender source destination amount =>
      transferFrom call.1 spender source destination amount state
  | .startAuction bidder amount => startAuction tokens call.1 bidder amount state
  | .bid bidder amount => bid tokens call.1 bidder amount state
  | .settle => settle nftHost call.1 state
  | .claim holder amount => Prod.snd <$> claim tokens call.1 holder amount state
  | .transferTokens token source destination amount => do
      let ledger ← tokens.payAs call.1.toEnv state.ledger token source destination amount
      return { state with ledger }
  | .moveNfts nfts => .ok { state with nfts }

def machine (contract : Address) :
    CallMachine (State Address Nfts) (VaultEnv Address contract × Operation Address Nfts)
      (Failure Error) where
  exec := dispatch tokens nftHost

end SorobanPlayground.NftFractional
