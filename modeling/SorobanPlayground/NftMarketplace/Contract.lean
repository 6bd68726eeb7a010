import SorobanPlayground.Host

/-! # NFT marketplace

Sellers list NFTs for a fixed price or for an auction. The contract holds the NFT of an
active listing and the highest bid of an auction. An NFT is one unit of a token contract;
the token that a buyer or bidder pays with is an argument of the call.
-/

namespace SorobanPlayground.NftMarketplace

/-- The contract has no error values, it panics. -/
abbrev Error := Empty

structure Listing (Address : Type) where
  seller : Address
  nftContract : Address
  price : Int
  isAuction : Bool
  endTime : Nat
  highestBidder : Option Address
  highestBid : Int
  royaltyRecipient : Address
  royaltyPercent : Nat
  active : Bool
  deriving DecidableEq, Repr

structure State (Address : Type) where
  admin : Option Address := none
  feeRecipient : Option Address := none
  listingCount : Nat := 0
  listings : FiniteMap Nat (Listing Address) := ∅
  ledger : TokenLedger Address

variable {Address : Type} [DecidableEq Address] {contract : Address} (tokens : TokenHost Address)
  (env : Env Address contract)

def init (admin feeRecipient : Address) (state : State Address) :
    Outcome Error (State Address) := do
  requireAuth env admin
  return { state with
    admin := some admin
    feeRecipient := some feeRecipient
    listingCount := 0 }

def listNft (seller nftContract : Address) (price : Int) (isAuction : Bool) (duration : Nat)
    (royaltyRecipient : Address) (royaltyPercent : Nat) (state : State Address) :
    Outcome Error (Nat × State Address) := do
  requireAuth env seller
  assertOrTrap (¬ 100 < royaltyPercent)
  let ledger ← tokens.pay state.ledger nftContract seller contract 1
  let count ← inUnsigned u64Max .trap (state.listingCount + 1)
  let endTime ← inUnsigned u64Max .trap (env.timestamp + duration)
  return (count, { state with
    listings := state.listings.set count {
      seller, nftContract, price, isAuction, endTime, royaltyRecipient, royaltyPercent
      highestBidder := none
      highestBid := 0
      active := true }
    listingCount := count
    ledger })

/-- What the fee recipient, the royalty recipient and the seller get of a price. -/
structure Split where
  marketplaceFee : Int
  royalty : Int
  sellerRevenue : Int
  deriving DecidableEq, Repr

def splitPrice (amount : Int) (royaltyPercent : Nat) : Outcome Error Split := do
  let fee ← checkedMul .trap amount 25
  let marketplaceFee := fee.tdiv 1000
  let share ← checkedMul .trap amount royaltyPercent
  let royalty := share.tdiv 1000
  let rest ← checkedSub .trap amount marketplaceFee
  let sellerRevenue ← checkedSub .trap rest royalty
  return { marketplaceFee, royalty, sellerRevenue }

/-- `if royalty > 0 { token_client.transfer(payer, royalty_recipient, royalty) }`. -/
def payRoyalty (ledger : TokenLedger Address) (token payer royaltyRecipient : Address)
    (royalty : Int) : Outcome Error (TokenLedger Address) :=
  if 0 < royalty then tokens.pay ledger token payer royaltyRecipient royalty else pure ledger

/-- The three payments of a sale, by the buyer or out of the escrow. -/
def distribute (ledger : TokenLedger Address) (token payer feeRecipient : Address)
    (listing : Listing Address) (amount : Int) : Outcome Error (TokenLedger Address) := do
  let split ← splitPrice amount listing.royaltyPercent
  let ledger ← tokens.pay ledger token payer feeRecipient split.marketplaceFee
  let ledger ← payRoyalty tokens ledger token payer listing.royaltyRecipient split.royalty
  tokens.pay ledger token payer listing.seller split.sellerRevenue

variable (contract) in
/-- The purchase for a fixed price. -/
def buyFixed (buyer : Address) (listing : Listing Address) (paymentToken : Address)
    (bidAmount : Int) (state : State Address) :
    Outcome Error (Listing Address × TokenLedger Address) := do
  assertOrTrap (¬ bidAmount < listing.price)
  let feeRecipient ← orTrap state.feeRecipient
  let ledger ←
    distribute tokens state.ledger paymentToken buyer feeRecipient listing bidAmount
  let ledger ← tokens.pay ledger listing.nftContract contract buyer 1
  return ({ listing with active := false }, ledger)

variable (contract) in
/-- The refund of the bidder that is outbid. -/
def refundPrevious (listing : Listing Address) (paymentToken : Address)
    (ledger : TokenLedger Address) : Outcome Error (TokenLedger Address) :=
  match listing.highestBidder with
  | some prevBidder => tokens.pay ledger paymentToken contract prevBidder listing.highestBid
  | none => pure ledger

/-- A bid in the last ten minutes extends the auction by ten minutes. -/
def extendEnd (timestamp endTime : Nat) : Outcome Error Nat := do
  let left ← checkedSubUnsigned .trap endTime timestamp
  if left < 600 then inUnsigned u64Max .trap (endTime + 600) else pure endTime

def placeBid (buyer : Address) (listing : Listing Address) (paymentToken : Address)
    (bidAmount : Int) (state : State Address) :
    Outcome Error (Listing Address × TokenLedger Address) := do
  assertOrTrap (¬ listing.endTime ≤ env.timestamp)
  assertOrTrap (¬ (bidAmount ≤ listing.highestBid ∨ bidAmount < listing.price))
  let ledger ← refundPrevious contract tokens listing paymentToken state.ledger
  let ledger ← tokens.pay ledger paymentToken buyer contract bidAmount
  let endTime ← extendEnd env.timestamp listing.endTime
  return ({ listing with
    highestBidder := some buyer
    highestBid := bidAmount
    endTime }, ledger)

/-- The bid or the purchase, by the kind of the listing. -/
def trade (buyer : Address) (listing : Listing Address) (paymentToken : Address) (bidAmount : Int)
    (state : State Address) : Outcome Error (Listing Address × TokenLedger Address) :=
  if listing.isAuction = true then placeBid tokens env buyer listing paymentToken bidAmount state
  else buyFixed contract tokens buyer listing paymentToken bidAmount state

def buyOrBid (buyer : Address) (listingId : Nat) (paymentToken : Address) (bidAmount : Int)
    (state : State Address) : Outcome Error (State Address) := do
  requireAuth env buyer
  let listing ← orTrap (state.listings.get listingId)
  assertOrTrap (listing.active = true)
  let (listing, ledger) ← trade tokens env buyer listing paymentToken bidAmount state
  return { state with
    listings := state.listings.set listingId listing
    ledger }

variable (contract) in
/-- The payments of a settlement. -/
def payOut (listing : Listing Address) (paymentToken : Address) (state : State Address) :
    Outcome Error (TokenLedger Address) :=
  match listing.highestBidder with
  | some winner => do
      let feeRecipient ← orTrap state.feeRecipient
      let ledger ← distribute tokens state.ledger paymentToken contract feeRecipient listing
        listing.highestBid
      tokens.pay ledger listing.nftContract contract winner 1
  | none => tokens.pay state.ledger listing.nftContract contract listing.seller 1

def settleAuction (listingId : Nat) (paymentToken : Address) (state : State Address) :
    Outcome Error (State Address) := do
  let listing ← orTrap (state.listings.get listingId)
  assertOrTrap (listing.isAuction = true ∧ listing.active = true)
  assertOrTrap (¬ env.timestamp < listing.endTime)
  let ledger ← payOut contract tokens listing paymentToken state
  return { state with
    listings := state.listings.set listingId { listing with active := false }
    ledger }

def cancelListing (seller : Address) (listingId : Nat) (state : State Address) :
    Outcome Error (State Address) := do
  requireAuth env seller
  let listing ← orTrap (state.listings.get listingId)
  assertOrTrap (listing.active = true)
  assertOrTrap (listing.seller = seller)
  assertOrTrap (¬ (listing.isAuction = true ∧ listing.highestBidder.isSome = true))
  let ledger ← tokens.pay state.ledger listing.nftContract contract seller 1
  return { state with
    listings := state.listings.set listingId { listing with active := false }
    ledger }

/-- The calls after `init`, and the transfers that others make. -/
inductive Operation (Address : Type) where
  | listNft (seller nftContract : Address) (price : Int) (isAuction : Bool) (duration : Nat)
      (royaltyRecipient : Address) (royaltyPercent : Nat)
  | buyOrBid (buyer : Address) (listingId : Nat) (paymentToken : Address) (bidAmount : Int)
  | settleAuction (listingId : Nat) (paymentToken : Address)
  | cancelListing (seller : Address) (listingId : Nat)
  | transferTokens (token source destination : Address) (amount : Int)

def dispatch (tokens : TokenHost Address) (state : State Address)
    (call : Env Address contract × Operation Address) : Outcome Error (State Address) :=
  match call.2 with
  | .listNft seller nftContract price isAuction duration royaltyRecipient royaltyPercent =>
      Prod.snd <$> listNft tokens call.1 seller nftContract price isAuction duration
        royaltyRecipient royaltyPercent state
  | .buyOrBid buyer listingId paymentToken bidAmount =>
      buyOrBid tokens call.1 buyer listingId paymentToken bidAmount state
  | .settleAuction listingId paymentToken =>
      settleAuction tokens call.1 listingId paymentToken state
  | .cancelListing seller listingId => cancelListing tokens call.1 seller listingId state
  | .transferTokens token source destination amount => do
      let ledger ← tokens.payAs call.1 state.ledger token source destination amount
      return { state with ledger }

def machine (tokens : TokenHost Address) (contract : Address) :
    CallMachine (State Address) (Env Address contract × Operation Address) (Failure Error) where
  exec := dispatch tokens

/-- The state that `init` leaves of a new contract. -/
def started (admin feeRecipient : Address) (ledger : TokenLedger Address) : State Address where
  admin := some admin
  feeRecipient := some feeRecipient
  ledger

end SorobanPlayground.NftMarketplace
