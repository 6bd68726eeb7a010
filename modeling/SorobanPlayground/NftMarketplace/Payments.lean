import Mathlib.Tactic.Ring
import SorobanPlayground.NftMarketplace.Contract

/-! # What a call pays

Every successful call makes the payments of its kind. The refund of a bidder and the
payments of a settlement are made in the token that the call names, which need not be
the token of the bid.
-/

namespace SorobanPlayground.NftMarketplace

variable {Address : Type} [DecidableEq Address] {contract : Address}

/-- The parts of a price. -/
def splitOf (amount : Int) (royaltyPercent : Nat) : Split where
  marketplaceFee := (amount * 25).tdiv 1000
  royalty := (amount * royaltyPercent).tdiv 1000
  sellerRevenue := amount - (amount * 25).tdiv 1000 - (amount * royaltyPercent).tdiv 1000

def saleLegs (token payer feeRecipient : Address) (listing : Listing Address) (amount : Int) :
    List (Leg Address) :=
  let split := splitOf amount listing.royaltyPercent
  ⟨token, payer, feeRecipient, split.marketplaceFee⟩ ::
    ((if 0 < split.royalty then [⟨token, payer, listing.royaltyRecipient, split.royalty⟩]
      else []) ++
      [⟨token, payer, listing.seller, split.sellerRevenue⟩])

/-- The refund of the bidder that is outbid. -/
def refundLegs (contract token : Address) (listing : Listing Address) : List (Leg Address) :=
  match listing.highestBidder with
  | some prevBidder => [⟨token, contract, prevBidder, listing.highestBid⟩]
  | none => []

def settlementLegs (contract token feeRecipient : Address) (listing : Listing Address) :
    List (Leg Address) :=
  match listing.highestBidder with
  | some winner =>
      saleLegs token contract feeRecipient listing listing.highestBid ++
        [⟨listing.nftContract, contract, winner, 1⟩]
  | none => [⟨listing.nftContract, contract, listing.seller, 1⟩]

theorem splitPrice_eq_ok {amount : Int} {royaltyPercent : Nat} {split : Split}
    (ran : splitPrice amount royaltyPercent = .ok split) :
    split = splitOf amount royaltyPercent := by
  simp only [splitPrice, call_ok, arith_ok] at ran
  obtain ⟨-, -, -, -, rfl⟩ := ran
  rfl

variable {amount : Int} {royaltyPercent : Nat}

theorem splitOf_bounds (pos : 0 < amount) (limited : royaltyPercent ≤ 100) :
    0 ≤ (splitOf amount royaltyPercent).marketplaceFee ∧
      0 ≤ (splitOf amount royaltyPercent).royalty ∧
      0 < (splitOf amount royaltyPercent).sellerRevenue := by
  have percent : amount * royaltyPercent ≤ amount * 100 :=
    mul_le_mul_of_nonneg_left (by exact_mod_cast limited) pos.le
  have share : 0 ≤ amount * royaltyPercent := mul_nonneg pos.le (Int.natCast_nonneg _)
  have fee : 0 ≤ amount * 25 := by omega
  unfold splitOf
  dsimp only
  rw [Int.tdiv_eq_ediv_of_nonneg fee, Int.tdiv_eq_ediv_of_nonneg share]
  omega

theorem splitOf_sum (amount : Int) (royaltyPercent : Nat) :
    (splitOf amount royaltyPercent).marketplaceFee + (splitOf amount royaltyPercent).royalty +
      (splitOf amount royaltyPercent).sellerRevenue = amount := by
  unfold splitOf
  ring

/-- What a call does, and what it pays. -/
inductive Effect (contract : Address) (state : State Address) :
    Operation Address → State Address → Prop
  | listed (seller nftContract : Address) (price : Int) (isAuction : Bool) (duration endTime : Nat)
      (royaltyRecipient : Address) (royaltyPercent : Nat) (ledger : TokenLedger Address)
      (outside : seller ≠ contract) (limited : royaltyPercent ≤ 100)
      (paid : Moved [⟨nftContract, seller, contract, 1⟩] state.ledger ledger) :
      Effect contract state
        (.listNft seller nftContract price isAuction duration royaltyRecipient royaltyPercent)
        { state with
          listings := state.listings.set (state.listingCount + 1) {
            seller, nftContract, price, isAuction, endTime, royaltyRecipient, royaltyPercent
            highestBidder := none
            highestBid := 0
            active := true }
          listingCount := state.listingCount + 1
          ledger }
  | sold (buyer : Address) (listingId : Nat) (paymentToken : Address) (bidAmount : Int)
      (listing : Listing Address) (feeRecipient : Address) (ledger : TokenLedger Address)
      (outside : buyer ≠ contract) (stored : state.listings.get listingId = some listing)
      (active : listing.active = true) (fixed : listing.isAuction = false)
      (recipient : state.feeRecipient = some feeRecipient)
      (paid : Moved (saleLegs paymentToken buyer feeRecipient listing bidAmount ++
        [⟨listing.nftContract, contract, buyer, 1⟩]) state.ledger ledger)
      (gains : ∀ token, (state.ledger token contract : Int) -
        (if token = listing.nftContract then 1 else 0) ≤ ledger token contract) :
      Effect contract state (.buyOrBid buyer listingId paymentToken bidAmount)
        { state with
          listings := state.listings.set listingId { listing with active := false }
          ledger }
  | bid (buyer : Address) (listingId : Nat) (paymentToken : Address) (bidAmount : Int)
      (listing : Listing Address) (endTime : Nat) (ledger : TokenLedger Address)
      (outside : buyer ≠ contract) (stored : state.listings.get listingId = some listing)
      (active : listing.active = true) (auction : listing.isAuction = true)
      (higher : listing.highestBid < bidAmount)
      (paid : Moved (refundLegs contract paymentToken listing ++
        [⟨paymentToken, buyer, contract, bidAmount⟩]) state.ledger ledger) :
      Effect contract state (.buyOrBid buyer listingId paymentToken bidAmount)
        { state with
          listings := state.listings.set listingId { listing with
            highestBidder := some buyer
            highestBid := bidAmount
            endTime }
          ledger }
  | settled (listingId : Nat) (paymentToken : Address) (listing : Listing Address)
      (feeRecipient : Address) (ledger : TokenLedger Address)
      (stored : state.listings.get listingId = some listing) (active : listing.active = true)
      (auction : listing.isAuction = true)
      (recipient : ∀ winner, listing.highestBidder = some winner →
        state.feeRecipient = some feeRecipient)
      (paid : Moved (settlementLegs contract paymentToken feeRecipient listing) state.ledger
        ledger) :
      Effect contract state (.settleAuction listingId paymentToken)
        { state with
          listings := state.listings.set listingId { listing with active := false }
          ledger }
  | cancelled (seller : Address) (listingId : Nat) (listing : Listing Address)
      (ledger : TokenLedger Address) (stored : state.listings.get listingId = some listing)
      (active : listing.active = true)
      (unbid : listing.isAuction = true → listing.highestBidder = none)
      (paid : Moved [⟨listing.nftContract, contract, seller, 1⟩] state.ledger ledger) :
      Effect contract state (.cancelListing seller listingId)
        { state with
          listings := state.listings.set listingId { listing with active := false }
          ledger }
  | moved (token source destination : Address) (amount : Int) (ledger : TokenLedger Address)
      (nonneg : 0 ≤ amount) (outside : source ≠ contract)
      (paid : Moved [⟨token, source, destination, amount⟩] state.ledger ledger) :
      Effect contract state (.transferTokens token source destination amount)
        { state with ledger }

variable {tokens : TokenHost Address} {env : Env Address contract} {state next : State Address}
  {listing : Listing Address} {ledger later : TokenLedger Address}
  {token payer feeRecipient : Address}

theorem distribute_moved {amount : Int}
    (ran : distribute tokens ledger token payer feeRecipient listing amount = .ok later) :
    Moved (saleLegs token payer feeRecipient listing amount) ledger later := by
  simp only [distribute, bind_eq_ok] at ran
  obtain ⟨split, divided, _, feePaid, _, royaltyPaid, revenuePaid⟩ := ran
  obtain rfl := splitPrice_eq_ok divided
  have fee := pay_moved feePaid
  have revenue := pay_moved revenuePaid
  refine fee.append (Moved.append ?_ revenue)
  unfold payRoyalty at royaltyPaid
  split at royaltyPaid
  · next some =>
    rw [if_pos some]
    exact pay_moved royaltyPaid
  · next none =>
    cases royaltyPaid
    rw [if_neg none]
    exact moved_nil _

theorem distribute_le {amount : Int}
    (ran : distribute tokens ledger token payer feeRecipient listing amount = .ok later)
    {holder : Address} (ne : holder ≠ payer) (read : Address) :
    (ledger read holder : Int) ≤ later read holder := by
  simp only [distribute, bind_eq_ok] at ran
  obtain ⟨split, -, _, feePaid, _, royaltyPaid, revenuePaid⟩ := ran
  have fee := tokens.pay_le feePaid ne read
  have revenue := tokens.pay_le revenuePaid ne read
  unfold payRoyalty at royaltyPaid
  split at royaltyPaid
  · exact fee.trans ((tokens.pay_le royaltyPaid ne read).trans revenue)
  · cases royaltyPaid
    exact fee.trans revenue

theorem listNft_effect {seller nftContract : Address} {price : Int} {isAuction : Bool}
    {duration : Nat} {royaltyRecipient : Address} {royaltyPercent : Nat}
    (ran : (Prod.snd <$> listNft tokens env seller nftContract price isAuction duration
      royaltyRecipient royaltyPercent state) = .ok next) :
    Effect contract state
      (.listNft seller nftContract price isAuction duration royaltyRecipient royaltyPercent)
      next := by
  simp only [listNft, map_eq_ok, call_ok, assertOrTrap_eq_ok, arith_ok] at ran
  obtain ⟨_, ⟨signed, limited, ledger, paid, -, -, rfl⟩, rfl⟩ := ran
  exact Effect.listed seller nftContract price isAuction duration _ royaltyRecipient
    royaltyPercent ledger (env.ne_contract signed) (not_lt.mp limited) (pay_moved paid)

variable {buyer : Address} {bidAmount : Int}

theorem buyFixed_effect {listingId : Nat} {listing updated : Listing Address}
    {paymentToken : Address} {ledger : TokenLedger Address}
    (outside : buyer ≠ contract) (got : state.listings.get listingId = some listing)
    (active : listing.active = true) (fixed : listing.isAuction = false)
    (ran : buyFixed contract tokens buyer listing paymentToken bidAmount state =
      .ok (updated, ledger)) :
    Effect contract state (.buyOrBid buyer listingId paymentToken bidAmount) { state with
      listings := state.listings.set listingId updated
      ledger } := by
  simp only [buyFixed, call_ok, assertOrTrap_eq_ok, orTrap_eq_ok] at ran
  obtain ⟨-, feeRecipient, recipient, _, distributed, _, nftPaid, rfl, rfl⟩ := ran
  refine Effect.sold buyer listingId paymentToken bidAmount listing feeRecipient _ outside got
    active fixed recipient
    ((distribute_moved distributed).append (pay_moved nftPaid)) fun token => ?_
  have gains := distribute_le distributed outside.symm token
  have nft := tokens.pay_leaves nftPaid token
  omega

variable {paymentToken : Address}

theorem refundPrevious_moved
    (ran : refundPrevious contract tokens listing paymentToken ledger = .ok later) :
    Moved (refundLegs contract paymentToken listing) ledger later := by
  unfold refundPrevious at ran
  unfold refundLegs
  cases bidder : listing.highestBidder with
  | none =>
    rw [bidder] at ran
    cases ran
    exact moved_nil _
  | some =>
    rw [bidder] at ran
    exact pay_moved ran

theorem placeBid_effect {listingId : Nat} {listing updated : Listing Address}
    {paymentToken : Address} {ledger : TokenLedger Address} (outside : buyer ≠ contract)
    (got : state.listings.get listingId = some listing) (active : listing.active = true)
    (auction : listing.isAuction = true)
    (ran : placeBid tokens env buyer listing paymentToken bidAmount state = .ok (updated, ledger)) :
    Effect contract state (.buyOrBid buyer listingId paymentToken bidAmount) { state with
      listings := state.listings.set listingId updated
      ledger } := by
  simp only [placeBid, call_ok, assertOrTrap_eq_ok] at ran
  obtain ⟨-, enough, _, refunded, _, escrowed, endTime, -, rfl, rfl⟩ := ran
  exact Effect.bid buyer listingId paymentToken bidAmount listing endTime _ outside got active
    auction (not_le.mp fun less => enough (.inl less))
    ((refundPrevious_moved refunded).append (pay_moved escrowed))

variable {listingId : Nat}

theorem buyOrBid_effect
    (ran : buyOrBid tokens env buyer listingId paymentToken bidAmount state = .ok next) :
    Effect contract state (.buyOrBid buyer listingId paymentToken bidAmount) next := by
  simp only [buyOrBid, call_ok, orTrap_eq_ok, assertOrTrap_eq_ok] at ran
  obtain ⟨signed, _, got, active, ⟨_, _⟩, traded, rfl⟩ := ran
  have outside := env.ne_contract signed
  unfold trade at traded
  split at traded
  · next auction => exact placeBid_effect outside got active auction traded
  · next fixed =>
    exact buyFixed_effect outside got active (Bool.eq_false_iff.mpr fixed) traded

theorem payOut_moved {paymentToken : Address} {ledger : TokenLedger Address}
    (ran : payOut contract tokens listing paymentToken state = .ok ledger) :
    ∃ feeRecipient, (∀ winner, listing.highestBidder = some winner →
        state.feeRecipient = some feeRecipient) ∧
      Moved (settlementLegs contract paymentToken feeRecipient listing) state.ledger ledger := by
  unfold payOut at ran
  unfold settlementLegs
  cases bidder : listing.highestBidder with
  | none =>
    rw [bidder] at ran
    exact ⟨contract, nofun, pay_moved ran⟩
  | some =>
    rw [bidder] at ran
    simp only [bind_eq_ok, orTrap_eq_ok] at ran
    obtain ⟨feeRecipient, recipient, _, distributed, nftPaid⟩ := ran
    exact ⟨feeRecipient, fun _ _ => recipient,
      (distribute_moved distributed).append (pay_moved nftPaid)⟩

theorem settleAuction_effect
    (ran : settleAuction tokens env listingId paymentToken state = .ok next) :
    Effect contract state (.settleAuction listingId paymentToken) next := by
  simp only [settleAuction, call_ok, orTrap_eq_ok, assertOrTrap_eq_ok] at ran
  obtain ⟨listing, got, ⟨auction, active⟩, -, ledger, paid, rfl⟩ := ran
  obtain ⟨feeRecipient, recipient, moved⟩ := payOut_moved paid
  exact Effect.settled listingId paymentToken listing feeRecipient ledger got active auction
    recipient moved

theorem cancelListing_effect {seller : Address}
    (ran : cancelListing tokens env seller listingId state = .ok next) :
    Effect contract state (.cancelListing seller listingId) next := by
  simp only [cancelListing, call_ok, orTrap_eq_ok, assertOrTrap_eq_ok] at ran
  obtain ⟨-, listing, got, active, -, unbid, ledger, paid, rfl⟩ := ran
  refine Effect.cancelled seller listingId listing ledger got active (fun auction => ?_)
    (pay_moved paid)
  exact Option.not_isSome_iff_eq_none.mp fun bidder => unbid ⟨auction, bidder⟩

theorem dispatch_effect {call : Env Address contract × Operation Address}
    (ran : dispatch tokens state call = .ok next) : Effect contract state call.2 next := by
  obtain ⟨env, op⟩ := call
  cases op with
  | listNft =>
    exact listNft_effect ran
  | buyOrBid => exact buyOrBid_effect ran
  | settleAuction => exact settleAuction_effect ran
  | cancelListing => exact cancelListing_effect ran
  | transferTokens token source destination amount =>
    unfold dispatch at ran
    simp only [payAs, call_ok] at ran
    obtain ⟨ledger, ⟨signed, paid⟩, rfl⟩ := ran
    exact Effect.moved token source destination amount ledger (tokens.pay_nonneg paid)
      (env.ne_contract signed) (pay_moved paid)

end SorobanPlayground.NftMarketplace
