import SorobanPlayground.NftMarketplace.Payments

/-! # The escrow of the auctions

The contract does not record in which token the high bid of an auction was paid. A record
of it is kept beside the state. Refunds and settlements are made in that token, and the
contract's balances cover the high bids and the NFTs that it holds, in exactly the runs
whose callers name that token when they outbid and when they settle.
-/

namespace SorobanPlayground.NftMarketplace

open Function List Option

variable {Address : Type} [DecidableEq Address] {contract : Address}

/-- The token in which the high bid of a listing was paid. -/
abbrev Tender (Address : Type) := Nat → Option Address

def Tender.record (state : State Address) (operation : Operation Address)
    (tender : Tender Address) : Tender Address :=
  match operation with
  | .buyOrBid _ listingId paymentToken _ =>
      if ((state.listings.get listingId).map Listing.isAuction) = some true then
        Function.update tender listingId (some paymentToken)
      else tender
  | _ => tender

/-- The contract beside which the record is kept. -/
def recorded (tokens : TokenHost Address) (contract : Address) :
    CallMachine (State Address × Tender Address) (Env Address contract × Operation Address)
      (Failure Error) :=
  (machine tokens contract).withGhost fun state call _ tender => tender.record state call.2

/-- Whoever outbids or settles names the token of the high bid. -/
def SameToken (account : State Address × Tender Address)
    (call : Env Address contract × Operation Address) : Prop :=
  match call.2 with
  | .buyOrBid _ listingId paymentToken _ =>
      ∀ listing bidder, account.1.listings.get listingId = some listing →
        listing.isAuction = true → listing.highestBidder = some bidder →
        account.2 listingId = some paymentToken
  | .settleAuction listingId paymentToken =>
      ∀ listing bidder, account.1.listings.get listingId = some listing →
        listing.highestBidder = some bidder → account.2 listingId = some paymentToken
  | _ => True

/-- The payments that a call is to make: a bidder that is outbid gets its bid back, and the payment
of the winner is distributed, in the token of the high bid. -/
def duePayments (contract : Address) (account : State Address × Tender Address) :
    Operation Address → List (Leg Address)
  | .listNft seller nftContract _ _ _ _ _ => [⟨nftContract, seller, contract, 1⟩]
  | .buyOrBid buyer listingId paymentToken bidAmount =>
      (account.1.listings.get listingId).elim [] fun listing =>
        if listing.isAuction = true then
          refundLegs contract ((account.2 listingId).getD paymentToken) listing ++
            [⟨paymentToken, buyer, contract, bidAmount⟩]
        else
          saleLegs paymentToken buyer (account.1.feeRecipient.getD contract) listing bidAmount ++
            [⟨listing.nftContract, contract, buyer, 1⟩]
  | .settleAuction listingId paymentToken =>
      (account.1.listings.get listingId).elim [] fun listing =>
        settlementLegs contract ((account.2 listingId).getD paymentToken)
          (account.1.feeRecipient.getD contract) listing
  | .cancelListing seller listingId =>
      (account.1.listings.get listingId).elim [] fun listing =>
        [⟨listing.nftContract, contract, seller, 1⟩]
  | .transferTokens token source destination amount => [⟨token, source, destination, amount⟩]

/-- The call makes the payments that are due and no others. -/
def PaysDue (tokens : TokenHost Address) (account : State Address × Tender Address)
    (call : Env Address contract × Operation Address) : Prop :=
  Moved (duePayments contract account call.2) account.1.ledger
    ((recorded tokens contract).apply account call).1.ledger

/-- The high bids of the active auctions that were paid in a token. -/
def bidsIn (account : State Address × Tender Address) (token : Address) : Int :=
  account.1.listings.total fun listingId listing =>
    if listing.active = true ∧ account.2 listingId = some token then listing.highestBid else 0

/-- The number of active listings of an NFT contract. -/
def listingsOf (account : State Address × Tender Address) (nftContract : Address) : Int :=
  account.1.listings.total fun _ listing =>
    if listing.active = true ∧ listing.nftContract = nftContract then 1 else 0

/-- The contract's balances cover the bids, and the NFTs of the active listings. -/
structure Escrowed (contract : Address) (account : State Address × Tender Address) : Prop where
  bids : ∀ token, bidsIn account token ≤ account.1.ledger token contract
  nfts : ∀ nftContract, listingsOf account nftContract ≤ account.1.ledger nftContract contract

/-- What the record says of a listing. -/
structure Entered (contract : Address) (listing : Listing Address) (token : Option Address) :
    Prop where
  outside : listing.seller ≠ contract
  limited : listing.royaltyPercent ≤ 100
  nonneg : 0 ≤ listing.highestBid
  unbid : listing.highestBidder = none → token = none
  bid : ∀ bidder, listing.highestBidder = some bidder →
    bidder ≠ contract ∧ 0 < listing.highestBid ∧ listing.isAuction = true ∧
      ∃ paid, token = some paid

/-- The record is right. -/
structure Sound (contract : Address) (account : State Address × Tender Address) : Prop where
  counted : ∀ listingId listing, account.1.listings.get listingId = some listing →
    listingId ≤ account.1.listingCount
  unlisted : ∀ listingId, account.1.listings.get listingId = none → account.2 listingId = none
  entered : ∀ listingId listing, account.1.listings.get listingId = some listing →
    Entered contract listing (account.2 listingId)

variable {state next : State Address} {tender : Tender Address} {operation : Operation Address}

omit [DecidableEq Address] in
theorem Sound.fresh (sound : Sound contract (state, tender)) :
    state.listings.get (state.listingCount + 1) = none := by
  cases got : state.listings.get (state.listingCount + 1) with
  | none => rfl
  | some listing => exact absurd (sound.counted _ listing got) (Nat.not_succ_le_self _)

variable {listingId : Nat}

section

omit [DecidableEq Address]

variable {written : Listing Address}

section

variable (sound : Sound contract (state, tender))
include sound

theorem Sound.write {token : Option Address}
    (listings : next.listings = state.listings.set listingId written)
    (counted : state.listingCount ≤ next.listingCount) (within : listingId ≤ next.listingCount)
    (entered : Entered contract written token) :
    Sound contract (next, update tender listingId token) where
  counted := by
    rw [listings]
    refine forall_set (fun other listing got => ?_) within
    exact (sound.counted other listing got).trans counted
  unlisted other gone := by
    dsimp only at gone ⊢
    rw [listings, get_set] at gone
    split at gone
    · cases gone
    · next ne =>
      rw [update_of_ne ne]
      exact sound.unlisted other gone
  entered other listing got := by
    dsimp only at got ⊢
    rw [listings, get_set] at got
    split at got
    · next same =>
      cases got
      rw [same, update_self]
      exact entered
    · next ne =>
      rw [update_of_ne ne]
      exact sound.entered other listing got

theorem Sound.write_same (listings : next.listings = state.listings.set listingId written)
    (counted : state.listingCount ≤ next.listingCount) (within : listingId ≤ next.listingCount)
    (entered : Entered contract written (tender listingId)) : Sound contract (next, tender) := by
  have written := sound.write listings counted within entered
  rwa [Function.update_eq_self] at written

theorem Sound.close {listing : Listing Address} (got : state.listings.get listingId = some listing)
    (listings : next.listings = state.listings.set listingId { listing with active := false })
    (counted : next.listingCount = state.listingCount) : Sound contract (next, tender) := by
  have within := sound.counted listingId listing got
  have entered := sound.entered listingId listing got
  exact sound.write_same listings counted.ge (within.trans counted.ge)
    ⟨entered.outside, entered.limited, entered.nonneg, entered.unbid, entered.bid⟩

end

theorem record_of_stored {listing : Listing Address}
    (got : state.listings.get listingId = some listing) (buyer paymentToken : Address)
    (bidAmount : Int) :
    tender.record state (.buyOrBid buyer listingId paymentToken bidAmount) =
      if listing.isAuction = true then update tender listingId (some paymentToken)
      else tender := by
  unfold Tender.record
  dsimp only
  rw [got]
  exact if_congr (by rw [map_some, Option.some.injEq]) rfl rfl

end

theorem Sound.step (sound : Sound contract (state, tender))
    (effect : Effect contract state operation next) :
    Sound contract (next, tender.record state operation) := by
  cases effect with
  | listed _ _ _ _ _ _ _ _ _ outside limited =>
    refine sound.write_same rfl (Nat.le_succ _) le_rfl
      ⟨outside, limited, le_rfl, fun _ => ?_, nofun⟩
    exact sound.unlisted _ sound.fresh
  | sold _ _ _ _ _ _ _ _ got _ fixed =>
    rw [record_of_stored got, if_neg (Bool.eq_false_iff.mp fixed)]
    exact sound.close got rfl rfl
  | bid _ listingId paymentToken _ listing _ _ outside got _ auction higher =>
    have entered := sound.entered listingId listing got
    rw [record_of_stored got, if_pos auction]
    refine sound.write rfl le_rfl (sound.counted listingId listing got)
      ⟨entered.outside, entered.limited, (entered.nonneg.trans_lt higher).le, nofun, ?_⟩
    rintro _ ⟨⟩
    exact ⟨outside, entered.nonneg.trans_lt higher, auction, paymentToken, rfl⟩
  | settled _ _ _ _ _ got =>
      exact sound.close got rfl rfl
  | cancelled _ _ _ _ got =>
    exact sound.close got rfl rfl
  | moved =>
    exact ⟨sound.counted, sound.unlisted, sound.entered⟩

variable {token read : Address}

theorem transferDelta_other (ne : read ≠ token) (source destination holder : Address)
    (amount : Int) :
    transferDelta token source destination amount read holder = 0 := if_neg ne

theorem movedBy_append (first second : List (Leg Address)) (read holder : Address) :
    movedBy (first ++ second) read holder =
      movedBy first read holder + movedBy second read holder := by
  unfold movedBy
  rw [map_append, sum_append]

theorem movedBy_saleLegs_other (ne : read ≠ token) (payer feeRecipient holder : Address)
    (listing : Listing Address) (amount : Int) :
    movedBy (saleLegs token payer feeRecipient listing amount) read holder = 0 := by
  unfold saleLegs
  dsimp only
  split <;> simp [transferDelta_other ne]

variable {payer feeRecipient : Address} {listing : Listing Address} {amount : Int}

theorem movedBy_saleLegs_seller (pos : 0 < amount) (limited : listing.royaltyPercent ≤ 100)
    (other : listing.seller ≠ payer) :
    0 < movedBy (saleLegs token payer feeRecipient listing amount) token listing.seller := by
  obtain ⟨fee, royalty, _⟩ := splitOf_bounds pos limited
  have gains : ∀ destination part, 0 ≤ part →
      0 ≤ transferDelta token payer destination part token listing.seller := by
    intro destination part nonneg
    rw [transferDelta_of_source_ne other]
    split
    · exact nonneg
    · exact le_rfl
  have own : transferDelta token payer listing.seller
      (splitOf amount listing.royaltyPercent).sellerRevenue token listing.seller =
        (splitOf amount listing.royaltyPercent).sellerRevenue := by
    rw [transferDelta_of_source_ne other, if_pos ⟨rfl, rfl⟩]
  have first := gains feeRecipient _ fee
  have second := gains listing.royaltyRecipient _ royalty
  unfold saleLegs
  dsimp only
  split
  · simp only [cons_append, nil_append, movedBy_cons, movedBy_nil]
    omega
  · simp only [nil_append, movedBy_cons, movedBy_nil]
    omega

theorem movedBy_saleLegs_payer (pos : 0 < amount) (limited : listing.royaltyPercent ≤ 100) :
    -amount ≤ movedBy (saleLegs token payer feeRecipient listing amount) token payer := by
  obtain ⟨fee, royalty, revenue⟩ := splitOf_bounds pos limited
  have sum := splitOf_sum amount listing.royaltyPercent
  have spends : ∀ destination part, 0 ≤ part →
      -part ≤ transferDelta token payer destination part token payer := by
    unfold transferDelta
    split <;> omega
  have first := spends feeRecipient _ fee
  have second := spends listing.royaltyRecipient _ royalty
  have third := spends listing.seller _ revenue.le
  unfold saleLegs
  dsimp only
  split
  · simp only [cons_append, nil_append, movedBy_cons, movedBy_nil]
    omega
  · simp only [nil_append, movedBy_cons, movedBy_nil]
    omega

theorem moved_due_iff (sound : Sound contract (state, tender))
    {call : Env Address contract × Operation Address} (effect : Effect contract state call.2 next) :
    Moved (duePayments contract (state, tender) call.2) state.ledger next.ledger ↔
      SameToken (state, tender) call := by
  obtain ⟨_, _⟩ := call
  cases effect with
  | listed _ _ _ _ _ _ _ _ _ _ _ paid => exact iff_of_true paid trivial
  | sold _ _ _ _ _ _ _ _ got _ fixed recipient paid =>
    refine iff_of_true ?_ fun other bidder found auction => ?_
    · unfold duePayments
      dsimp only
      rw [got, elim_some, if_neg (Bool.eq_false_iff.mp fixed), recipient]
      exact paid
    · cases got.symm.trans found
      cases fixed.symm.trans auction
  | bid _ listingId paymentToken _ listing _ _ _ got _ auction _ paid =>
    obtain ⟨-, -, -, -, bid⟩ := sound.entered listingId listing got
    unfold duePayments
    dsimp only at bid ⊢
    rw [got, elim_some, if_pos auction]
    constructor
    · intro due found bidder held _ prev
      cases got.symm.trans held
      obtain ⟨outside', pos, -, token, named⟩ := bid bidder prev
      by_contra ne
      have apart : token ≠ paymentToken := fun same => ne (same ▸ named)
      have actual := paid token bidder
      have expected := due token bidder
      rw [named, getD_some, movedBy_append] at expected
      rw [movedBy_append, refundLegs, prev] at actual
      rw [refundLegs, prev] at expected
      simp only [movedBy_cons, movedBy_nil, transferDelta_other apart, transferDelta_of_source_ne
        outside', true_and, if_true] at actual expected
      omega
    · intro same
      cases prev : listing.highestBidder with
      | none =>
        unfold refundLegs at paid ⊢
        rw [prev] at paid ⊢
        exact paid
      | some bidder =>
        have named : tender listingId = some paymentToken :=
          same listing bidder got auction prev
        rw [named]
        exact paid
  | settled listingId paymentToken listing feeRecipient _ got _ _ recipient paid =>
    obtain ⟨outside, limited, -, -, bid⟩ := sound.entered listingId listing got
    unfold duePayments
    dsimp only at bid ⊢
    rw [got, elim_some]
    cases won : listing.highestBidder with
    | none =>
      unfold settlementLegs at paid ⊢
      rw [won] at paid ⊢
      refine iff_of_true paid fun other bidder held winner => ?_
      cases got.symm.trans held
      cases won.symm.trans winner
    | some winner =>
      obtain ⟨-, pos, -, token, named⟩ := bid winner won
      rw [recipient winner won, getD_some, named, getD_some]
      constructor
      · intro due other bidder held _
        by_contra ne
        have apart : token ≠ paymentToken := fun same => ne (same ▸ named)
        have actual := paid token listing.seller
        have expected := due token listing.seller
        unfold settlementLegs at actual expected
        rw [won] at actual expected
        rw [movedBy_append, movedBy_saleLegs_other apart] at actual
        rw [movedBy_append] at expected
        have gain := @movedBy_saleLegs_seller _ _ token contract feeRecipient listing
          listing.highestBid pos limited outside
        omega
      · intro same
        have equal := Option.some.inj (named.symm.trans (same listing winner got won))
        rw [equal]
        exact paid
  | cancelled _ _ _ _ got _ _ paid =>
    refine iff_of_true ?_ trivial
    unfold duePayments
    dsimp only
    rw [got, elim_some]
    exact paid
  | moved _ _ _ _ _ _ _ paid =>
    exact iff_of_true paid trivial

/-- What the contract owes of a token for a listing: its NFT and its high bid. -/
def owedFor (tender : Tender Address) (token : Address) (listingId : Nat)
    (listing : Listing Address) : Int :=
  if listing.active = true then
    (if listing.nftContract = token then 1 else 0) +
      if tender listingId = some token then listing.highestBid else 0
  else 0

/-- The balances cover all that is owed. -/
def Covered (contract : Address) (account : State Address × Tender Address) : Prop :=
  ∀ token, account.1.listings.total (owedFor account.2 token) ≤ account.1.ledger token contract

theorem Covered.escrowed {account : State Address × Tender Address} (sound : Sound contract account)
    (covered : Covered contract account) : Escrowed contract account := by
  have least : ∀ token listingId listing, account.1.listings.get listingId = some listing →
      (if listing.active = true ∧ account.2 listingId = some token then listing.highestBid else 0) ≤
          owedFor account.2 token listingId listing ∧
        (if listing.active = true ∧ listing.nftContract = token then 1 else 0) ≤
          owedFor account.2 token listingId listing := by
    intro token listingId listing got
    have nonneg := (sound.entered listingId listing got).nonneg
    unfold owedFor
    split_ifs <;> simp_all
  constructor
  · intro token
    exact (FiniteMap.total_mono fun id listing got => (least token id listing got).1).trans
      (covered token)
  · intro token
    exact (FiniteMap.total_mono fun id listing got => (least token id listing got).2).trans
      (covered token)

theorem owed_write {listingId : Nat} {written : Listing Address} {later : Tender Address}
    (others : ∀ other, other ≠ listingId → later other = tender other) (token : Address) :
    (state.listings.set listingId written).total (owedFor later token) =
      state.listings.total (owedFor tender token) -
          FiniteMap.weightAt (owedFor tender token) listingId (state.listings.get listingId) +
        owedFor later token listingId written := by
  apply FiniteMap.total_set_reweigh
  intro other listing ne
  unfold owedFor
  rw [others other ne]

theorem owed_close {listingId : Nat} {listing : Listing Address}
    (got : state.listings.get listingId = some listing) (active : listing.active = true)
    (token : Address) :
    (state.listings.set listingId { listing with active := false }).total (owedFor tender token) =
      state.listings.total (owedFor tender token) -
        ((if listing.nftContract = token then 1 else 0) +
          if tender listingId = some token then listing.highestBid else 0) := by
  rw [owed_write fun _ _ => rfl, got, weightAt_some]
  unfold owedFor
  rw [if_pos active, if_neg Bool.false_ne_true, add_zero]

theorem owedFor_of_active {token : Address} {listingId : Nat} {listing : Listing Address}
    (active : listing.active = true) :
    owedFor tender token listingId listing =
      (if listing.nftContract = token then 1 else 0) +
        if tender listingId = some token then listing.highestBid else 0 := if_pos active

theorem nft_leaves (nftContract destination token : Address) :
    -(if nftContract = token then 1 else 0) ≤
      movedBy [⟨nftContract, contract, destination, 1⟩] token contract := by
  rw [movedBy_cons, movedBy_nil, if_congr (eq_comm : nftContract = token ↔ _) rfl rfl]
  dsimp only
  unfold transferDelta
  split_ifs <;> omega

theorem refund_leaves {paymentToken token : Address} {listing : Listing Address}
    {named : Option Address} (entered : Entered contract listing named)
    (same : ∀ bidder, listing.highestBidder = some bidder → named = some paymentToken) :
    movedBy (refundLegs contract paymentToken listing) token contract =
      -(if named = some token then listing.highestBid else 0) := by
  unfold refundLegs
  cases held : listing.highestBidder with
  | none =>
    rw [entered.unbid held]
    rfl
  | some bidder =>
    have outside := (entered.bid bidder held).1
    rw [same bidder held, movedBy_cons, movedBy_nil, add_zero]
    rw [transferDelta_out outside]
    rcases eq_or_ne token paymentToken with rfl | ne
    · rw [if_pos rfl, if_pos rfl]
    · rw [if_neg ne, if_neg fun equal => ne (Option.some.inj equal).symm, neg_zero]

theorem settlement_leaves {paymentToken feeRecipient token : Address} {listing : Listing Address}
    {named : Option Address} (entered : Entered contract listing named)
    (same : ∀ winner, listing.highestBidder = some winner → named = some paymentToken) :
    -((if listing.nftContract = token then 1 else 0) +
        if named = some token then listing.highestBid else 0) ≤
      movedBy (settlementLegs contract paymentToken feeRecipient listing) token contract := by
  unfold settlementLegs
  cases won : listing.highestBidder with
  | none =>
    have nft := @nft_leaves _ _ contract listing.nftContract listing.seller token
    rw [entered.unbid won, if_neg (some_ne_none token).symm, add_zero]
    exact nft
  | some winner =>
    have nft := @nft_leaves _ _ contract listing.nftContract winner token
    have pos := (entered.bid winner won).2.1
    rw [same winner won]
    rw [movedBy_append]
    rcases eq_or_ne token paymentToken with rfl | ne
    · have spent := @movedBy_saleLegs_payer _ _ token contract feeRecipient listing
        listing.highestBid pos entered.limited
      rw [if_pos (rfl : some token = some token)]
      omega
    · rw [if_neg fun equal => ne (Option.some.inj equal).symm,
        movedBy_saleLegs_other ne]
      omega

theorem Covered.step (sound : Sound contract (state, tender))
    (covered : Covered contract (state, tender)) {call : Env Address contract × Operation Address}
    (effect : Effect contract state call.2 next) (same : SameToken (state, tender) call) :
    Covered contract (next, tender.record state call.2) := by
  obtain ⟨_, _⟩ := call
  cases effect with
  | listed _ nftContract _ _ _ _ _ _ _ outside _ paid =>
    intro token
    have balance := paid token contract
    have before := covered token
    rw [owed_write fun _ _ => rfl, sound.fresh, weightAt_none, owedFor_of_active rfl,
      ite_self, add_zero, sub_zero]
    rw [movedBy_cons, movedBy_nil, add_zero] at balance
    rw [balance, transferDelta_in outside, if_congr (eq_comm : nftContract = token ↔ _) rfl rfl]
    exact Int.add_le_add_right before _
  | sold _ listingId _ _ listing _ _ _ got active fixed _ _ gains =>
    intro token
    have balance := gains token
    have before := covered token
    have nonneg := (sound.entered listingId listing got).nonneg
    rw [record_of_stored got, if_neg (Bool.eq_false_iff.mp fixed)]
    dsimp only at before ⊢
    rw [owed_close got active]
    rw [if_congr (eq_comm : listing.nftContract = token ↔ _) rfl rfl]
    split_ifs at balance ⊢ <;> omega
  | bid buyer listingId paymentToken bidAmount listing endTime _ outside got active auction _
      paid =>
    intro token
    have balance := paid token contract
    have before := covered token
    have others : ∀ other, other ≠ listingId →
        update tender listingId (some paymentToken) other = tender other :=
      fun other ne => update_of_ne ne _ _
    rw [movedBy_append, refund_leaves (sound.entered listingId listing got) fun bidder held =>
      same listing bidder got auction held, movedBy_cons, movedBy_nil] at balance
    rw [record_of_stored got, if_pos auction]
    dsimp only at before balance ⊢
    rw [transferDelta_in outside] at balance
    have raised : owedFor (update tender listingId (some paymentToken)) token listingId
        { listing with highestBidder := some buyer, highestBid := bidAmount, endTime } =
          (if listing.nftContract = token then 1 else 0) +
            if token = paymentToken then bidAmount else 0 := by
      unfold owedFor
      rw [if_pos active, update_self, if_congr (some_inj.trans eq_comm) rfl rfl]
    rw [owed_write others, got, weightAt_some, owedFor_of_active active, raised, balance]
    omega
  | settled listingId paymentToken listing feeRecipient _ got active _ _ paid =>
    intro token
    have balance := paid token contract
    have before := covered token
    have least := @settlement_leaves _ _ contract paymentToken feeRecipient token listing _
      (sound.entered listingId listing got) fun winner won => same listing winner got won
    change FiniteMap.total (state.listings.set _ _) (owedFor tender token) ≤ _
    dsimp only at before least ⊢
    rw [owed_close got active, balance]
    omega
  | cancelled seller listingId listing _ got active _ paid =>
    intro token
    have balance := paid token contract
    have before := covered token
    have nonneg := (sound.entered listingId listing got).nonneg
    have nft := @nft_leaves _ _ contract listing.nftContract seller token
    change FiniteMap.total (state.listings.set _ _) (owedFor tender token) ≤ _
    dsimp only at before balance ⊢
    rw [owed_close got active, balance]
    omega
  | moved _ _ _ _ _ _ outside paid =>
    intro read
    have balance := paid read contract
    have before := covered read
    rw [movedBy_cons, movedBy_nil] at balance
    change FiniteMap.total state.listings (owedFor tender read) ≤ _
    dsimp only at before balance ⊢
    rw [transferDelta_of_source_ne outside.symm] at balance
    split_ifs at balance <;> omega

variable {tokens : TokenHost Address}

/-- The record is right and the balances cover what is owed. -/
structure Backed (contract : Address) (account : State Address × Tender Address) : Prop where
  sound : Sound contract account
  covered : Covered contract account

variable {call : Env Address contract × Operation Address}
  {account after : State Address × Tender Address}

theorem Sound.exec (sound : Sound contract account)
    (ran : (recorded tokens contract).exec account call = .ok after) : Sound contract after :=
  withGhost_step ran fun _ done => sound.step (dispatch_effect done)

theorem Backed.exec (backed : Backed contract account) (same : SameToken account call)
    (ran : (recorded tokens contract).exec account call = .ok after) : Backed contract after := by
  refine withGhost_step ran fun _ done => ⟨backed.sound.step (dispatch_effect done), ?_⟩
  exact backed.covered.step backed.sound (dispatch_effect done) same

theorem paysDue_iff (sound : Sound contract account)
    (ran : (recorded tokens contract).exec account call = .ok after) :
    PaysDue tokens account call ↔ SameToken account call := by
  unfold PaysDue
  rw [apply_of_ok _ ran]
  exact moved_due_iff sound (dispatch_effect (withGhost_exec_eq_ok.mp ran).1)

theorem backed_started (admin feeRecipient : Address) (ledger : TokenLedger Address) :
    Backed contract (started admin feeRecipient ledger, fun _ => none) where
  sound := ⟨nofun, fun _ _ => rfl, nofun⟩
  covered _ := Int.natCast_nonneg _

/-- Calls signed by everyone but the contract. -/
def sampleEnv (timestamp : Nat) : Env Nat 0 where
  timestamp
  auths := [1, 2, 3, 4]
  contract_silent := zero_notMem_four_signers

/-- Everyone holds a unit of each NFT and some of each token. -/
def sampleLedger : TokenLedger Nat := fun _ holder => if holder = 0 then 0 else 1000

/-- A bid in token 7 is held. Another seller's auction is settled in that token, though its bid was
paid in token 8. -/
def mixedAuctions : List (Env Nat 0 × Operation Nat) :=
  [(sampleEnv 0, .listNft 2 5 10 true 1000 2 0), (sampleEnv 0, .buyOrBid 3 1 7 100),
    (sampleEnv 0, .listNft 4 6 10 true 1000 4 0), (sampleEnv 0, .buyOrBid 1 2 8 100),
    (sampleEnv 1000, .settleAuction 2 7)]

/-- The winning bids are distributed in full and the other bids given back in the tokens in which
they were paid, and the contract's balances cover the high bids and the NFTs, in exactly the runs
that name the token of the high bid. -/
theorem escrow_iff_sameToken (tokens : TokenHost Address) (contract admin feeRecipient : Address)
    (ledger : TokenLedger Address) (calls : List (Env Address contract × Operation Address)) :
    (∀ amount royaltyPercent,
      (splitOf amount royaltyPercent).marketplaceFee + (splitOf amount royaltyPercent).royalty +
        (splitOf amount royaltyPercent).sellerRevenue = amount) ∧
    ((recorded tokens contract).Always (Escrowed contract)
          (started admin feeRecipient ledger, fun _ => none) calls ∧
        (recorded tokens contract).Meets (PaysDue tokens)
          (started admin feeRecipient ledger, fun _ => none) calls ↔
      (recorded tokens contract).Meets SameToken
        (started admin feeRecipient ledger, fun _ => none) calls) := by
  have start := @backed_started _ _ contract admin feeRecipient ledger
  have sound : ∀ account call after, Sound contract account →
      (recorded tokens contract).exec account call = .ok after → Sound contract after :=
    fun _ _ _ sound ran => sound.exec ran
  have due : (recorded tokens contract).Meets (PaysDue tokens) _ calls ↔
      (recorded tokens contract).Meets SameToken _ calls :=
    CallMachine.meets_congr sound (fun _ _ _ sound ran => paysDue_iff sound ran)
      start.sound calls
  have keeps : ∀ account call after, Backed contract account → SameToken account call →
      (recorded tokens contract).exec account call = .ok after → Backed contract after :=
    fun _ _ _ backed same ran => backed.exec same ran
  refine ⟨splitOf_sum, fun held => due.mp held.2, fun same => ⟨?_, due.mpr same⟩⟩
  exact (always_of_meets keeps start same).mono fun account backed =>
    backed.covered.escrowed backed.sound

/-- A settlement in a foreign token takes another auction's bid, and its seller gets nothing of the
token of its own winner. -/
theorem foreign_settlement_takes_bid :
    (¬ ∀ calls, (recorded standardHost (0 : Nat)).Always (Escrowed 0)
        (started 1 9 sampleLedger, fun _ => none) calls) ∧
      ¬ ∀ calls, (recorded standardHost (0 : Nat)).Meets (PaysDue standardHost)
        (started 1 9 sampleLedger, fun _ => none) calls := by
  constructor
  · intro always
    have escrowed := (always mixedAuctions).final
    exact absurd (escrowed.bids 7) (by decide)
  · intro meets
    have due := (meets mixedAuctions).2.2.2.2.1 ⟨_, rfl⟩
    exact absurd (due 8 4) (by decide)

end SorobanPlayground.NftMarketplace
