import Mathlib.Tactic.Ring
import SorobanPlayground.Library.ProRataPot
import SorobanPlayground.NftFractional.Contract

/-! # The money of a buyout

The payment tokens that a vault takes in are the bids; it pays out refunds and claims.
Beside the state runs a record of these dealings. Every bid but the standing one has
been refunded, the vault holds what it still owes, and the claims share the winning
bid pro rata whatever their order.
-/

namespace SorobanPlayground.NftFractional

open State Option

variable {Address Nfts : Type} [DecidableEq Address] {contract : Address}

/-- The bids placed, the refunds and the claims paid, in order. -/
structure Dealings (Address : Type) where
  bids : List (Address × Int) := []
  refunds : List (Address × Int) := []
  claims : List (Address × Int) := []

/-- What all claims together were paid. -/
def Dealings.claimed (dealings : Dealings Address) : Int := (dealings.claims.map Prod.snd).sum

/-- The bid that has not been outbid. -/
def State.standing (state : State Address Nfts) : List (Address × Int) :=
  state.auction.toList.map fun auction => (auction.bidder, auction.bid)

/-- The remaining proceeds, shared among the fractions. -/
def State.pot (state : State Address Nfts) : ProRataPot :=
  { amount := state.remainingProceeds, shares := state.totalSupply }

/-- The record after a successful call. -/
def follow (state : State Address Nfts) (call : VaultEnv Address contract × Operation Address Nfts)
    (_ : State Address Nfts) (dealings : Dealings Address) : Dealings Address :=
  match call.2 with
  | .startAuction bidder amount =>
      { dealings with bids := dealings.bids ++ [(bidder, amount)] }
  | .bid bidder amount =>
      { dealings with
        bids := dealings.bids ++ [(bidder, amount)]
        refunds := dealings.refunds ++ state.standing }
  | .claim holder amount =>
      { dealings with claims := dealings.claims ++ [(holder, state.pot.worth amount)] }
  | _ => dealings

/-- The token movements of a successful call. -/
def payments (contract token : Address) (state : State Address Nfts) :
    Operation Address Nfts → List (Leg Address)
  | .startAuction bidder amount => [⟨token, bidder, contract, amount⟩]
  | .bid bidder amount =>
      ⟨token, bidder, contract, amount⟩ ::
        state.standing.map fun outbid => ⟨token, contract, outbid.1, outbid.2⟩
  | .claim holder amount => [⟨token, contract, holder, state.pot.worth amount⟩]
  | .transferTokens read source destination amount => [⟨read, source, destination, amount⟩]
  | _ => []

/-- The calls that move no payment tokens. -/
def Operation.Idle : Operation Address Nfts → Prop
  | .startAuction .. | .bid .. | .claim .. | .transferTokens .. => False
  | _ => True

def PhaseHolds (contract : Address) (state : State Address Nfts) (dealings : Dealings Address) :
    Prop :=
  match state.status with
  | .fractionalized => state.auction = none ∧ dealings.claims = []
  | .auction => ∃ token auction, state.paymentToken = some token ∧ state.auction = some auction ∧
      auction.bid ≤ state.ledger token contract ∧ dealings.claims = []
  | .settled => ∃ token auction, state.paymentToken = some token ∧ state.auction = some auction ∧
      state.remainingProceeds ≤ state.ledger token contract ∧
      dealings.claimed + state.remainingProceeds = auction.bid ∧ 0 ≤ state.remainingProceeds ∧
      (0 < state.totalSupply → 0 < state.remainingProceeds) ∧
      (state.totalSupply = 0 → state.remainingProceeds = 0)

/-- The fractions add up to the supply, every bid but the standing one is refunded, and the vault
holds what it owes. -/
structure BuyoutHolds (contract : Address) (account : State Address Nfts × Dealings Address) :
    Prop where
  fractions : (account.1.balances.total fun _ balance => balance) = account.1.totalSupply
  refunded : account.2.bids = account.2.refunds ++ account.1.standing
  phase : PhaseHolds contract account.1 account.2

/-- What carries these promises: balances and bids are positive, and fractions exist until they are
claimed. -/
structure Books (contract : Address) (account : State Address Nfts × Dealings Address) : Prop
    extends BuyoutHolds contract account where
  balances : ∀ owner balance, account.1.balances.get owner = some balance → 0 ≤ balance
  unopened : account.1.curator = none → account.1.balances = ∅ ∧ account.1.status = .fractionalized
  supplied : account.1.curator.isSome = true → account.1.status ≠ .settled →
    0 < account.1.totalSupply
  reserve : ∀ reserve, account.1.reservePrice = some reserve → 0 < reserve
  positive : ∀ auction, account.1.auction = some auction → 0 < auction.bid
  left : 0 ≤ account.1.remainingProceeds

/-- Fractions change hands. -/
structure Redistributed (before after : FiniteMap Address Int) : Prop where
  total : (after.total fun _ balance => balance) = before.total fun _ balance => balance
  nonneg : (∀ owner balance, before.get owner = some balance → 0 ≤ balance) →
    ∀ owner balance, after.get owner = some balance → 0 ≤ balance

/-- What a successful call leaves. -/
inductive Effect (contract : Address) (state : State Address Nfts) :
    Operation Address Nfts → State Address Nfts → Prop
  | opened (curator depositor : Address) (config : InitConfig Address)
      (next : State Address Nfts) (fresh : state.curator = none) (supply : 0 < config.totalSupply)
      (price : 0 < config.reservePrice) (initialized : next.curator.isSome = true)
      (status : next.status = .fractionalized) (reserve : next.reservePrice = config.reservePrice)
      (auction : next.auction = state.auction) (ledger : next.ledger = state.ledger)
      (total : next.totalSupply = config.totalSupply) (proceeds : next.remainingProceeds = 0)
      (balances : next.balances = state.balances.set depositor config.totalSupply) :
      Effect contract state (.initializeVault curator depositor config) next
  | held (operation : Operation Address Nfts) (idle : operation.Idle)
      (allowances : FiniteMap (Address × Address) Allowance) (balances : FiniteMap Address Int)
      (nfts : Nfts) (running : state.curator = none → balances = state.balances)
      (redistributed : Redistributed state.balances balances) :
      Effect contract state operation { state with
        allowances
        balances
        nfts }
  | transferred (token source destination : Address) (amount : Int) (ledger : TokenLedger Address)
      (away : source ≠ contract)
      (moved : Moved [⟨token, source, destination, amount⟩] state.ledger ledger)
      (kept : ∀ read, state.ledger read contract ≤ ledger read contract) :
      Effect contract state (.transferTokens token source destination amount)
        { state with ledger }
  | started (bidder token : Address) (amount reserve : Int) (endTime : Nat)
      (ledger : TokenLedger Address) (initialized : state.curator.isSome = true)
      (status : state.status = .fractionalized) (paymentToken : state.paymentToken = some token)
      (price : state.reservePrice = some reserve) (enough : reserve ≤ amount)
      (moved : Moved (payments contract token state (.startAuction bidder amount))
        state.ledger ledger)
      (escrowed : amount ≤ ledger token contract) :
      Effect contract state (.startAuction bidder amount) { state with
        ledger
        auction := some { bidder, bid := amount, endTime }
        status := .auction }
  | outbid (bidder token : Address) (amount : Int) (current : AuctionInfo Address)
      (ledger : TokenLedger Address) (status : state.status = .auction)
      (paymentToken : state.paymentToken = some token) (auction : state.auction = some current)
      (higher : current.bid ≤ amount)
      (moved : Moved (payments contract token state (.bid bidder amount)) state.ledger ledger)
      (escrowed : state.ledger token contract + amount - current.bid ≤ ledger token contract) :
      Effect contract state (.bid bidder amount) { state with
        ledger
        auction := some { bidder, bid := amount, endTime := current.endTime } }
  | settled (current : AuctionInfo Address) (nfts : Nfts) (status : state.status = .auction)
      (auction : state.auction = some current) :
      Effect contract state .settle { state with
        status := .settled
        proceeds := some current.bid
        nfts }
  | claimed (holder token : Address) (amount : Int) (balances : FiniteMap Address Int)
      (ledger : TokenLedger Address) (status : state.status = .settled)
      (paymentToken : state.paymentToken = some token) (positive : 0 < amount)
      (part : amount ≤ state.balance holder)
      (burnt : (balances.total fun _ balance => balance) =
        (state.balances.total fun _ balance => balance) - amount)
      (nonneg : ∀ owner balance, balances.get owner = some balance → 0 ≤ balance)
      (moved : Moved (payments contract token state (.claim holder amount)) state.ledger ledger)
      (kept : state.ledger token contract - state.pot.worth amount ≤ ledger token contract) :
      Effect contract state (.claim holder amount) { state with
        balances
        ledger
        supply := some (state.pot.burn amount).shares
        proceeds := some (state.pot.burn amount).amount }

variable {state next : State Address Nfts} {env : VaultEnv Address contract}
  {tokens : TokenHost Address} {nftHost : NftHost Address Nfts}

theorem mulDiv_eq_ok {a b denominator result : Int} {roundUp : Bool} (aNonneg : 0 ≤ a)
    (bNonneg : 0 ≤ b) (pos : 0 < denominator) :
    mulDiv a b denominator roundUp = .ok result ↔
      result ≤ i128Max ∧
        (a * b + if roundUp then denominator - 1 else 0) / denominator = result := by
  have same : ∀ {value : Int}, 0 ≤ value → asU128 value = value := fun nonneg =>
    if_neg (not_lt.mpr nonneg)
  unfold mulDiv
  rw [same aNonneg, same bNonneg, same pos.le]
  simp only [call_ok, assertOrTrap_eq_ok, not_lt]
  cases roundUp with
  | false =>
    simp only [Bool.false_eq_true, ↓reduceIte, add_zero]
    constructor
    · rintro ⟨-, below, rfl⟩
      exact ⟨below, rfl⟩
    · rintro ⟨below, rfl⟩
      exact ⟨pos.ne', below, rfl⟩
  | true =>
    constructor
    · rintro ⟨-, below, rfl⟩
      exact ⟨below, rfl⟩
    · rintro ⟨below, rfl⟩
      exact ⟨pos.ne', below, rfl⟩

variable {amount : Int} {source destination : Address}

theorem transferPayment_eq_ok
    (paid : transferPayment tokens state source destination amount = .ok next) :
    ∃ token ledger, state.paymentToken = some token ∧ next = { state with ledger } ∧
      (tokens.pay state.ledger token source destination amount : Outcome Error _) = .ok ledger := by
  simp only [transferPayment, call_ok, orTrap_eq_ok] at paid
  obtain ⟨token, named, ledger, moved, rfl⟩ := paid
  exact ⟨token, ledger, named, rfl, moved⟩

theorem setBalance_total (owner : Address) (value : Int) :
    ((state.setBalance owner value).balances.total fun _ balance => balance) =
      (state.balances.total fun _ balance => balance) - state.balance owner + value := by
  unfold setBalance balance
  split
  · next zero =>
    rw [total_remove, zero, add_zero]
    cases state.balances.get owner <;> rfl
  · exact total_set_getD _ (fun _ balance => balance) owner value 0 rfl

theorem setBalance_nonneg {owner : Address} {value : Int}
    (nonneg : ∀ owner balance, state.balances.get owner = some balance → 0 ≤ balance)
    (valueNonneg : 0 ≤ value) (holder : Address) (balance : Int)
    (got : (state.setBalance owner value).balances.get holder = some balance) : 0 ≤ balance := by
  unfold setBalance at got
  split at got
  · exact forall_remove nonneg holder balance got
  · exact forall_set nonneg valueNonneg holder balance got

theorem balance_nonneg
    (nonneg : ∀ owner balance, state.balances.get owner = some balance → 0 ≤ balance)
    (owner : Address) : 0 ≤ state.balance owner := by
  unfold balance
  cases got : state.balances.get owner with
  | none => exact le_rfl
  | some balance => exact nonneg owner balance got

theorem moveBalance_next (moved : moveBalance source destination amount state = .ok next) :
    ∃ balances, next = { state with balances } ∧ Redistributed state.balances balances := by
  simp only [moveBalance, call_ok, arith_ok] at moved
  obtain ⟨pos, enough, -, -, rfl⟩ := moved
  let sent := state.setBalance source (state.balance source - amount)
  refine ⟨(sent.setBalance destination (sent.balance destination + amount)).balances, rfl, ?_,
    fun nonneg => ?_⟩
  · rw [setBalance_total, setBalance_total]
    ring
  · have left := @setBalance_nonneg _ _ _ state source _ nonneg (sub_nonneg.mpr (not_lt.mp enough))
    exact setBalance_nonneg left
      (add_nonneg (balance_nonneg left destination) (not_le.mp pos).le)

theorem held_of_moveBalance {operation : Operation Address Nfts} (idle : operation.Idle)
    {allowances : FiniteMap (Address × Address) Allowance}
    (initialized : state.curator.isSome = true)
    (moved : moveBalance source destination amount { state with allowances } = .ok next) :
    Effect contract state operation next := by
  obtain ⟨balances, rfl, redistributed⟩ := moveBalance_next moved
  refine .held operation idle allowances balances state.nfts (fun none => ?_) redistributed
  rw [none] at initialized
  cases initialized

theorem held_of_paid {source token : Address} {ledger : TokenLedger Address}
    (paid : (tokens.pay state.ledger token source contract amount : Outcome Error _) = .ok ledger)
    (away : source ≠ contract) :
    (ledger token contract : Int) = state.ledger token contract + amount := by
  rw [tokens.pay_credits paid away, if_pos rfl]

theorem startAuction_effect {bidder : Address}
    (ran : startAuction tokens env bidder amount state = .ok next) :
    Effect contract state (.startAuction bidder amount) next := by
  simp only [startAuction, requireInitialized, call_ok, orTrap_eq_ok, arith_ok] at ran
  obtain ⟨initialized, status, reserve, price, enough, signed, _, paid, _, -, -, rfl⟩ := ran
  obtain ⟨token, ledger, paymentToken, rfl, moved⟩ := transferPayment_eq_ok paid
  have credited := held_of_paid moved (env.ne_contract signed)
  refine .started bidder token amount reserve _ ledger initialized status paymentToken price
    (not_lt.mp enough) (tokens.pay_moved moved) ?_
  omega

theorem bid_effect {bidder : Address}
    (pos : ∀ auction, state.auction = some auction → 0 < auction.bid)
    (ran : bid tokens env bidder amount state = .ok next) :
    Effect contract state (.bid bidder amount) next := by
  simp only [bid, requireInitialized, call_ok, orTrap_eq_ok, arith_ok] at ran
  obtain ⟨_, status, current, auction, -, bps, -, increment, eq, -,
    _, signed, _, paid, _, refunded, rfl⟩ := ran
  obtain ⟨token, _, paymentToken, rfl, moved⟩ := transferPayment_eq_ok paid
  obtain ⟨same, final, named, rfl, returned⟩ := transferPayment_eq_ok refunded
  obtain rfl : token = same := mem_unique paymentToken named
  have bidPositive := pos current auction
  have incrementNonneg : 0 ≤ increment := by
    rw [mulDiv_eq_ok bidPositive.le (Int.natCast_nonneg bps) (by decide)] at eq
    obtain ⟨-, rfl⟩ := eq
    refine Int.ediv_nonneg (add_nonneg ?_ (by decide)) (by decide)
    exact mul_nonneg bidPositive.le (Int.natCast_nonneg bps)
  have credited := held_of_paid moved (env.ne_contract signed)
  have debited := tokens.pay_leaves returned token
  dsimp only at debited
  refine .outbid bidder token amount current final status paymentToken auction (by omega) ?_
    (by omega)
  have legs := (tokens.pay_moved moved).append (tokens.pay_moved returned)
  unfold payments standing
  rw [auction]
  exact legs

theorem payoutOf_eq_ok {amount supply proceeds payout : Int} (left : 0 ≤ proceeds)
    (pos : 0 < amount) (part : amount ≤ supply)
    (eq : payoutOf amount supply proceeds = .ok payout) :
    payout = ProRataPot.worth ⟨proceeds, supply⟩ amount := by
  unfold payoutOf at eq
  unfold ProRataPot.worth
  split at eq
  · next all =>
    rw [if_pos all]
    exact (pure_eq_ok.mp eq).symm
  · next some =>
    rw [if_neg some]
    rw [mulDiv_eq_ok pos.le left (pos.trans_le part)] at eq
    obtain ⟨-, rfl⟩ := eq
    rw [if_neg Bool.false_ne_true, add_zero]

variable {account : State Address Nfts × Dealings Address}

theorem Books.balance_le_totalSupply (books : Books contract account) (holder : Address) :
    account.1.balance holder ≤ account.1.totalSupply := by
  rw [← books.fractions]
  unfold balance
  cases got : account.1.balances.get holder with
  | none => exact total_nonneg books.balances
  | some balance =>
    exact @weight_le_total _ _ _ _ _ (fun _ balance => balance) books.balances _ got

theorem claim_effect {holder : Address} {amount payout : Int} {dealings : Dealings Address}
    (books : Books contract (state, dealings))
    (ran : claim tokens env holder amount state = .ok (payout, next)) :
    payout = state.pot.worth amount ∧ Effect contract state (.claim holder amount) next := by
  simp only [claim, requireInitialized, call_ok, orTrap_eq_ok, arith_ok] at ran
  obtain ⟨-, status, _, pos, enough, supply, issued, proceeds, kept, _, eq,
    -, -, -, -, _, paid, rfl, rfl⟩ := ran
  obtain ⟨token, ledger, paymentToken, rfl, moved⟩ := transferPayment_eq_ok paid
  have pot : state.pot = ⟨proceeds, supply⟩ := by
    unfold pot remainingProceeds totalSupply
    rw [issued, kept]
    rfl
  have owned := not_lt.mp enough
  have part : amount ≤ state.pot.shares := owned.trans (books.balance_le_totalSupply holder)
  have left : 0 ≤ state.pot.amount := books.left
  rw [pot] at part left
  have worth : payoutOf amount supply proceeds = .ok (state.pot.worth amount) := by
    rw [eq, pot, payoutOf_eq_ok left (not_le.mp pos) part eq]
  obtain rfl := Except.ok.inj (eq.symm.trans worth)
  have kept := tokens.pay_leaves moved token
  rw [if_pos rfl] at kept
  have burn : state.pot.burn amount = ⟨proceeds - state.pot.worth amount, supply - amount⟩ := by
    unfold ProRataPot.burn
    rw [pot]
  have claimed := @Effect.claimed Address Nfts _ contract state holder token amount
    (state.setBalance holder (state.balance holder - amount)).balances ledger status paymentToken
    (not_le.mp pos) owned
  rw [burn] at claimed
  refine ⟨rfl, claimed ?_ ?_ (tokens.pay_moved moved) kept⟩
  · rw [setBalance_total]
    ring
  · exact setBalance_nonneg books.balances (sub_nonneg.mpr owned)

theorem dispatch_effect {dealings : Dealings Address} {operation : Operation Address Nfts}
    (books : Books contract (state, dealings))
    (ran : dispatch tokens nftHost state (env, operation) = .ok next) :
    Effect contract state operation next := by
  cases operation with
  | initializeVault curator depositor config =>
    simp only [dispatch, initializeVault, call_ok, orTrap_eq_ok] at ran
    obtain ⟨fresh, valid, -, nfts, -, _, -, -, rfl⟩ := ran
    have none := isNone_iff_eq_none.mp (isSome_eq_false_iff.mp fresh)
    obtain ⟨supply, rest⟩ := not_or.mp valid
    obtain ⟨price, -⟩ := not_or.mp rest
    have pos := not_le.mp supply
    exact .opened curator depositor config _ none pos (not_le.mp price) rfl rfl rfl rfl rfl
      rfl rfl (if_neg pos.ne')
  | transfer =>
    simp only [dispatch, transfer, requireInitialized, call_ok] at ran
    obtain ⟨initialized, -, moved⟩ := ran
    exact held_of_moveBalance trivial initialized moved
  | approve source spender amount expirationLedger =>
    simp only [dispatch, approve, call_ok] at ran
    obtain ⟨-, -, -, -, -, -, rfl⟩ := ran
    exact .held (.approve source spender amount expirationLedger) trivial _ state.balances
      state.nfts (fun _ => rfl) ⟨rfl, id⟩
  | transferFrom =>
    simp only [dispatch, transferFrom, requireInitialized, call_ok, arith_ok] at ran
    obtain ⟨initialized, -, -, -, -, -, moved⟩ := ran
    exact held_of_moveBalance trivial initialized moved
  | startAuction => exact startAuction_effect ran
  | bid => exact bid_effect books.positive ran
  | settle =>
    simp only [dispatch, settle, call_ok, orTrap_eq_ok] at ran
    obtain ⟨-, -, status, current, auction, -, _, -, _, -, nfts, -, rfl⟩ := ran
    exact .settled current nfts status auction
  | claim =>
    obtain ⟨⟨_, _⟩, claimed, rfl⟩ := map_eq_ok.mp ran
    exact (claim_effect books claimed).2
  | transferTokens token source destination amount =>
    simp only [dispatch, payAs, call_ok] at ran
    obtain ⟨ledger, ⟨signed, moved⟩, rfl⟩ := ran
    have away := env.ne_contract signed
    refine .transferred token source destination amount ledger away (tokens.pay_moved moved) ?_
    intro read
    exact Int.ofNat_le.mp (tokens.pay_le moved away.symm read)
  | moveNfts nfts =>
    cases ran
    exact .held (.moveNfts nfts) trivial state.allowances state.balances nfts (fun _ => rfl)
      ⟨rfl, id⟩

variable {dealings : Dealings Address} {operation : Operation Address Nfts}

section

omit [DecidableEq Address]

theorem Operation.Idle.follow_eq (idle : operation.Idle) [DecidableEq Address]
    (env : VaultEnv Address contract) : follow state (env, operation) next dealings = dealings := by
  cases operation <;> first | rfl | exact idle.elim

theorem Operation.Idle.payments_eq (idle : operation.Idle) (token : Address) :
    payments contract token state operation = [] := by
  cases operation <;> first | rfl | exact idle.elim

end

theorem books_effect {env : VaultEnv Address contract} (books : Books contract (state, dealings))
    (effect : Effect contract state operation next) :
    Books contract (next, follow state (env, operation) next dealings) := by
  have fractions := books.fractions
  have phase := books.phase
  have left := books.left
  dsimp only at fractions phase left
  cases effect with
  | opened _ depositor _ _ fresh supply price initialized status reserve auction _ total proceeds
      balances =>
    obtain ⟨empty, unstarted⟩ := books.unopened fresh
    unfold PhaseHolds at phase
    rw [unstarted] at phase
    rw [empty] at balances
    refine ⟨⟨?_, ?_, ?_⟩, ?_, ?_, fun _ _ => ?_, ?_, ?_, proceeds.ge⟩
    · rw [balances, total, total_set_of_absent _ _ _ (get_empty depositor)]
      exact add_zero _
    · unfold standing
      rw [auction]
      exact books.refunded
    · unfold PhaseHolds
      rw [status]
      exact ⟨auction.trans phase.1, phase.2⟩
    · rw [balances]
      exact forall_set nofun supply.le
    · intro none
      rw [none] at initialized
      cases initialized
    · rw [total]
      exact supply
    · rw [reserve]
      rintro _ ⟨⟩
      exact price
    · rw [auction]
      exact books.positive
  | held _ idle _ _ _ running redistributed =>
    rw [idle.follow_eq]
    refine ⟨⟨?_, books.refunded, phase⟩, redistributed.nonneg books.balances, fun none => ?_,
      books.supplied, books.reserve, books.positive, left⟩
    · exact redistributed.total.trans fractions
    · obtain ⟨empty, unstarted⟩ := books.unopened none
      exact ⟨(running none).trans empty, unstarted⟩
  | transferred _ _ _ _ _ _ _ kept =>
    refine ⟨⟨fractions, books.refunded, ?_⟩, books.balances, books.unopened, books.supplied,
      books.reserve, books.positive, left⟩
    unfold PhaseHolds at phase ⊢
    cases status : state.status with
    | fractionalized =>
      rw [status] at phase
      exact phase
    | auction =>
      rw [status] at phase
      obtain ⟨payment, auction, named, current, escrowed, unclaimed⟩ := phase
      refine ⟨payment, auction, named, current, escrowed.trans ?_, unclaimed⟩
      exact Int.ofNat_le.mpr (kept payment)
    | settled =>
      rw [status] at phase
      obtain ⟨payment, auction, named, current, covered, rest⟩ := phase
      refine ⟨payment, auction, named, current, covered.trans ?_, rest⟩
      exact Int.ofNat_le.mpr (kept payment)
  | started bidder token amount reserve _ _ initialized status paymentToken price enough _ escrowed
      =>
    unfold PhaseHolds at phase
    rw [status] at phase
    refine ⟨⟨fractions, ?_, ?_⟩, books.balances, fun fresh => ?_, fun _ _ => ?_, books.reserve,
      ?_, left⟩
    · have refunded := books.refunded
      unfold standing at refunded
      rw [phase.1] at refunded
      change dealings.bids ++ [(bidder, amount)] = dealings.refunds ++ [(bidder, amount)]
      rw [refunded, toList_none, List.map_nil, List.append_nil]
    · exact ⟨token, _, paymentToken, rfl, escrowed, phase.2⟩
    · rw [show state.curator = none from fresh] at initialized
      cases initialized
    · exact books.supplied initialized (by rw [status]; nofun)
    · rintro _ ⟨⟩
      exact (books.reserve reserve price).trans_le enough
  | outbid bidder token amount current _ status paymentToken auction higher =>
    unfold PhaseHolds at phase
    rw [status] at phase
    obtain ⟨payment, escrow, named, standing, held, unclaimed⟩ := phase
    obtain rfl : token = payment := mem_unique paymentToken named
    obtain rfl : current = escrow := mem_unique auction standing
    refine ⟨⟨fractions, ?_, ?_⟩, books.balances, books.unopened, books.supplied, books.reserve,
      ?_, left⟩
    · exact congrArg (· ++ [(bidder, amount)]) books.refunded
    · rw [status]
      exact ⟨token, _, paymentToken, rfl, by dsimp only; omega, unclaimed⟩
    · rintro _ ⟨⟩
      exact (books.positive current auction).trans_le higher
  | settled current _ status auction =>
    have supply : 0 < state.totalSupply := by
      apply books.supplied
      · cases curator : state.curator with
        | none =>
          obtain ⟨-, unstarted⟩ := books.unopened curator
          cases status.symm.trans unstarted
        | some => rfl
      · rw [status]
        nofun
    have bidPositive := books.positive current auction
    unfold PhaseHolds at phase
    rw [status] at phase
    obtain ⟨token, escrow, named, standing, held, unclaimed⟩ := phase
    obtain rfl : current = escrow := mem_unique auction standing
    refine ⟨⟨fractions, books.refunded, ?_⟩, books.balances, fun fresh => ?_,
      fun _ unsettled => absurd rfl unsettled, books.reserve, books.positive, bidPositive.le⟩
    · refine ⟨token, current, named, auction, held, ?_, bidPositive.le, fun _ => bidPositive,
        fun none => ?_⟩
      · change dealings.claimed + current.bid = current.bid
        unfold Dealings.claimed
        rw [unclaimed, List.map_nil, List.sum_nil, zero_add]
      · exact absurd none supply.ne'
    · obtain ⟨-, unstarted⟩ := books.unopened fresh
      cases status.symm.trans unstarted
  | claimed holder token amount _ _ status paymentToken pos part burnt nonneg _ kept =>
    have most : amount ≤ state.pot.shares := part.trans (books.balance_le_totalSupply holder)
    have shares : 0 < state.pot.shares := pos.trans_le most
    unfold PhaseHolds at phase
    rw [status] at phase
    obtain ⟨payment, auction, named, standing, covered, paid, -, funded, -⟩ := phase
    obtain rfl : token = payment := mem_unique paymentToken named
    have amountPositive : 0 < state.pot.amount := funded shares
    have worth := ProRataPot.worth_le amountPositive shares most
    refine ⟨⟨?_, books.refunded, ?_⟩, nonneg, fun fresh => ?_, fun _ unsettled => ?_,
      books.reserve, books.positive, sub_nonneg.mpr worth⟩
    · exact burnt.trans (congrArg (· - amount) fractions)
    · rw [status]
      refine ⟨token, auction, paymentToken, standing, ?_, ?_, sub_nonneg.mpr worth,
        fun rest => ?_, fun none => ?_⟩
      · exact (sub_le_sub_right covered _).trans kept
      · change Dealings.claimed { dealings with
          claims := dealings.claims ++ [(holder, state.pot.worth amount)] } +
            (state.pot.amount - state.pot.worth amount) = auction.bid
        unfold Dealings.claimed at paid ⊢
        rw [List.map_append, List.sum_append, List.map_singleton, List.sum_singleton, ← paid]
        change _ = _ + state.pot.amount
        ring
      · exact sub_pos.mpr (ProRataPot.worth_lt amountPositive shares (sub_pos.mp rest))
      · have all : amount = state.pot.shares := (sub_eq_zero.mp none).symm
        change state.pot.amount - state.pot.worth amount = 0
        rw [show state.pot.worth amount = state.pot.amount from if_pos all, sub_self]
    · obtain ⟨-, unstarted⟩ := books.unopened fresh
      cases status.symm.trans unstarted
    · exact absurd status unsettled

/-- After the settlement a share of the proceeds is never worth less. -/
structure Undiluted (pot : ProRataPot) (state : State Address Nfts) : Prop where
  status : state.status = .settled
  worth : pot.Undiluted state.pot
  burnt : state.pot.shares ≤ pot.shares

theorem undiluted_effect {pot : ProRataPot} (books : Books contract (state, dealings))
    (shares : 0 ≤ pot.shares) (undiluted : Undiluted pot state)
    (effect : Effect contract state operation next) : Undiluted pot next := by
  obtain ⟨settled, worth, fewer⟩ := undiluted
  cases effect with
  | opened _ _ _ _ fresh =>
    obtain ⟨-, unstarted⟩ := books.unopened fresh
    cases settled.symm.trans unstarted
  | held =>
    exact ⟨settled, worth, fewer⟩
  | transferred =>
    exact ⟨settled, worth, fewer⟩
  | started _ _ _ _ _ _ _ status =>
    cases settled.symm.trans status
  | outbid _ _ _ _ _ status => cases settled.symm.trans status
  | settled _ _ status => cases settled.symm.trans status
  | claimed holder _ amount _ _ _ _ pos part =>
    have most : amount ≤ state.pot.shares := part.trans (books.balance_le_totalSupply holder)
    have some : 0 < state.pot.shares := pos.trans_le most
    refine ⟨settled, ?_, (sub_le_self _ pos.le).trans fewer⟩
    exact worth.trans some shares (sub_nonneg.mpr most) (ProRataPot.undiluted_burn some amount)

theorem Books.totalSupply_nonneg (books : Books contract account) : 0 ≤ account.1.totalSupply := by
  rw [← books.fractions]
  exact total_nonneg books.balances

variable (tokens : TokenHost Address) (nftHost : NftHost Address Nfts)

/-- The vault beside whose state its dealings are recorded. -/
def accounts (contract : Address) :
    CallMachine (State Address Nfts × Dealings Address)
      (VaultEnv Address contract × Operation Address Nfts) (Failure Error) :=
  (machine tokens nftHost contract).withGhost follow

variable {tokens nftHost}

theorem books_empty (ledger : TokenLedger Address) (nfts : Nfts) :
    Books contract ({ ledger, nfts }, {}) where
  fractions := rfl
  refunded := rfl
  phase := ⟨rfl, rfl⟩
  balances := nofun
  unopened _ := ⟨rfl, rfl⟩
  supplied := nofun
  reserve := nofun
  positive := nofun
  left := le_rfl

theorem books_step (account : State Address Nfts × Dealings Address)
    (call : VaultEnv Address contract × Operation Address Nfts)
    (next : State Address Nfts × Dealings Address) (books : Books contract account)
    (ran : (accounts tokens nftHost contract).exec account call = .ok next) : Books contract next :=
  withGhost_step ran fun _ done => books_effect books (dispatch_effect books done)

variable (tokens nftHost)

def vaultAfter (ledger : TokenLedger Address) (nfts : Nfts)
    (calls : List (VaultEnv Address contract × Operation Address Nfts)) : State Address Nfts :=
  (machine tokens nftHost contract).run { ledger, nfts } calls

variable {tokens nftHost}

theorem exists_books (ledger : TokenLedger Address) (nfts : Nfts)
    (calls : List (VaultEnv Address contract × Operation Address Nfts)) :
    ∃ dealings, Books contract (vaultAfter tokens nftHost ledger nfts calls, dealings) := by
  have books : Books contract
      ((accounts tokens nftHost contract).run ({ ledger, nfts }, {}) calls) :=
    run_invariant books_step (books_empty ledger nfts) calls
  have same : ((accounts tokens nftHost contract).run ({ ledger, nfts }, {}) calls).1 =
      vaultAfter tokens nftHost ledger nfts calls :=
    withGhost_run_fst _ calls
  rw [← same]
  exact ⟨_, books⟩

theorem undiluted_run {state : State Address Nfts} {dealings : Dealings Address}
    (books : Books contract (state, dealings)) (settled : state.status = .settled)
    (calls : List (VaultEnv Address contract × Operation Address Nfts)) :
    Undiluted state.pot ((machine tokens nftHost contract).run state calls) := by
  have initial : Books contract (state, dealings) ∧ Undiluted state.pot state :=
    ⟨books, settled, ProRataPot.Undiluted.refl _, le_rfl⟩
  have both : Books contract ((accounts tokens nftHost contract).run (state, dealings) calls) ∧
      Undiluted state.pot ((accounts tokens nftHost contract).run (state, dealings) calls).1 := by
    have step : ∀ (middle : State Address Nfts × Dealings Address)
        (call : VaultEnv Address contract × Operation Address Nfts)
        (next : State Address Nfts × Dealings Address),
        Books contract middle ∧ Undiluted state.pot middle.1 →
        (accounts tokens nftHost contract).exec middle call = .ok next →
        Books contract next ∧ Undiluted state.pot next.1 := by
      rintro middle call next ⟨booksMiddle, undiluted⟩ ran
      refine ⟨books_step middle call next booksMiddle ran, ?_⟩
      obtain ⟨dispatched, -⟩ := withGhost_exec_eq_ok.mp ran
      exact undiluted_effect booksMiddle books.totalSupply_nonneg undiluted
        (dispatch_effect booksMiddle dispatched)
    exact run_invariant step initial calls
  have same : ((accounts tokens nftHost contract).run (state, dealings) calls).1 =
      (machine tokens nftHost contract).run state calls := withGhost_run_fst _ calls
  rw [← same]
  exact both.2

theorem payments_moved {state next : State Address Nfts} {operation : Operation Address Nfts}
    {token : Address} (named : state.paymentToken = some token)
    (effect : Effect contract state operation next) :
    Moved (payments contract token state operation) state.ledger next.ledger := by
  have still : Moved [] state.ledger state.ledger := moved_nil state.ledger
  cases effect with
  | opened _ _ _ _ _ _ _ _ _ _ _ ledger =>
    rw [ledger]
    exact still
  | held _ idle =>
    rw [idle.payments_eq]
    exact still
  | transferred _ _ _ _ _ _ moved => exact moved
  | started _ _ _ _ _ _ _ _ paymentToken _ _ moved =>
    cases named.symm.trans paymentToken
    exact moved
  | outbid _ _ _ _ _ _ paymentToken _ _ moved =>
    cases named.symm.trans paymentToken
    exact moved
  | settled => exact still
  | claimed _ _ _ _ _ _ paymentToken _ _ _ _ moved =>
    cases named.symm.trans paymentToken
    exact moved

theorem worth_le_worth {state : State Address Nfts} {dealings : Dealings Address} {amount : Int}
    {calls : List (VaultEnv Address contract × Operation Address Nfts)}
    (books : Books contract (state, dealings)) (settled : state.status = .settled)
    (pos : 0 < amount)
    (part : amount ≤ ((machine tokens nftHost contract).run state calls).totalSupply) :
    state.pot.worth amount ≤
      ((machine tokens nftHost contract).run state calls).pot.worth amount := by
  have undiluted : Undiluted state.pot ((machine tokens nftHost contract).run state calls) :=
    undiluted_run books settled calls
  have later : 0 < ((machine tokens nftHost contract).run state calls).pot.shares :=
    pos.trans_le part
  exact ProRataPot.worth_mono undiluted.worth (later.trans_le undiluted.burnt) later pos.le

variable (tokens nftHost)

/-- In every run the books of the vault hold, its calls make no other payments, and a number of
fractions is never worth less than it was after the settlement. -/
theorem buyout_holds (ledger : TokenLedger Address) (nfts : Nfts)
    (calls : List (VaultEnv Address contract × Operation Address Nfts)) :
    (accounts tokens nftHost contract).Always (BuyoutHolds contract) ({ ledger, nfts }, {}) calls ∧
    (∀ before call after next token, calls = before ++ call :: after →
      let state := vaultAfter tokens nftHost ledger nfts before
      (machine tokens nftHost contract).exec state call = .ok next →
      state.paymentToken = some token →
      Moved (payments contract token state call.2) state.ledger next.ledger) ∧
    ∀ before middle after amount, calls = before ++ middle ++ after →
      let earlier := vaultAfter tokens nftHost ledger nfts before
      let later := vaultAfter tokens nftHost ledger nfts (before ++ middle)
      earlier.status = .settled → 0 < amount → amount ≤ later.totalSupply →
      earlier.pot.worth amount ≤ later.pot.worth amount ∧ earlier.pot.Undiluted later.pot := by
  refine ⟨?_, ?_, ?_⟩
  · have always : (accounts tokens nftHost contract).Always (Books contract)
        ({ ledger, nfts }, {}) calls :=
      always_invariant books_step (books_empty ledger nfts) calls
    exact always.mono fun account books => books.toBuyoutHolds
  · intro before call after next token _ state ran named
    obtain ⟨dealings, books⟩ : ∃ dealings, Books contract
        (vaultAfter tokens nftHost ledger nfts before, dealings) := exists_books ledger nfts before
    exact payments_moved named (dispatch_effect books ran)
  · intro before middle after amount _ earlier later settled pos part
    obtain ⟨dealings, books⟩ : ∃ dealings, Books contract
        (vaultAfter tokens nftHost ledger nfts before, dealings) := exists_books ledger nfts before
    have appended : later = (machine tokens nftHost contract).run earlier middle :=
      (machine tokens nftHost contract).run_append _ before middle
    rw [appended] at part ⊢
    exact ⟨worth_le_worth books settled pos part, (undiluted_run books settled middle).worth⟩

end SorobanPlayground.NftFractional
