import SorobanPlayground.Library.QuotedMarket
import SorobanPlayground.NftAmm.Contract

/-! # Round trips through an NFT pool

A pool quotes one price for both sides: it sells an NFT at the spot price and the
fees and then raises the spot price, and it buys an NFT at the spot price less the
fees and then lowers it. Whoever trades against the same pool is an account at that
quoted market. Its trades earn nothing over any round trip when each trade that
opens or widens the trader's position has no edge; a first trade is undone at a
profit exactly when it has one.
-/

namespace SorobanPlayground.NftAmm

open QuotedMarket.Account

variable {Address : Type} {contract : Address}

/-- How far a trade moves a price along the curve. -/
def Pool.curveStep (pool : Pool Address) (price : Int) : Int :=
  match pool.curve with
  | .linear => pool.delta
  | .exponential => (price * pool.delta).tdiv bpsDenom

/-- The market that a pool makes. -/
def Pool.quotes (pool : Pool Address) (protocolFeeBps : Int) : QuotedMarket Int Int where
  up price := price + pool.curveStep price
  down price := atLeastOne (price - pool.curveStep price)
  cost price :=
    price + (price * pool.feeBps).tdiv bpsDenom + (price * protocolFeeBps).tdiv bpsDenom
  payout price :=
    price - (price * pool.feeBps).tdiv bpsDenom - (price * protocolFeeBps).tdiv bpsDenom

variable {pool : Pool Address} {price shareBps share fee protocolFee spotPrice : Int}

theorem shareOf_eq (eq : shareOf price shareBps = .ok share) :
    share = (price * shareBps).tdiv bpsDenom := by
  simp only [shareOf, bind_eq_ok, arith_ok] at eq
  obtain ⟨-, -, -, rfl⟩ := eq
  rfl

theorem tradeFees_eq {state : State Address} (eq : tradeFees pool state = .ok (fee, protocolFee)) :
    fee = (pool.spotPrice * pool.feeBps).tdiv bpsDenom ∧
      protocolFee = (pool.spotPrice * state.protocolFeeBps).tdiv bpsDenom := by
  simp only [tradeFees, call_ok] at eq
  obtain ⟨_, poolShare, _, protocolShare, rfl, rfl⟩ := eq
  exact ⟨shareOf_eq poolShare, shareOf_eq protocolShare⟩

theorem nextPriceUp_eq (eq : nextPriceUp pool = .ok spotPrice) :
    spotPrice = (pool.quotes protocolFee).up pool.spotPrice := by
  unfold nextPriceUp at eq
  unfold Pool.quotes Pool.curveStep
  cases curve : pool.curve with
  | linear =>
    rw [curve] at eq
    exact (checkedAdd_eq_ok.mp eq).2.symm
  | exponential =>
    rw [curve] at eq
    simp only [bind_eq_ok, arith_ok] at eq
    obtain ⟨_, increase, -, rfl⟩ := eq
    rw [shareOf_eq increase]

theorem nextPriceDown_eq (eq : nextPriceDown pool = .ok spotPrice) :
    spotPrice = (pool.quotes protocolFee).down pool.spotPrice := by
  unfold nextPriceDown at eq
  unfold Pool.quotes Pool.curveStep
  cases curve : pool.curve with
  | linear =>
    rw [curve] at eq
    simp only [call_ok, arith_ok] at eq
    obtain ⟨-, rfl⟩ := eq
    rfl
  | exponential =>
    rw [curve] at eq
    simp only [call_ok, arith_ok] at eq
    obtain ⟨_, decrease, -, rfl⟩ := eq
    rw [shareOf_eq decrease]

/-- A pool keeps what its trades are quoted and settled by. -/
structure SameTerms (pool later : Pool Address) : Prop where
  id : later.id = pool.id
  nftCollection : later.nftCollection = pool.nftCollection
  paymentToken : later.paymentToken = pool.paymentToken
  curve : later.curve = pool.curve
  delta : later.delta = pool.delta
  feeBps : later.feeBps = pool.feeBps

theorem SameTerms.trans {pool later last : Pool Address} (first : SameTerms pool later)
    (second : SameTerms later last) : SameTerms pool last where
  id := second.id.trans first.id
  nftCollection := second.nftCollection.trans first.nftCollection
  paymentToken := second.paymentToken.trans first.paymentToken
  curve := second.curve.trans first.curve
  delta := second.delta.trans first.delta
  feeBps := second.feeBps.trans first.feeBps

theorem SameTerms.quotes {pool later : Pool Address} (same : SameTerms pool later)
    (protocolFeeBps : Int) : later.quotes protocolFeeBps = pool.quotes protocolFeeBps := by
  unfold Pool.quotes Pool.curveStep
  rw [same.curve, same.delta, same.feeBps]

variable [DecidableEq Address] {tokens : TokenHost Address} {env : Env Address contract}

/-- What a trade changes: the pool moves to a new spot price on the same terms, and
the balances move by the given legs. -/
structure Traded (state next : State Address) (poolId : Nat) (pool later : Pool Address)
    (spotPrice : Int) (legs : List (Leg Address)) : Prop where
  stored : state.pools.get poolId = some pool
  written : next.pools = state.pools.set pool.id later
  terms : SameTerms pool later
  spotPrice : later.spotPrice = spotPrice
  protocolFeeBps : next.protocolFeeBps = state.protocolFeeBps
  moved : Moved legs state.ledger next.ledger

/-- A buyer pays the quoted cost for one unit of the collection. -/
abbrev Bought (contract buyer : Address) (state next : State Address) (poolId : Nat)
    (pool later : Pool Address) : Prop :=
  Traded state next poolId pool later ((pool.quotes state.protocolFeeBps).up pool.spotPrice)
    [⟨pool.paymentToken, buyer, contract, (pool.quotes state.protocolFeeBps).cost pool.spotPrice⟩,
      ⟨pool.nftCollection, contract, buyer, 1⟩]

/-- A seller gives one unit of the collection for the quoted payout. -/
abbrev Sold (contract seller : Address) (state next : State Address) (poolId : Nat)
    (pool later : Pool Address) : Prop :=
  Traded state next poolId pool later ((pool.quotes state.protocolFeeBps).down pool.spotPrice)
    [⟨pool.nftCollection, seller, contract, 1⟩,
      ⟨pool.paymentToken, contract, seller,
        (pool.quotes state.protocolFeeBps).payout pool.spotPrice⟩]

variable {state next : State Address} {poolId nftId : Nat} {buyer seller : Address}

theorem buyNft_traded {maxPrice price : Int}
    (ran : buyNft tokens env buyer poolId maxPrice state = .ok ((nftId, price), next)) :
    buyer ≠ contract ∧ ∃ pool later, Bought contract buyer state next poolId pool later := by
  simp only [buyNft, State.getPool, call_ok, arith_ok, Prod.exists] at ran
  obtain ⟨_, -, _, -, signed, pool, got, _, -, -, -, _, _, fees, -,
    -, -, _, -, -, -, -, -, _, up, _, paid, _, received, -, rfl⟩ := ran
  obtain ⟨rfl, rfl⟩ := tradeFees_eq fees
  refine ⟨env.ne_contract signed, pool, _, got, rfl, ⟨rfl, rfl, rfl, rfl, rfl, rfl⟩, ?_,
    rfl, ?_⟩
  · exact nextPriceUp_eq up
  · exact (pay_moved paid).append (pay_moved received)

theorem sellNft_traded {minPrice price : Int}
    (ran : sellNft tokens env seller poolId nftId minPrice state = .ok (price, next)) :
    seller ≠ contract ∧ ∃ pool later, Sold contract seller state next poolId pool later := by
  simp only [sellNft, State.getPool, call_ok, arith_ok, Prod.exists] at ran
  obtain ⟨_, -, _, -, signed, pool, got, _, -, -, _, _, fees, -, -, -, -, -,
    -, -, -, -, -, _, down, _, given, _, paid, -, rfl⟩ := ran
  obtain ⟨rfl, rfl⟩ := tradeFees_eq fees
  refine ⟨env.ne_contract signed, pool, _, got, rfl, ⟨rfl, rfl, rfl, rfl, rfl, rfl⟩, ?_,
    rfl, ?_⟩
  · exact nextPriceDown_eq down
  · exact (pay_moved given).append (pay_moved paid)

/-- The trader and the pool of a call that buys or sells. -/
def Operation.trade : Operation Address → Option (Address × Nat)
  | .buyNft buyer poolId _ => some (buyer, poolId)
  | .sellNft seller poolId _ _ => some (seller, poolId)
  | _ => none

variable {start state next : State Address} {poolId : Nat} {pool later : Pool Address}
  {trader : Address}

/-- How many units of the pool's collection a trader has gained since a state. -/
def position (start state : State Address) (trader : Address) (pool : Pool Address) : Int :=
  state.ledger pool.nftCollection trader - start.ledger pool.nftCollection trader

/-- A trader against a pool as an account at the quoted market. -/
def account (start state : State Address) (trader : Address) (pool : Pool Address) :
    QuotedMarket.Account Int Int where
  money := state.ledger pool.paymentToken trader
  position := position start state trader pool
  market := pool.spotPrice

theorem Traded.found {spotPrice : Int} {legs : List (Leg Address)}
    (traded : Traded state next poolId pool later spotPrice legs) (own : pool.id = poolId) :
    next.pools.get poolId = some later := by
  rw [traded.written, own, get_set_self]

theorem balance_buy (traded : Bought contract trader state next poolId pool later)
    (signed : trader ≠ contract) (token : Address) :
    (next.ledger token trader : Int) = state.ledger token trader -
      (if token = pool.paymentToken then
        (pool.quotes state.protocolFeeBps).cost pool.spotPrice else 0) +
      (if token = pool.nftCollection then 1 else 0) := by
  have moved := traded.moved token trader
  simp only [movedBy_cons, movedBy_nil, transferDelta_in signed.symm, transferDelta_out
    signed.symm] at moved
  omega

theorem balance_sell (traded : Sold contract trader state next poolId pool later)
    (signed : trader ≠ contract) (token : Address) :
    (next.ledger token trader : Int) = state.ledger token trader +
      (if token = pool.paymentToken then
        (pool.quotes state.protocolFeeBps).payout pool.spotPrice else 0) -
      (if token = pool.nftCollection then 1 else 0) := by
  have moved := traded.moved token trader
  simp only [movedBy_cons, movedBy_nil, transferDelta_in signed.symm, transferDelta_out
    signed.symm] at moved
  omega

theorem account_buy (traded : Bought contract trader state next poolId pool later)
    (signed : trader ≠ contract) (ne : pool.nftCollection ≠ pool.paymentToken) :
    account start next trader later =
      (account start state trader pool).buy (pool.quotes state.protocolFeeBps) := by
  have payment := balance_buy traded signed pool.paymentToken
  have collection := balance_buy traded signed pool.nftCollection
  rw [if_pos rfl, if_neg ne.symm] at payment
  rw [if_pos rfl, if_neg ne] at collection
  simp only [account, position, buy, traded.terms.paymentToken,
    traded.terms.nftCollection, traded.spotPrice, mk.injEq]
  refine ⟨?_, ?_, trivial⟩
  · omega
  · omega

theorem account_sell (traded : Sold contract trader state next poolId pool later)
    (signed : trader ≠ contract) (ne : pool.nftCollection ≠ pool.paymentToken) :
    account start next trader later =
      (account start state trader pool).sell (pool.quotes state.protocolFeeBps) := by
  have payment := balance_sell traded signed pool.paymentToken
  have collection := balance_sell traded signed pool.nftCollection
  rw [if_pos rfl, if_neg ne.symm] at payment
  rw [if_pos rfl, if_neg ne] at collection
  simp only [account, position, sell, traded.terms.paymentToken,
    traded.terms.nftCollection, traded.spotPrice, mk.injEq]
  refine ⟨?_, ?_, trivial⟩
  · omega
  · omega

def StoredUnderId (state : State Address) : Prop :=
  ∀ id pool, state.pools.get id = some pool → pool.id = id

variable {state next : State Address} {poolId : Nat} {owner : Address} {pool : Pool Address}

theorem depositNft_pools {entry : Nat × Nat}
    (ran : depositNft tokens contract owner pool state entry = .ok next) :
    next.pools = state.pools := by
  simp only [depositNft, call_ok] at ran
  obtain ⟨_, -, _, -, rfl⟩ := ran
  rfl

theorem withdrawNft_pools {index : Nat}
    (ran : withdrawNft tokens contract owner pool state index = .ok next) :
    next.pools = state.pools := by
  simp only [withdrawNft, call_ok] at ran
  obtain ⟨_, -, rfl⟩ := ran
  rfl

variable {call : Env Address contract × Operation Address}

theorem dispatch_pools (ran : dispatch tokens state call = .ok next) :
    next.pools = state.pools ∨ ∃ pool, next.pools = state.pools.set pool.id pool := by
  obtain ⟨_, op⟩ := call
  cases op with
  | createPool =>
    obtain ⟨⟨id, left⟩, created, rfl⟩ := map_eq_ok.mp ran
    simp only [createPool, call_ok] at created
    obtain ⟨_, -, _, -, _, -, _, -, _, -, _, -, _, -, _, -, rfl, rfl⟩ := created
    exact .inr ⟨_, rfl⟩
  | depositTokens =>
    simp only [dispatch, depositTokens, call_ok] at ran
    obtain ⟨_, -, _, -, _, -, _, -, _, -, _, -, _, -, _, -, _, -, _, -, rfl⟩ := ran
    exact .inr ⟨_, rfl⟩
  | depositNfts =>
    simp only [dispatch, depositNfts, bind_eq_ok, pure_eq_ok] at ran
    obtain ⟨_, -, _, -, _, -, _, -, pool, -, _, -, _, -, _, -, _, rounds, nftCount,
      -, rfl⟩ := ran
    have same := foldlM_invariant (fun reached => reached.pools = state.pools)
      (fun before entry after _ kept round => (depositNft_pools round).trans kept) rfl rounds
    refine .inr ⟨{ pool with nftCount }, ?_⟩
    rw [← same]
    rfl
  | buyNft =>
    obtain ⟨⟨_, left⟩, bought, rfl⟩ := map_eq_ok.mp ran
    obtain ⟨-, pool, later, traded⟩ := buyNft_traded bought
    exact .inr ⟨later, traded.terms.id ▸ traded.written⟩
  | sellNft =>
    obtain ⟨⟨_, left⟩, sold, rfl⟩ := map_eq_ok.mp ran
    obtain ⟨-, pool, later, traded⟩ := sellNft_traded sold
    exact .inr ⟨later, traded.terms.id ▸ traded.written⟩
  | withdrawTokens =>
    simp only [dispatch, withdrawTokens, call_ok] at ran
    obtain ⟨_, -, _, -, _, -, _, -, _, -, _, -, _, -, rfl⟩ := ran
    exact .inr ⟨_, rfl⟩
  | withdrawNfts _ _ count =>
    simp only [dispatch, withdrawNfts, call_ok] at ran
    obtain ⟨-, _, -, pool, -, -, _, -, _, rounds, rfl⟩ := ran
    have same := foldlM_invariant (fun reached => reached.pools = state.pools)
      (fun before entry after _ kept round => (withdrawNft_pools round).trans kept) rfl rounds
    refine .inr ⟨{ pool with nftCount := pool.nftCount - count }, ?_⟩
    rw [← same]
    rfl
  | deactivatePool =>
    simp only [dispatch, deactivatePool, call_ok] at ran
    obtain ⟨_, -, _, -, _, -, _, -, rfl⟩ := ran
    exact .inr ⟨_, rfl⟩
  | updatePoolParams =>
    simp only [dispatch, updatePoolParams, call_ok] at ran
    obtain ⟨_, -, _, -, _, -, _, -, _, -, _, -, _, -, _, -, rfl⟩ := ran
    exact .inr ⟨_, rfl⟩
  | _ =>
    left
    apply Outcome.Yields.of_ok ran
    simp only [dispatch, initializeAmm, setPaused, collectProtocolFees, setProtocolFee, yields_bind,
      yields_pure, yields_true, State.setProtocolFeeBalance, State.withLedger]

theorem dispatch_storedUnderId (got : StoredUnderId state)
    (ran : dispatch tokens state call = .ok next) : StoredUnderId next := by
  unfold StoredUnderId
  rcases dispatch_pools ran with same | ⟨pool, wrote⟩
  · rw [same]
    exact got
  · have own : (fun id (entry : Pool Address) => entry.id = id) pool.id pool := rfl
    rw [wrote]
    exact forall_set got own

theorem storedUnderId_of_reachable {ledger : TokenLedger Address}
    (reached : (machine tokens contract).Reachable { ledger } state) : StoredUnderId state := by
  obtain ⟨calls, rfl⟩ := reached
  have keeps : ∀ (state : State Address) call next, StoredUnderId state →
      (machine tokens contract).exec state call = .ok next → StoredUnderId next :=
    fun state call next got ran => dispatch_storedUnderId got ran
  have initial : StoredUnderId ({ ledger } : State Address) := nofun
  exact run_invariant keeps initial calls

/-- A trade that opens or widens the trader's position since a state, long by buying
or short by selling, has no edge for the trader. -/
def OpensFairly (start : State Address) (trader : Address) (poolId : Nat) (state : State Address)
    (call : Env Address contract × Operation Address) : Prop :=
  ∀ pool, state.pools.get poolId = some pool →
    match call.2 with
    | .buyNft .. => 0 ≤ position start state trader pool →
        (pool.quotes state.protocolFeeBps).buyEdge (position start state trader pool)
          pool.spotPrice ≤ 0
    | .sellNft .. => position start state trader pool ≤ 0 →
        (pool.quotes state.protocolFeeBps).sellEdge (position start state trader pool)
          pool.spotPrice ≤ 0
    | _ => True

/-- The pool is on its first terms and the trader's account there is worth no more
than it was. -/
structure Level (start : State Address) (trader : Address) (poolId : Nat) (first : Pool Address)
    (state : State Address) (pool : Pool Address) : Prop where
  stored : state.pools.get poolId = some pool
  terms : SameTerms first pool
  protocolFeeBps : state.protocolFeeBps = start.protocolFeeBps
  worth : first.nftCollection ≠ first.paymentToken →
    (account start state trader pool).worth (first.quotes start.protocolFeeBps) ≤
      (account start start trader first).worth (first.quotes start.protocolFeeBps)

theorem dispatch_level {start : State Address} {trader : Address} {first : Pool Address}
    (level : Level start trader poolId first state pool) (own : first.id = poolId)
    (trades : call.2.trade = some (trader, poolId))
    (fair : OpensFairly start trader poolId state call)
    (ran : dispatch tokens state call = .ok next) :
    ∃ later, Level start trader poolId first next later := by
  have opens := fair pool level.stored
  rw [level.terms.quotes, level.protocolFeeBps] at opens
  obtain ⟨_, op⟩ := call
  cases op with
  | buyNft =>
    cases trades
    obtain ⟨_, bought, rfl⟩ := map_eq_ok.mp ran
    obtain ⟨signed, found, later, traded⟩ := buyNft_traded bought
    obtain rfl := Option.mem_unique level.stored traded.stored
    refine ⟨later, traded.found (level.terms.id.trans own), level.terms.trans traded.terms,
      traded.protocolFeeBps.trans level.protocolFeeBps, fun ne => ?_⟩
    have differs : pool.nftCollection ≠ pool.paymentToken := by
      rwa [level.terms.nftCollection, level.terms.paymentToken]
    rw [account_buy traded signed differs, level.terms.quotes, level.protocolFeeBps]
    exact (worth_buy_le opens).trans (level.worth ne)
  | sellNft =>
    cases trades
    obtain ⟨_, sold, rfl⟩ := map_eq_ok.mp ran
    obtain ⟨signed, found, later, traded⟩ := sellNft_traded sold
    obtain rfl := Option.mem_unique level.stored traded.stored
    refine ⟨later, traded.found (level.terms.id.trans own), level.terms.trans traded.terms,
      traded.protocolFeeBps.trans level.protocolFeeBps, fun ne => ?_⟩
    have differs : pool.nftCollection ≠ pool.paymentToken := by
      rwa [level.terms.nftCollection, level.terms.paymentToken]
    rw [account_sell traded signed differs, level.terms.quotes, level.protocolFeeBps]
    exact (worth_sell_le opens).trans (level.worth ne)
  | _ => exact nomatch trades

/-- A level trader who holds as many NFTs as at the start holds no more of the
payment token. -/
theorem Level.unprofitable {start : State Address} {trader : Address} {first : Pool Address}
    (level : Level start trader poolId first state pool)
    (balanced : state.ledger first.nftCollection trader = start.ledger first.nftCollection trader) :
    state.ledger first.paymentToken trader ≤ start.ledger first.paymentToken trader := by
  by_cases same : first.nftCollection = first.paymentToken
  · rw [← same]
    exact balanced.le
  · have flat : (account start state trader pool).position = 0 := by
      unfold account position
      rw [level.terms.nftCollection, balanced, Int.sub_self]
    have startFlat : (account start start trader first).position = 0 := Int.sub_self _
    have bound := money_le_of_flat (level.worth same) flat startFlat
    unfold account at bound
    rw [level.terms.paymentToken] at bound
    exact Int.ofNat_le.mp bound

/-- One of the calls buys and the other sells. -/
def Opposite (first second : Operation Address) : Prop :=
  match first, second with
  | .buyNft .., .sellNft .. => True
  | .sellNft .., .buyNft .. => True
  | _, _ => False

variable {maxPrice minPrice payout : Int}

theorem undone_buy {start middle finish : State Address} {env laterEnv : Env Address contract}
    {trader : Address} {bought : Nat × Int} {nftId : Nat}
    (got : start.pools.get poolId = some pool) (own : pool.id = poolId)
    (opened : buyNft tokens env trader poolId maxPrice start = .ok (bought, middle))
    (closed : sellNft tokens laterEnv trader poolId nftId minPrice middle = .ok (payout, finish)) :
    (finish.ledger pool.paymentToken trader : Int) = start.ledger pool.paymentToken trader +
      (pool.quotes start.protocolFeeBps).buyEdge 0 pool.spotPrice := by
  obtain ⟨signed, _, _, buying⟩ := buyNft_traded opened
  obtain rfl := Option.mem_unique got buying.stored
  obtain ⟨-, _, _, selling⟩ := sellNft_traded closed
  obtain rfl := Option.some.inj ((buying.found own).symm.trans selling.stored)
  have spent := balance_buy buying signed pool.paymentToken
  have received := balance_sell selling signed pool.paymentToken
  rw [buying.terms.paymentToken, buying.terms.nftCollection, buying.terms.quotes,
    buying.protocolFeeBps, buying.spotPrice] at received
  rw [QuotedMarket.buyEdge_zero]
  simp only [↓reduceIte] at spent received
  omega

theorem undone_sale {start middle finish : State Address} {env laterEnv : Env Address contract}
    {trader : Address} {bought : Nat × Int} {nftId : Nat}
    (got : start.pools.get poolId = some pool) (own : pool.id = poolId)
    (opened : sellNft tokens env trader poolId nftId minPrice start = .ok (payout, middle))
    (closed : buyNft tokens laterEnv trader poolId maxPrice middle = .ok (bought, finish)) :
    (finish.ledger pool.paymentToken trader : Int) = start.ledger pool.paymentToken trader +
      (pool.quotes start.protocolFeeBps).sellEdge 0 pool.spotPrice := by
  obtain ⟨signed, _, _, selling⟩ := sellNft_traded opened
  obtain rfl := Option.mem_unique got selling.stored
  obtain ⟨-, _, _, buying⟩ := buyNft_traded closed
  obtain rfl := Option.some.inj ((selling.found own).symm.trans buying.stored)
  have received := balance_sell selling signed pool.paymentToken
  have spent := balance_buy buying signed pool.paymentToken
  rw [selling.terms.paymentToken, selling.terms.nftCollection, selling.terms.quotes,
    selling.protocolFeeBps, selling.spotPrice] at spent
  rw [QuotedMarket.sellEdge_zero]
  simp only [↓reduceIte] at spent received
  omega

theorem undone_trade_unprofitable_iff {start middle finish : State Address} {trader : Address}
    {first second : Env Address contract × Operation Address}
    (got : start.pools.get poolId = some pool) (own : pool.id = poolId)
    (firstTrades : first.2.trade = some (trader, poolId))
    (secondTrades : second.2.trade = some (trader, poolId)) (opposite : Opposite first.2 second.2)
    (opened : dispatch tokens start first = .ok middle)
    (closed : dispatch tokens middle second = .ok finish) :
    finish.ledger pool.paymentToken trader ≤ start.ledger pool.paymentToken trader ↔
      OpensFairly start trader poolId start first := by
  have flat : position start start trader pool = 0 := Int.sub_self _
  have only : OpensFairly start trader poolId start first ↔ _ :=
    ⟨fun opens => opens pool got, fun opens other found =>
      Option.mem_unique got found ▸ opens⟩
  rw [only, flat]
  obtain ⟨_, op⟩ := first
  obtain ⟨_, undoing⟩ := second
  cases op with
  | buyNft =>
    cases undoing with
    | sellNft =>
      cases firstTrades
      cases secondTrades
      obtain ⟨_, bought, rfl⟩ := map_eq_ok.mp opened
      obtain ⟨_, sold, rfl⟩ := map_eq_ok.mp closed
      have gained := undone_buy got own bought sold
      constructor <;> intro bound
      · omega
      · omega
    | _ => exact opposite.elim
  | sellNft =>
    cases undoing with
    | buyNft =>
      cases firstTrades
      cases secondTrades
      obtain ⟨_, sold, rfl⟩ := map_eq_ok.mp opened
      obtain ⟨_, bought, rfl⟩ := map_eq_ok.mp closed
      have gained := undone_sale got own sold bought
      constructor <;> intro bound
      · omega
      · omega
    | _ => exact opposite.elim
  | _ => exact nomatch firstTrades

/-- Let a trader buy from and sell to one pool, with no other calls in between. When
no trade that opens or widens the position has an edge, then whenever the trader
holds as many NFTs as at the start, the payment token balance is no higher than at
the start. A first trade that is undone at once earns nothing exactly when it has no
edge. -/
theorem trades_unprofitable_of_fair {ledger : TokenLedger Address} {start : State Address}
    {trader : Address} {trades : List (Env Address contract × Operation Address)}
    (reached : (machine tokens contract).Reachable { ledger } start)
    (stored : start.pools.get poolId = some pool)
    (trading : ∀ call ∈ trades, call.2.trade = some (trader, poolId)) :
    ((machine tokens contract).Meets (OpensFairly start trader poolId) start trades →
      (machine tokens contract).Always (fun state =>
        state.ledger pool.nftCollection trader = start.ledger pool.nftCollection trader →
          state.ledger pool.paymentToken trader ≤ start.ledger pool.paymentToken trader)
        start trades) ∧
    ∀ first second middle finish, trades = [first, second] → Opposite first.2 second.2 →
      (machine tokens contract).exec start first = .ok middle →
      (machine tokens contract).exec middle second = .ok finish →
      (finish.ledger pool.paymentToken trader ≤ start.ledger pool.paymentToken trader ↔
        OpensFairly start trader poolId start first) := by
  have own := storedUnderId_of_reachable reached poolId pool stored
  constructor
  · intro fair
    have level : Level start trader poolId pool start pool :=
      ⟨stored, ⟨rfl, rfl, rfl, rfl, rfl, rfl⟩, rfl, fun _ => le_rfl⟩
    have keeps : ∀ (state : State Address) call next,
        (∃ current, Level start trader poolId pool state current) →
        call.2.trade = some (trader, poolId) ∧ OpensFairly start trader poolId state call →
        (machine tokens contract).exec state call = .ok next →
        ∃ later, Level start trader poolId pool next later := by
      rintro state call _ ⟨_, held⟩ ⟨trades, opens⟩ ran
      exact dispatch_level held own trades opens ran
    have throughout := always_of_meets keeps ⟨pool, level⟩
      ((meets_of_mem (fun call mem _ => trading call mem) start).and fair)
    exact throughout.mono fun state ⟨_, held⟩ => held.unprofitable
  · rintro first second _ _ rfl opposite opened closed
    exact undone_trade_unprofitable_iff stored own (trading first (by simp))
      (trading second (by simp)) opposite opened closed

/-- The addresses 1, 2 and 3 authorize. -/
def signedEnv : Env Nat 0 where
  timestamp := 0
  auths := [1, 2, 3]
  contract_silent := zero_notMem_three_signers

/-- Owner 2 holds payment token 11 and two NFTs of collection 10, trader 3 holds
payment token. -/
def fundedLedger : TokenLedger Nat := fun token holder =>
  match token, holder with
  | 10, 2 => 2
  | 11, 2 => 10000000
  | 11, 3 => 2000000
  | _, _ => 0

/-- Trader 3 may trade in a linear pool with a given fee. -/
def openedPool (feeBps : Int) : List (Env Nat 0 × Operation Nat) :=
  [(signedEnv, .initializeAmm 1 none),
    (signedEnv, .createPool 2 10 11 .linear .trade 1000000 50000 feeBps),
    (signedEnv, .depositTokens 2 1 10000000), (signedEnv, .depositNfts 2 1 [10, 11])]

/-- Trader 3 buys an NFT and sells it again. -/
def roundTrip : List (Env Nat 0 × Operation Nat) :=
  [(signedEnv, .buyNft 3 1 2000000), (signedEnv, .sellNft 3 1 11 1)]

/-- The state that a list of calls leaves from the funded balances. -/
def stateAfter (calls : List (Env Nat 0 × Operation Nat)) : State Nat :=
  (machine standardHost 0).run { ledger := fundedLedger } calls

/-- What the two trades do in a pool with a fee of five percent: the round trip costs
the trader 62750. -/
theorem trades_unprofitable_of_fair_at_high_fee :
    (machine standardHost 0).Always (fun state => state.ledger 10 3 = 0 →
      state.ledger 11 3 ≤ 2000000) (stateAfter (openedPool 500)) roundTrip := by
  have got : (stateAfter (openedPool 500)).pools.get 1 = some
      { id := 1, owner := 2, nftCollection := 10, paymentToken := 11, curve := .linear,
        poolType := .trade, spotPrice := 1000000, delta := 50000, feeBps := 500, nftCount := 2,
        tokenBalance := 10000000, totalVolume := 0, tradeCount := 0, active := true } := rfl
  have fair : (machine standardHost 0).Meets (OpensFairly (stateAfter (openedPool 500)) 3 1)
      (stateAfter (openedPool 500)) roundTrip := by
    refine ⟨fun _ pool found => ?_, fun _ pool found => ?_, trivial⟩
    · cases got.symm.trans found
      decide
    · cases found
      intro short
      exact absurd short (by decide)
  exact (trades_unprofitable_of_fair ⟨openedPool 500, rfl⟩ got (by decide)).1 fair

/-- A trader buys an NFT for 1015000 and sells it at once for 1034250 to a two-sided
pool that charges one percent. -/
theorem bought_nft_sells_at_profit :
    (stateAfter (openedPool 100)).pools.get 1 = some
      { id := 1, owner := 2, nftCollection := 10, paymentToken := 11, curve := .linear,
        poolType := .trade, spotPrice := 1000000, delta := 50000, feeBps := 100, nftCount := 2,
        tokenBalance := 10000000, totalVolume := 0, tradeCount := 0, active := true } ∧
    (∀ call ∈ roundTrip, call.2.trade = some (3, 1)) ∧
    ¬ (machine standardHost 0).Always (fun state => state.ledger 10 3 = 0 →
      state.ledger 11 3 ≤ 2000000) (stateAfter (openedPool 100)) roundTrip := by
  refine ⟨rfl, by decide, fun always => ?_⟩
  have held : ((machine standardHost 0).run (stateAfter (openedPool 100)) roundTrip).ledger 10 3 =
      0 := rfl
  have paid : ((machine standardHost 0).run (stateAfter (openedPool 100)) roundTrip).ledger 11 3 =
      2019250 := rfl
  have bounded := always.final held
  omega

end SorobanPlayground.NftAmm
