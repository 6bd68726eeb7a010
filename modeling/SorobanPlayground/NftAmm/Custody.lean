import SorobanPlayground.Library.SlotStack
import SorobanPlayground.NftAmm.RoundTrips

/-! # What the NFT market maker keeps for its pools

The slots of a pool are a stack of NFTs, and its token balance and spot price keep their
sign in every run. What backs them is shared: protocol fees of all tokens are counted in
one balance, which is collected in a token of the admin's choice, and a protocol fee may
be negative. The surplus of a token, held beyond what the pools have of it, moves with
the protocol fees and their collections only.
-/

namespace SorobanPlayground.NftAmm

open State

variable {Address : Type} {contract : Address}

/-- A pool as it is kept under an id. -/
structure Pool.Sound (id : Nat) (pool : Pool Address) : Prop where
  own : pool.id = id
  fee : 0 ≤ pool.feeBps
  delta : 0 ≤ pool.delta
  spotPrice : 0 < pool.spotPrice
  tokenBalance : 0 ≤ pool.tokenBalance

/-- How many NFTs a pool counts. -/
def State.nftCount (state : State Address) (id : Nat) : Nat :=
  ((state.pools.get id).map Pool.nftCount).getD 0

/-- The pools are sound and numbered up to the pool count, and their NFTs are stacked in
slots. -/
structure Kept (state : State Address) : Prop where
  pools : ∀ id pool, state.pools.get id = some pool → pool.Sound id
  numbered : ∀ id pool, state.pools.get id = some pool → id ≤ state.poolCount
  slots : ∀ id, state.poolNfts.Stacked id (state.nftCount id)
  started : state.admin = none → state.pools = ∅

variable {state next : State Address} {id : Nat} {pool later : Pool Address}

theorem nftCount_eq (got : state.pools.get id = some pool) : state.nftCount id = pool.nftCount := by
  unfold nftCount
  rw [got]
  rfl

theorem Kept.of_same (kept : Kept state) (pools : next.pools = state.pools)
    (poolNfts : next.poolNfts = state.poolNfts) (poolCount : next.poolCount = state.poolCount)
    (started : next.admin = none → state.admin = none) : Kept next := by
  refine ⟨?_, ?_, fun id => ?_, fun missing => pools.trans (kept.started (started missing))⟩
  · rw [pools]
    exact kept.pools
  · rw [pools, poolCount]
    exact kept.numbered
  · unfold nftCount
    rw [pools, poolNfts]
    exact kept.slots id

theorem Kept.write (kept : Kept state) (sound : later.Sound id) (numbered : id ≤ next.poolCount)
    (grown : state.poolCount ≤ next.poolCount) (wrote : next.pools = state.pools.set id later)
    (own : next.poolNfts.Stacked id later.nftCount)
    (others : ∀ other count, other ≠ id → state.poolNfts.Stacked other count →
      next.poolNfts.Stacked other count) (initialised : next.admin ≠ none) : Kept next := by
  refine ⟨?_, ?_, fun other => ?_, fun missing => absurd missing initialised⟩
  · rw [wrote]
    exact forall_set kept.pools sound
  · rw [wrote]
    intro other pool got
    by_cases same : other = id
    · subst same
      exact numbered
    · rw [get_set_of_ne _ _ same] at got
      exact (kept.numbered other pool got).trans grown
  · unfold nftCount
    rw [wrote, get_set]
    by_cases same : other = id
    · subst same
      rw [if_pos rfl]
      exact own
    · rw [if_neg same]
      exact others other _ same (kept.slots other)

variable [DecidableEq Address] {tokens : TokenHost Address} {env : Env Address contract}

/-- What a pool has of a token, an NFT being a unit of its collection. -/
def Pool.reserves (pool : Pool Address) (token : Address) : Int :=
  (if token = pool.paymentToken then pool.tokenBalance else 0) +
    (if token = pool.nftCollection then (pool.nftCount : Int) else 0)

/-- What the contract holds of a token beyond what its pools have. -/
def State.surplus (contract : Address) (state : State Address) (token : Address) : Int :=
  state.ledger token contract - state.pools.total fun _ pool => pool.reserves token

/-- A call keeps the pools and adds to the surplus of one token. -/
structure Keeps (contract : Address) (state next : State Address) (token : Address)
    (amount : Int) : Prop where
  kept : Kept next
  surplus : ∀ read, next.surplus contract read =
    state.surplus contract read + if read = token then amount else 0

variable {token : Address}

theorem surplus_of_same (pools : next.pools = state.pools) :
    next.surplus contract token = state.surplus contract token +
      ((next.ledger token contract : Int) - state.ledger token contract) := by
  unfold State.surplus
  rw [pools]
  omega

theorem surplus_of_write (got : state.pools.get id = some pool)
    (wrote : next.pools = state.pools.set id later) :
    next.surplus contract token = state.surplus contract token +
      ((next.ledger token contract : Int) - state.ledger token contract) -
      (later.reserves token - pool.reserves token) := by
  unfold State.surplus
  rw [wrote, total_set_of_stored _ got]
  omega

/-- What moving NFTs between an owner and a pool changes. -/
structure Restocked (contract : Address) (state next : State Address) (id : Nat)
    (collection : Address) (count : Nat) (received : Int) : Prop where
  admin : next.admin = state.admin
  poolCount : next.poolCount = state.poolCount
  pools : next.pools = state.pools
  own : next.poolNfts.Stacked id count
  others : ∀ other height, other ≠ id → state.poolNfts.Stacked other height →
    next.poolNfts.Stacked other height
  received : ∀ token, (next.ledger token contract : Int) =
    state.ledger token contract + if token = collection then received else 0

variable {owner : Address} {count : Nat}

omit [DecidableEq Address] in
theorem Restocked.refl [DecidableEq Address] {id : Nat} {collection : Address}
    (own : state.poolNfts.Stacked id count) :
    Restocked contract state state id collection count 0 :=
  ⟨rfl, rfl, rfl, own, fun _ _ _ stacked => stacked, fun token => by rw [ite_self, add_zero]⟩

theorem Restocked.trans {middle : State Address} {id between count : Nat} {collection : Address}
    {first second : Int} (before : Restocked contract state middle id collection between first)
    (after : Restocked contract middle next id collection count second) :
    Restocked contract state next id collection count (first + second) where
  admin := after.admin.trans before.admin
  poolCount := after.poolCount.trans before.poolCount
  pools := after.pools.trans before.pools
  own := after.own
  others := fun other height ne stacked =>
    after.others other height ne (before.others other height ne stacked)
  received := by
    intro token
    rw [after.received, before.received]
    split_ifs <;> omega

section

variable (ne : owner ≠ contract)
include ne

theorem depositNft_restocked {nftId index : Nat}
    (stacked : state.poolNfts.Stacked pool.id (pool.nftCount + index))
    (ran : depositNft tokens contract owner pool state (nftId, index) = .ok next) :
    Restocked contract state next pool.id pool.nftCollection (pool.nftCount + index + 1) 1 := by
  simp only [depositNft, call_ok, arith_ok] at ran
  obtain ⟨_, paid, -, rfl⟩ := ran
  refine ⟨rfl, rfl, rfl, stacked.push nftId, fun other height apart kept => ?_, ?_⟩
  · exact kept.set_other apart nftId
  · exact pay_credits paid ne

theorem depositNfts_restocked {nftIds : List Nat} {start : Nat}
    (stacked : state.poolNfts.Stacked pool.id (pool.nftCount + start))
    (ran : (nftIds.zipIdx start).foldlM (depositNft tokens contract owner pool) state = .ok next) :
    Restocked contract state next pool.id pool.nftCollection
      (pool.nftCount + start + nftIds.length) nftIds.length := by
  induction nftIds generalizing state start with
  | nil =>
    cases ran
    exact Restocked.refl stacked
  | cons nftId nftIds ih =>
    obtain ⟨_, first, rest⟩ := bind_eq_ok.mp ran
    have before := depositNft_restocked ne stacked first
    have after := before.trans (ih before.own rest)
    have count : pool.nftCount + start + (nftId :: nftIds).length =
        pool.nftCount + (start + 1) + nftIds.length := by
      rw [List.length_cons]
      omega
    have received : ((nftId :: nftIds).length : Int) = 1 + nftIds.length := by
      omega
    rw [count, received]
    exact after

theorem withdrawNft_restocked {index height : Nat} (last : pool.nftCount - 1 - index = height)
    (stacked : state.poolNfts.Stacked pool.id (height + 1))
    (ran : withdrawNft tokens contract owner pool state index = .ok next) :
    Restocked contract state next pool.id pool.nftCollection height (-1) := by
  simp only [withdrawNft, call_ok] at ran
  obtain ⟨_, paid, rfl⟩ := ran
  rw [last]
  refine ⟨rfl, rfl, rfl, stacked.pop, fun other height apart kept => ?_, fun token => ?_⟩
  · exact kept.remove_other apart
  · have spent := pay_debits paid ne.symm token
    split_ifs at spent ⊢ <;> exact spent

theorem withdrawNfts_restocked (enough : count ≤ pool.nftCount)
    (stacked : state.poolNfts.Stacked pool.id pool.nftCount)
    (ran : (List.range count).foldlM (withdrawNft tokens contract owner pool) state = .ok next) :
    Restocked contract state next pool.id pool.nftCollection (pool.nftCount - count) (-count) := by
  induction count generalizing next with
  | zero =>
    cases ran
    exact Restocked.refl stacked
  | succ count ih =>
    rw [List.range_succ, List.foldlM_append] at ran
    obtain ⟨_, first, last⟩ := bind_eq_ok.mp ran
    obtain ⟨_, round, done⟩ := bind_eq_ok.mp last
    cases done
    have before := ih (by omega) first
    have height : pool.nftCount - (count + 1) + 1 = pool.nftCount - count := by omega
    have after := withdrawNft_restocked ne (by omega) (height ▸ before.own) round
    have received : -((count + 1 : Nat) : Int) = -count + -1 := by omega
    rw [received]
    exact before.trans after

end

variable {poolId : Nat} {amount : Int}

/-- A call that writes one pool and its slots adds what it receives beyond the growth of
the pool's reserves. -/
theorem Keeps.of_write {pool later : Pool Address} {id : Nat} {token : Address} (kept : Kept state)
    (initialised : state.admin.isSome = true) (got : state.pools.get id = some pool)
    (sound : later.Sound id) (wrote : next.pools = state.pools.set id later)
    (own : next.poolNfts.Stacked id later.nftCount)
    (others : ∀ other count, other ≠ id → state.poolNfts.Stacked other count →
      next.poolNfts.Stacked other count)
    (same : next.admin = state.admin ∧ next.poolCount = state.poolCount)
    (received : ∀ read, (next.ledger read contract : Int) = state.ledger read contract +
      (later.reserves read - pool.reserves read) + if read = token then amount else 0) :
    Keeps contract state next token amount := by
  obtain ⟨admin, poolCount⟩ := same
  have remains : next.admin ≠ none := by
    rw [admin]
    exact Option.isSome_iff_ne_none.mp initialised
  refine ⟨kept.write sound ?_ poolCount.ge wrote own others remains, fun read => ?_⟩
  · rw [poolCount]
    exact kept.numbered id pool got
  · rw [surplus_of_write got wrote, received]
    omega

theorem Keeps.neutral (kept : Kept next)
    (surplus : ∀ token, next.surplus contract token = state.surplus contract token) :
    Keeps contract state next contract 0 :=
  ⟨kept, fun read => by rw [surplus, ite_self, add_zero]⟩

theorem depositTokens_keeps (kept : Kept state)
    (ran : depositTokens tokens env owner poolId amount state = .ok next) :
    Keeps contract state next contract 0 := by
  simp only [depositTokens, ensureInitialized, getPool, call_ok, arith_ok] at ran
  obtain ⟨initialised, _, -, signed, pos, pool, got, _, -, _, -, -, _, paid, -, rfl⟩ := ran
  have sound := kept.pools poolId pool got
  obtain rfl := sound.own
  have credited := pay_credits paid (env.ne_contract signed)
  have later : Pool.Sound pool.id { pool with tokenBalance := pool.tokenBalance + amount } :=
    { sound with tokenBalance := add_nonneg sound.tokenBalance pos.le }
  refine Keeps.of_write kept initialised got later rfl ?_ (fun _ _ _ stacked => stacked)
    ⟨rfl, rfl⟩ ?_
  · exact nftCount_eq got ▸ kept.slots pool.id
  · intro token
    unfold Pool.reserves
    dsimp only [withLedger, setPool]
    rw [credited]
    split_ifs <;> omega

theorem withdrawTokens_keeps (kept : Kept state)
    (ran : withdrawTokens tokens env owner poolId amount state = .ok next) :
    Keeps contract state next contract 0 := by
  simp only [withdrawTokens, ensureInitialized, getPool, call_ok, arith_ok] at ran
  obtain ⟨initialised, signed, pool, got, _, -, _, -, _, paid,
    rfl⟩ := ran
  have sound := kept.pools poolId pool got
  obtain rfl := sound.own
  have debited := pay_debits paid (env.ne_contract signed).symm
  have left : 0 ≤ pool.tokenBalance - amount := by omega
  have later : Pool.Sound pool.id { pool with tokenBalance := pool.tokenBalance - amount } :=
    { sound with tokenBalance := left }
  refine Keeps.of_write kept initialised got later rfl ?_ (fun _ _ _ stacked => stacked)
    ⟨rfl, rfl⟩ ?_
  · exact nftCount_eq got ▸ kept.slots pool.id
  · intro token
    unfold Pool.reserves
    dsimp only [withLedger, setPool]
    rw [debited]
    split_ifs <;> omega

theorem depositNfts_keeps {nftIds : List Nat} (kept : Kept state)
    (ran : depositNfts tokens env owner poolId nftIds state = .ok next) :
    Keeps contract state next contract 0 := by
  simp only [depositNfts, ensureInitialized, getPool, call_ok, arith_ok] at ran
  obtain ⟨initialised, _, -, signed, -, pool, got, _, -, _, -, -, _, rounds, -, rfl⟩ := ran
  have sound := kept.pools poolId pool got
  obtain rfl := sound.own
  have stacked : state.poolNfts.Stacked pool.id (pool.nftCount + 0) :=
    nftCount_eq got ▸ kept.slots pool.id
  have restocked := depositNfts_restocked (env.ne_contract signed) stacked rounds
  have later : Pool.Sound pool.id { pool with nftCount := pool.nftCount + nftIds.length } :=
    { sound with }
  refine Keeps.of_write kept initialised got later ?_ restocked.own restocked.others
    ⟨restocked.admin, restocked.poolCount⟩ ?_
  · rw [← restocked.pools]
    rfl
  · intro token
    unfold Pool.reserves
    dsimp only [setPool]
    rw [restocked.received]
    split_ifs <;> omega

theorem withdrawNfts_keeps (kept : Kept state)
    (ran : withdrawNfts tokens env owner poolId count state = .ok next) :
    Keeps contract state next contract 0 := by
  simp only [withdrawNfts, ensureInitialized, getPool, call_ok] at ran
  obtain ⟨initialised, signed, pool, got, _, -, _, _, rounds,
    rfl⟩ := ran
  have sound := kept.pools poolId pool got
  obtain rfl := sound.own
  have stacked : state.poolNfts.Stacked pool.id pool.nftCount :=
    nftCount_eq got ▸ kept.slots pool.id
  have restocked := withdrawNfts_restocked (env.ne_contract signed) (by omega) stacked rounds
  have later : Pool.Sound pool.id { pool with nftCount := pool.nftCount - count } :=
    { sound with }
  refine Keeps.of_write kept initialised got later ?_ restocked.own restocked.others
    ⟨restocked.admin, restocked.poolCount⟩ ?_
  · rw [← restocked.pools]
    rfl
  · intro token
    unfold Pool.reserves
    dsimp only [setPool]
    rw [restocked.received]
    split_ifs <;> omega

variable {nftId : Nat} {buyer seller : Address} {spotPrice price : Int}

section

omit [DecidableEq Address]

theorem share_nonneg {amount shareBps : Int} (pos : 0 < amount) (nonneg : 0 ≤ shareBps) :
    0 ≤ (amount * shareBps).tdiv bpsDenom :=
  Int.tdiv_nonneg (mul_nonneg pos.le nonneg) (by decide)

theorem nextPriceUp_pos (sound : pool.Sound poolId) (eq : nextPriceUp pool = .ok spotPrice) :
    0 < spotPrice := by
  have up : spotPrice = (pool.quotes 0).up pool.spotPrice := nextPriceUp_eq eq
  have step : 0 ≤ pool.curveStep pool.spotPrice := by
    unfold Pool.curveStep
    split
    · exact sound.delta
    · exact share_nonneg sound.spotPrice sound.delta
  rw [up]
  exact add_pos_of_pos_of_nonneg sound.spotPrice step

theorem nextPriceDown_pos (eq : nextPriceDown pool = .ok spotPrice) : 0 < spotPrice := by
  have down : spotPrice = (pool.quotes 0).down pool.spotPrice := nextPriceDown_eq eq
  rw [down]
  unfold Pool.quotes atLeastOne
  dsimp only
  split_ifs with pos
  · exact pos
  · exact zero_lt_one

end

theorem buyNft_keeps {maxPrice : Int} (kept : Kept state)
    (ran : buyNft tokens env buyer poolId maxPrice state = .ok ((nftId, price), next)) :
    ∃ pool, state.pools.get poolId = some pool ∧
      Keeps contract state next pool.paymentToken
        ((pool.spotPrice * state.protocolFeeBps).tdiv bpsDenom) := by
  simp only [buyNft, ensureInitialized, getPool, call_ok, arith_ok,
    Prod.exists] at ran
  obtain ⟨initialised, _, -, signed, pool, got, _, -, -, _, fee, _, fees, -, -, -, _,
    -, -, -, -, -, spotPrice, up, _, paid, _, given, -, rfl⟩ := ran
  obtain ⟨rfl, rfl⟩ := tradeFees_eq fees
  refine ⟨pool, got, ?_⟩
  have sound := kept.pools poolId pool got
  obtain rfl := sound.own
  have buyerApart := env.ne_contract signed
  have credited := pay_credits paid buyerApart
  have debited := pay_debits given buyerApart.symm
  have feeNonneg := share_nonneg sound.spotPrice sound.fee
  have earned : 0 ≤ pool.tokenBalance +
      (pool.spotPrice + (pool.spotPrice * pool.feeBps).tdiv bpsDenom) :=
    add_nonneg sound.tokenBalance (add_nonneg sound.spotPrice.le feeNonneg)
  have height : pool.nftCount = pool.nftCount - 1 + 1 := by omega
  have stacked : state.poolNfts.Stacked pool.id (pool.nftCount - 1 + 1) := by
    rw [← height]
    exact nftCount_eq got ▸ kept.slots pool.id
  refine Keeps.of_write kept initialised got ?_ rfl stacked.pop
    (fun other count apart kept => kept.remove_other apart) ⟨rfl, rfl⟩ ?_
  · exact ⟨rfl, sound.fee, sound.delta, nextPriceUp_pos sound up, earned⟩
  · intro token
    unfold Pool.reserves
    dsimp only [withLedger, setPool, setProtocolFeeBalance, removePoolNft]
    rw [debited, credited]
    split_ifs <;> omega

theorem sellNft_keeps {minPrice : Int} (kept : Kept state)
    (ran : sellNft tokens env seller poolId nftId minPrice state = .ok (price, next)) :
    ∃ pool, state.pools.get poolId = some pool ∧
      Keeps contract state next pool.paymentToken
        ((pool.spotPrice * state.protocolFeeBps).tdiv bpsDenom) := by
  simp only [sellNft, ensureInitialized, getPool, call_ok, arith_ok,
    Prod.exists] at ran
  obtain ⟨initialised, _, -, signed, pool, got, _, -, -, fee, _, fees, -, -, -,
    -, covered, -, -, -, -, -, _, down, _, taken, _, paid, -, rfl⟩ := ran
  obtain ⟨rfl, rfl⟩ := tradeFees_eq fees
  refine ⟨pool, got, ?_⟩
  have sound := kept.pools poolId pool got
  obtain rfl := sound.own
  have sellerApart := env.ne_contract signed
  have credited := pay_credits taken sellerApart
  have debited := pay_debits paid sellerApart.symm
  have left := sub_nonneg.mpr covered
  have stacked : state.poolNfts.Stacked pool.id pool.nftCount :=
    nftCount_eq got ▸ kept.slots pool.id
  refine Keeps.of_write kept initialised got ?_ rfl (stacked.push nftId)
    (fun other count apart kept => kept.set_other apart nftId) ⟨rfl, rfl⟩ ?_
  · exact ⟨rfl, sound.fee, sound.delta, nextPriceDown_pos down, left⟩
  · intro token
    unfold Pool.reserves
    dsimp only [withLedger, setPool, setProtocolFeeBalance, setPoolNft]
    rw [debited, credited]
    split_ifs <;> omega

variable {admin : Address}

section

variable (kept : Kept state)
include kept

theorem initializeAmm_keeps {protocolFeeBps : Option Int}
    (ran : initializeAmm env admin protocolFeeBps state = .ok next) :
    Keeps contract state next contract 0 := by
  simp only [initializeAmm, call_ok] at ran
  obtain ⟨gone, _, -, -, rfl⟩ := ran
  rw [Option.isSome_eq_false_iff, Option.isNone_iff_eq_none] at gone
  have empty := kept.started gone
  refine Keeps.neutral ⟨kept.pools, fun id pool got => ?_, kept.slots, by simp⟩ fun _ => rfl
  rw [empty] at got
  cases got

theorem createPool_keeps {nftCollection paymentToken : Address} {curve : CurveType}
    {poolType : PoolType} {spotPrice delta feeBps : Int} {id : Nat} (ran :
      createPool env owner nftCollection paymentToken curve poolType spotPrice delta feeBps
        state = .ok (id, next)) : Keeps contract state next contract 0 := by
  simp only [createPool, ensureInitialized, call_ok, inUnsigned_eq_ok] at ran
  obtain ⟨initialised, -, _, -, priced, stepped, _, -, id, ⟨-, _⟩, rfl, rfl⟩ := ran
  have gone : state.pools.get id = none := by
    by_contra here
    obtain ⟨pool, got⟩ := Option.ne_none_iff_exists'.mp here
    have numbered := kept.numbered id pool got
    omega
  have count : state.nftCount id = 0 := by
    unfold nftCount
    rw [gone]
    rfl
  have fee : 0 ≤ feeBps := by omega
  apply Keeps.neutral
  · refine kept.write ⟨rfl, fee, stepped, priced, le_rfl⟩ le_rfl ?_ rfl ?_
      (fun _ _ _ stacked => stacked) (Option.isSome_iff_ne_none.mp initialised)
    · dsimp only [setPool]
      omega
    · exact count ▸ kept.slots id
  · intro token
    unfold State.surplus
    dsimp only [setPool]
    rw [total_set_of_absent _ _ _ gone]
    unfold Pool.reserves
    simp

theorem keeps_of_settings {pool later : Pool Address} {id : Nat}
    (initialised : state.admin.isSome = true) (got : state.pools.get id = some pool)
    (sound : later.Sound id) (nftCount : later.nftCount = pool.nftCount)
    (reserves : later.reserves = pool.reserves) :
    Keeps contract state { state with pools := state.pools.set id later } contract 0 := by
  refine Keeps.of_write kept initialised got sound rfl ?_ (fun _ _ _ stacked => stacked)
    ⟨rfl, rfl⟩ fun token => ?_
  · rw [nftCount]
    exact nftCount_eq got ▸ kept.slots id
  · rw [reserves, sub_self, ite_self, add_zero, add_zero]

theorem deactivatePool_keeps {poolId : Nat}
    (ran : deactivatePool env owner poolId state = .ok next) :
    Keeps contract state next contract 0 := by
  simp only [deactivatePool, ensureInitialized, getPool, call_ok] at ran
  obtain ⟨initialised, -, pool, got, _, -, rfl⟩ := ran
  have sound := kept.pools poolId pool got
  obtain rfl := sound.own
  have later : Pool.Sound pool.id { pool with active := false } := { sound with }
  exact keeps_of_settings kept initialised got later rfl rfl

theorem updatePoolParams_keeps {poolId : Nat} {newSpotPrice newDelta : Int}
    (ran : updatePoolParams env owner poolId newSpotPrice newDelta state = .ok next) :
    Keeps contract state next contract 0 := by
  simp only [updatePoolParams, ensureInitialized, getPool, call_ok] at ran
  obtain ⟨initialised, -, _, -, pool, got, _, -, _, -, priced, stepped, rfl⟩ := ran
  have sound := kept.pools poolId pool got
  obtain rfl := sound.own
  have later : Pool.Sound pool.id { pool with spotPrice := newSpotPrice, delta := newDelta } :=
    { sound with spotPrice := priced, delta := stepped }
  exact keeps_of_settings kept initialised got later rfl rfl

end

theorem keeps_of_payment {token : Address} (kept : Kept next) (pools : next.pools = state.pools)
    (received : ∀ read, (next.ledger read contract : Int) = state.ledger read contract +
      if read = token then amount else 0) : Keeps contract state next token amount := by
  refine ⟨kept, fun read => ?_⟩
  rw [surplus_of_same pools, received]
  omega

theorem collectProtocolFees_keeps {tokenAddress : Address} (kept : Kept state)
    (ran : collectProtocolFees tokens env admin tokenAddress amount state = .ok next) :
    Keeps contract state next tokenAddress (-amount) := by
  simp only [collectProtocolFees, assertAdmin, ensureInitialized, call_ok, arith_ok] at ran
  obtain ⟨⟨-, signed, -⟩, -, -, _, paid, rfl⟩ := ran
  refine keeps_of_payment (kept.of_same rfl rfl rfl id) rfl fun read => ?_
  have debited := pay_debits paid (env.ne_contract signed).symm read
  split_ifs at debited ⊢ <;> exact debited

theorem transfer_keeps {token source destination : Address} {ledger : TokenLedger Address}
    (kept : Kept state)
    (paid : (tokens.payAs env state.ledger token source destination amount : Outcome Error _) =
      .ok ledger) :
    ∃ received, 0 ≤ received ∧ Keeps contract state (state.withLedger ledger) token received := by
  simp only [payAs, call_ok] at paid
  obtain ⟨signed, paid⟩ := paid
  have sourceApart := (env.ne_contract signed).symm
  refine ⟨if contract = destination then amount else 0, ?_,
    keeps_of_payment (kept.of_same rfl rfl rfl id) rfl fun read => ?_⟩
  · split_ifs
    · exact pay_nonneg paid
    · exact le_rfl
  · have moved := pay_eq_ok paid read contract
    rw [transferDelta_of_source_ne sourceApart] at moved
    rw [ite_and] at moved
    exact moved

/-- The contract holds of every token what its pools have of it. -/
def Covered (contract : Address) (state : State Address) : Prop :=
  ∀ token, 0 ≤ state.surplus contract token

/-- A trade finds a surplus of the payment token if its protocol fee is negative, and a
collection takes from the surplus of the token it collects. -/
def SparesPools (state : State Address) (call : Env Address contract × Operation Address) : Prop :=
  match call.2 with
  | .buyNft _ poolId _ | .sellNft _ poolId _ _ =>
      ∀ pool, state.pools.get poolId = some pool →
        0 ≤ state.surplus contract pool.paymentToken +
          (pool.spotPrice * state.protocolFeeBps).tdiv bpsDenom
  | .collectProtocolFees _ tokenAddress amount => amount ≤ state.surplus contract tokenAddress
  | _ => True

theorem dispatch_keeps {call : Env Address contract × Operation Address} (kept : Kept state)
    (ran : dispatch tokens state call = .ok next) :
    ∃ token amount, Keeps contract state next token amount ∧ (Covered contract state →
      (0 ≤ state.surplus contract token + amount ↔ SparesPools state call)) := by
  obtain ⟨_, op⟩ := call
  have neutral : Covered contract state → (0 ≤ state.surplus contract contract + 0 ↔ True) :=
    fun covered => iff_true_intro (by rw [add_zero]; exact covered contract)
  cases op with
  | initializeAmm =>
    exact ⟨_, _, initializeAmm_keeps kept ran, neutral⟩
  | createPool =>
    obtain ⟨⟨id, _⟩, created, rfl⟩ := map_eq_ok.mp ran
    exact ⟨_, _, createPool_keeps kept created, neutral⟩
  | depositTokens => exact ⟨_, _, depositTokens_keeps kept ran, neutral⟩
  | depositNfts => exact ⟨_, _, depositNfts_keeps kept ran, neutral⟩
  | withdrawTokens => exact ⟨_, _, withdrawTokens_keeps kept ran, neutral⟩
  | withdrawNfts => exact ⟨_, _, withdrawNfts_keeps kept ran, neutral⟩
  | deactivatePool => exact ⟨_, _, deactivatePool_keeps kept ran, neutral⟩
  | updatePoolParams =>
    exact ⟨_, _, updatePoolParams_keeps kept ran, neutral⟩
  | buyNft =>
    obtain ⟨⟨⟨_, price⟩, _⟩, bought, rfl⟩ := map_eq_ok.mp ran
    obtain ⟨pool, got, keeps⟩ := buyNft_keeps kept bought
    refine ⟨_, _, keeps, fun _ => ⟨fun spared other found => ?_, fun spares => ?_⟩⟩
    · cases got.symm.trans found
      exact spared
    · exact spares pool got
  | sellNft =>
    obtain ⟨⟨_, _⟩, sold, rfl⟩ := map_eq_ok.mp ran
    obtain ⟨pool, got, keeps⟩ := sellNft_keeps kept sold
    refine ⟨_, _, keeps, fun _ => ⟨fun spared other found => ?_, fun spares => ?_⟩⟩
    · cases got.symm.trans found
      exact spared
    · exact spares pool got
  | setPaused =>
    simp only [dispatch, setPaused, call_ok] at ran
    obtain ⟨_, -, rfl⟩ := ran
    exact ⟨_, _, Keeps.neutral (kept.of_same rfl rfl rfl id) fun _ => rfl, neutral⟩
  | collectProtocolFees =>
    refine ⟨_, _, collectProtocolFees_keeps kept ran, fun _ => ?_⟩
    unfold SparesPools
    omega
  | setProtocolFee =>
    simp only [dispatch, setProtocolFee, call_ok] at ran
    obtain ⟨_, -, _, -, rfl⟩ := ran
    exact ⟨_, _, Keeps.neutral (kept.of_same rfl rfl rfl id) fun _ => rfl, neutral⟩
  | transfer token =>
    simp only [dispatch, call_ok] at ran
    obtain ⟨_, paid, rfl⟩ := ran
    obtain ⟨_, nonneg, keeps⟩ := transfer_keeps kept paid
    exact ⟨_, _, keeps, fun covered => iff_true_intro (add_nonneg (covered token) nonneg)⟩

theorem Keeps.covered_iff {token : Address} (keeps : Keeps contract state next token amount)
    (covered : Covered contract state) :
    Covered contract next ↔ 0 ≤ state.surplus contract token + amount := by
  constructor
  · intro later
    have held := later token
    rw [keeps.surplus, if_pos rfl] at held
    exact held
  · intro held read
    rw [keeps.surplus]
    split_ifs with same
    · rw [same]
      exact held
    · rw [add_zero]
      exact covered read

omit [DecidableEq Address] in
theorem kept_of_ledger (ledger : TokenLedger Address) : Kept ({ ledger } : State Address) where
  pools := nofun
  numbered := nofun
  slots := FiniteMap.stacked_empty
  started := fun _ => rfl

theorem kept_step (state : State Address) (call : Env Address contract × Operation Address)
    (next : State Address) (kept : Kept state)
    (ran : (machine tokens contract).exec state call = .ok next) : Kept next := by
  obtain ⟨_, _, keeps, -⟩ := dispatch_keeps kept ran
  exact keeps.kept

/-- The surplus of no token is negative in any state of a run exactly when its trades and
collections spare the pools. -/
theorem always_covered_iff (ledger : TokenLedger Address)
    (calls : List (Env Address contract × Operation Address)) :
    (machine tokens contract).Always (Covered contract) { ledger } calls ↔
      (machine tokens contract).Meets SparesPools { ledger } calls := by
  have initial : Covered contract ({ ledger } : State Address) := fun token =>
    sub_nonneg.mpr (Int.natCast_nonneg (ledger token contract))
  apply always_iff_meets kept_step _ (kept_of_ledger ledger) initial
  intro state call next kept covered ran
  obtain ⟨_, _, keeps, exact⟩ := dispatch_keeps kept ran
  rw [keeps.covered_iff covered]
  exact exact covered

/-- The slots of each pool are filled up to its count of NFTs and no further, so that the
last one is there to be bought; token balances are not negative and prices positive. -/
structure Stocked (tokens : TokenHost Address) (contract : Address) (state : State Address) :
    Prop where
  slots : ∀ id pool, state.pools.get id = some pool → ∀ slot,
    (state.getPoolNft id slot).isSome = true ↔ slot < pool.nftCount
  sells : ∀ (env : Env Address contract) buyer poolId maxPrice,
    buyNft tokens env buyer poolId maxPrice state ≠ .error (.error .nftNotInPool)
  tokenBalance : ∀ id pool, state.pools.get id = some pool → 0 ≤ pool.tokenBalance
  spotPrice : ∀ id pool, state.pools.get id = some pool → 0 < pool.spotPrice

/-- The contract holds of every payment token the token balances of the pools that use
it. -/
def Backed (contract : Address) (state : State Address) : Prop :=
  ∀ token, (state.pools.total fun _ pool =>
    if pool.paymentToken = token then pool.tokenBalance else 0) ≤
      (state.ledger token contract : Int)

theorem Covered.backed (covered : Covered contract state) : Backed contract state := by
  intro token
  have surplus := covered token
  unfold State.surplus Pool.reserves at surplus
  rw [FiniteMap.total_add] at surplus
  have nfts : 0 ≤ state.pools.total fun _ pool =>
      if token = pool.nftCollection then (pool.nftCount : Int) else 0 := by
    apply total_nonneg
    intro _ pool _
    split_ifs
    · exact Int.natCast_nonneg pool.nftCount
    · exact le_rfl
  have same : (state.pools.total fun _ pool =>
      if pool.paymentToken = token then pool.tokenBalance else 0) =
        state.pools.total fun _ pool =>
          if token = pool.paymentToken then pool.tokenBalance else 0 :=
    total_congr _ fun _ pool _ => if_congr eq_comm rfl rfl
  omega

omit [DecidableEq Address] in
theorem nextPriceUp_ne_error {pool : Pool Address} :
    nextPriceUp pool ≠ .error (.error .nftNotInPool) := by
  unfold nextPriceUp
  split <;>
    simp [shareOf, bind_eq_error, checkedMul_eq_error, checkedDiv_eq_error,
      checkedAdd_eq_error]

theorem Kept.buyNft_ne_error (kept : Kept state) {buyer : Address} {poolId : Nat} {maxPrice : Int} :
    buyNft tokens env buyer poolId maxPrice state ≠ .error (.error .nftNotInPool) := by
  intro failed
  simp only [buyNft, ensureInitialized, ensureNotPaused, assertPoolActive, getPool, tradeFees,
    shareOf, bind_eq_error, ensure_eq_error, requireAuth_eq_error, orError_eq_error,
    checkedMul_eq_error, checkedDiv_eq_error, checkedAdd_eq_error, inUnsigned_eq_error,
    pay_ne_error, pure_ne_error, nextPriceUp_ne_error, ensure_eq_ok,
    orError_eq_ok, exists_const, Failure.error.injEq, reduceCtorEq, and_false, or_false, false_or]
    at failed
  obtain ⟨-, -, _, -, pool, got, -, -, _, _, -, _, -, _, -, -, missing, -⟩ := failed
  have stacked := kept.slots poolId
  rw [nftCount_eq got] at stacked
  have filled : pool.nftCount - 1 < pool.nftCount := by omega
  obtain ⟨nftId, found⟩ := stacked.top filled
  exact Option.some_ne_none nftId (found.symm.trans missing)

theorem Kept.stocked (kept : Kept state) : Stocked tokens contract state where
  slots id _ got := nftCount_eq got ▸ kept.slots id
  sells _ _ _ _ := kept.buyNft_ne_error
  tokenBalance id pool got := (kept.pools id pool got).tokenBalance
  spotPrice id pool got := (kept.pools id pool got).spotPrice

/-- The pools are stocked in every state of every run, and in every state of a run whose
trades and collections spare the pools the contract backs their token balances. -/
theorem always_in_custody (ledger : TokenLedger Address)
    (calls : List (Env Address contract × Operation Address)) :
    (machine tokens contract).Always (Stocked tokens contract) { ledger } calls ∧
      ((machine tokens contract).Meets SparesPools { ledger } calls →
        (machine tokens contract).Always (Backed contract) { ledger } calls) := by
  constructor
  · have always : (machine tokens contract).Always Kept { ledger } calls :=
      always_invariant kept_step (kept_of_ledger ledger) calls
    exact always.mono fun _ kept => kept.stocked
  · intro spares
    exact ((always_covered_iff ledger calls).mpr spares).mono fun _ covered => covered.backed

/-- Owner 2 holds an NFT of collection 10 and payment tokens 11 and 12, and trader 3 holds
payment token 11. -/
def twoTokenLedger : TokenLedger Nat := fun token holder =>
  match token, holder with
  | 10, 2 => 1
  | 11, 3 => 2000000
  | 12, 2 => 10000
  | _, _ => 0

/-- Trader 3 buys the NFT of a pool with payment token 11 at a protocol fee of 5000, a
second pool holds 10000 of token 12, and the admin 1 collects the fee in a token. -/
def collecting (token : Nat) : List (Env Nat 0 × Operation Nat) :=
  [(signedEnv, .initializeAmm 1 none),
    (signedEnv, .createPool 2 10 11 .linear .sell 1000000 0 0), (signedEnv, .depositNfts 2 1 [7]),
    (signedEnv, .createPool 2 10 12 .linear .buy 1000 0 0),
    (signedEnv, .depositTokens 2 2 10000), (signedEnv, .buyNft 3 1 2000000),
    (signedEnv, .collectProtocolFees 1 token 5000)]

/-- The fee collected in its own token leaves both pools backed. -/
theorem always_in_custody_at_own_token :
    (machine standardHost 0).Always (Backed 0) { ledger := twoTokenLedger } (collecting 11) := by
  have priced : ((machine standardHost 0).run { ledger := twoTokenLedger }
      ((collecting 11).take 5)).pools.get 1 = some
        { id := 1, owner := 2, nftCollection := 10, paymentToken := 11, curve := .linear,
          poolType := .sell, spotPrice := 1000000, delta := 0, feeBps := 0, nftCount := 1,
          tokenBalance := 0, totalVolume := 0, tradeCount := 0, active := true } := rfl
  apply (always_in_custody twoTokenLedger (collecting 11)).2
  refine ⟨fun _ => trivial, fun _ => trivial, fun _ => trivial, fun _ => trivial, fun _ => trivial,
    fun _ pool got => ?_, fun _ => ?_, trivial⟩
  · cases priced.symm.trans got
    decide +kernel
  · have surplus : 5000 ≤ ((machine standardHost 0).run { ledger := twoTokenLedger }
        ((collecting 11).take 6)).surplus 0 11 := by decide +kernel
    exact surplus

/-- The fee of 5000 in token 11 is collected in token 12, of which the second pool has
10000 and the contract 5000 left. -/
theorem fees_collected_from_other_pool :
    ¬ (machine standardHost 0).Always (Backed 0) { ledger := twoTokenLedger } (collecting 12) := by
  intro always
  have backed := always.final 12
  revert backed
  decide +kernel

end SorobanPlayground.NftAmm
