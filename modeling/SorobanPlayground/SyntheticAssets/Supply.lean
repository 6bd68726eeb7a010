import SorobanPlayground.Library.GroupedTotals
import SorobanPlayground.SyntheticAssets.Solvency

/-! # The supply of the synthetic assets

The supply that each asset records is what its live positions have minted.
Positions of both kinds take their ids from one counter, and no id is taken
twice. What a burn or a liquidation subtracts is therefore always there.
-/

namespace SorobanPlayground.SyntheticAssets

open State FiniteMap

variable {Address : Type} {contract : Address}

def State.mintedSum (state : State Address) (symbol : Symbol) : Int :=
  state.collateralPositions.groupTotal (fun _ position => position.assetSymbol)
    CollateralPosition.mintedAmount symbol

/-- Every asset's recorded supply is what its live positions have minted. -/
def SupplyExact (state : State Address) : Prop :=
  ∀ symbol asset, state.assets.get symbol = some asset → asset.totalSupply = state.mintedSum symbol

/-- The writes of a successful call to assets, positions and the counter, with the id of the
position that it opens. -/
inductive Writes (state next : State Address) : Option Nat → Prop
  | quiet (assets : next.assets = state.assets)
      (collateral : next.collateralPositions = state.collateralPositions)
      (trading : next.tradingPositions = state.tradingPositions)
      (counter : next.positionCounter = state.positionCounter) : Writes state next none
  | started (fresh : state.initialized = false) (assets : next.assets = state.assets)
      (collateral : next.collateralPositions = state.collateralPositions)
      (trading : next.tradingPositions = state.tradingPositions) : Writes state next none
  | registered (symbol : Symbol) (asset : SyntheticAsset)
      (absent : state.assets.get symbol = none) (unissued : asset.totalSupply = 0)
      (assets : next.assets = state.assets.set symbol asset)
      (collateral : next.collateralPositions = state.collateralPositions)
      (trading : next.tradingPositions = state.tradingPositions)
      (counter : next.positionCounter = state.positionCounter) : Writes state next none
  | minted (ready : state.initialized = true) (asset updated : SyntheticAsset)
      (position : CollateralPosition Address)
      (stored : state.assets.get position.assetSymbol = some asset)
      (issued : updated.totalSupply = asset.totalSupply + position.mintedAmount)
      (fits : updated.totalSupply ≤ i128Max) (positive : 0 < position.mintedAmount)
      (named : position.positionId = state.positionCounter)
      (assets : next.assets = state.assets.set position.assetSymbol updated)
      (collateral : next.collateralPositions =
        state.collateralPositions.put state.positionCounter (some position))
      (trading : next.tradingPositions = state.tradingPositions)
      (counter : next.positionCounter = state.positionCounter + 1) :
      Writes state next (some state.positionCounter)
  | rewritten (id : Nat) (position updated : CollateralPosition Address)
      (stored : state.collateralPositions.get id = some position)
      (minted : updated.mintedAmount = position.mintedAmount)
      (symbol : updated.assetSymbol = position.assetSymbol)
      (named : updated.positionId = position.positionId) (assets : next.assets = state.assets)
      (collateral : next.collateralPositions = state.collateralPositions.put id (some updated))
      (trading : next.tradingPositions = state.tradingPositions)
      (counter : next.positionCounter = state.positionCounter) : Writes state next none
  | reduced (id : Nat) (position updated : CollateralPosition Address)
      (asset lowered : SyntheticAsset) (amount : Int) (positive : 0 < amount)
      (stored : state.collateralPositions.get id = some position)
      (found : state.assets.get position.assetSymbol = some asset)
      (covered : amount ≤ position.mintedAmount)
      (left : updated.mintedAmount = position.mintedAmount - amount)
      (symbol : updated.assetSymbol = position.assetSymbol)
      (named : updated.positionId = position.positionId)
      (redeemed : lowered.totalSupply = asset.totalSupply - amount)
      (assets : next.assets = state.assets.set position.assetSymbol lowered)
      (collateral : next.collateralPositions = state.collateralPositions.put id
        (if updated.mintedAmount = 0 then none else some updated))
      (trading : next.tradingPositions = state.tradingPositions)
      (counter : next.positionCounter = state.positionCounter) : Writes state next none
  | opened (ready : state.initialized = true) (position : TradingPosition Address)
      (named : position.positionId = state.positionCounter) (assets : next.assets = state.assets)
      (collateral : next.collateralPositions = state.collateralPositions)
      (trading : next.tradingPositions =
        state.tradingPositions.put state.positionCounter (some position))
      (counter : next.positionCounter = state.positionCounter + 1) :
      Writes state next (some state.positionCounter)
  | closed (id : Nat) (position : TradingPosition Address)
      (left : Option (TradingPosition Address))
      (stored : state.tradingPositions.get id = some position)
      (named : ∀ settled, left = some settled → settled.positionId = position.positionId)
      (assets : next.assets = state.assets)
      (collateral : next.collateralPositions = state.collateralPositions)
      (trading : next.tradingPositions = state.tradingPositions.put id left)
      (counter : next.positionCounter = state.positionCounter) : Writes state next none

/-- The id that a call gives to the position it opens. -/
def openedId (state : State Address) : Operation Address → Option Nat
  | .mintSynthetic _ _ _ _ => some state.positionCounter
  | .openTrade _ _ _ _ _ => some state.positionCounter
  | _ => none

variable {id : Nat} {call : Env Address contract × Operation Address} {asset : SyntheticAsset}

section Calls

variable [DecidableEq Address] {tokens : TokenHost Address} {env : Env Address contract}
  {state next : State Address}

section

omit [DecidableEq Address]

theorem writeBack_collateral (state : State Address) (id : Nat)
    (position : CollateralPosition Address) :
    (state.writeBack id position).collateralPositions = state.collateralPositions.put id
      (if position.mintedAmount = 0 then none else some position) := by
  unfold writeBack
  split <;> rfl

theorem writeBack_frame (state : State Address) (id : Nat) (position : CollateralPosition Address) :
    (state.writeBack id position).assets = state.assets ∧
      (state.writeBack id position).tradingPositions = state.tradingPositions ∧
      (state.writeBack id position).positionCounter = state.positionCounter := by
  unfold writeBack
  split <;> exact ⟨rfl, rfl, rfl⟩

theorem writes_writeBack {position updated : CollateralPosition Address}
    {amount : Int} {ledger : TokenLedger Address}
    (pos : 0 < amount) (got : state.collateralPositions.get id = some position)
    (found : state.assets.get position.assetSymbol = some asset)
    (covered : amount ≤ position.mintedAmount)
    (left : updated.mintedAmount = position.mintedAmount - amount)
    (symbol : updated.assetSymbol = position.assetSymbol)
    (named : updated.positionId = position.positionId) :
    Writes state (((state.writeBack id updated).setSyntheticAsset position.assetSymbol
      { asset with totalSupply := asset.totalSupply - amount }).withLedger ledger) none := by
  obtain ⟨assets, trading, counter⟩ := writeBack_frame state id updated
  exact .reduced id position updated asset _ amount pos got found covered left symbol named
    rfl (congrArg (FiniteMap.set · position.assetSymbol _) assets)
    (writeBack_collateral state id updated) trading counter

end

theorem closeTrade_writes {user : Address} {positionId : Nat} {amount : Int}
    (ran : closeTrade tokens env user positionId state = .ok (amount, next)) :
    Writes state next none ∧ (state.initialized = true → next.initialized = true) := by
  simp only [closeTrade, getTradingPosition, call_ok] at ran
  obtain ⟨-, position, got, -, -, _, -, _, -, ran⟩ := ran
  split at ran
  · cases ran
    exact ⟨.closed positionId position none got (by simp) rfl rfl rfl rfl, id⟩
  · simp only [settleTrade, bind_eq_ok] at ran
    obtain ⟨_, -, _, -, ran⟩ := ran
    split at ran
    · cases ran
      exact ⟨.closed positionId position none got (by simp) rfl rfl rfl rfl, id⟩
    · simp only [call_ok] at ran
      obtain ⟨_, -, _, -, -, rfl⟩ := ran
      refine ⟨.closed positionId position (some { position with isOpen := false }) got ?_
        rfl rfl rfl rfl, id⟩
      intro settled same
      cases same
      rfl

theorem dispatch_writes (sound : Sound state) (ran : dispatch tokens state call = .ok next) :
    Writes state next (openedId state call.2) ∧
      (state.initialized = true → next.initialized = true) := by
  obtain ⟨env, op⟩ := call
  cases op with
  | initializeAssets =>
    simp only [dispatch, initializeAssets, call_ok] at ran
    obtain ⟨fresh, -, -, -, -, rfl⟩ := ran
    exact ⟨.started fresh rfl rfl rfl, fun _ => rfl⟩
  | registerSyntheticAsset assetSymbol =>
    simp only [dispatch, registerSyntheticAsset, call_ok] at ran
    obtain ⟨-, -, -, gone, -, rfl⟩ := ran
    exact ⟨.registered assetSymbol _ (has_eq_false.mp gone) rfl rfl rfl rfl rfl, id⟩
  | mintSynthetic user assetSymbol collateralAmount mintAmount =>
    simp only [dispatch, mintSynthetic, getCollateralToken, incrementPositionCounter,
      getSyntheticAsset, call_ok, arith_ok] at ran
    obtain ⟨-, -, pos, price, -, _, -, _, -, -, token, setUp, ledger, -, -,
      asset, got, fits, rfl⟩ := ran
    refine ⟨.minted (sound.initialized_of_token setUp) asset _
      { user, assetSymbol, collateralAmount, mintedAmount := mintAmount,
        positionId := state.positionCounter, createdAt := env.timestamp,
        lastUpdated := env.timestamp }
      got rfl fits.2 (not_le.mp (not_or.mp pos).2) rfl rfl rfl rfl rfl, id⟩
  | addCollateral _ positionId =>
    simp only [dispatch, addCollateral, getCollateralPosition, call_ok] at ran
    obtain ⟨-, -, position, got, -, token, -, ledger, -, amount, -, rfl⟩ := ran
    refine ⟨.rewritten positionId position
      { position with collateralAmount := amount, lastUpdated := env.timestamp } got
      rfl rfl rfl rfl rfl rfl rfl, id⟩
  | burnSynthetic _ positionId =>
    simp only [dispatch, burnSynthetic, getCollateralPosition, getSyntheticAsset,
      call_ok, arith_ok] at ran
    obtain ⟨-, pos, position, got, -, covered, -, -, -, -, -, _, -, _, found, -,
      _, -, _, -, rfl⟩ := ran
    exact ⟨writes_writeBack pos got found covered rfl rfl rfl,
      fun ready => (state.writeBack_initialized positionId _).trans ready⟩
  | liquidate _ positionId =>
    simp only [dispatch, liquidate, getCollateralPosition, getSyntheticAsset, call_ok,
      arith_ok] at ran
    obtain ⟨-, pos, _, got, price, -, _, -, -, covered, _, -, _, -, token,
      -, ledger, -, -, -, _, found, -, rfl⟩ := ran
    exact ⟨writes_writeBack pos got found covered rfl rfl rfl,
      fun ready => (state.writeBack_initialized positionId _).trans ready⟩
  | openTrade =>
    obtain ⟨⟨_, _⟩, opened, rfl⟩ := map_eq_ok.mp ran
    simp only [openTrade, getCollateralToken, incrementPositionCounter, call_ok,
      arith_ok] at opened
    obtain ⟨-, -, -, -, -, -, -, -, -, _, -, -, _, setUp, _, -, -, -, rfl⟩ := opened
    exact ⟨.opened (sound.initialized_of_token setUp) _ rfl rfl rfl rfl rfl, id⟩
  | closeTrade =>
    obtain ⟨⟨_, _⟩, closed, rfl⟩ := map_eq_ok.mp ran
    exact closeTrade_writes closed
  | expirePrice =>
    cases ran
    exact ⟨.quiet rfl rfl rfl rfl, id⟩
  | _ =>
    have same : next.assets = state.assets ∧
        next.collateralPositions = state.collateralPositions ∧
        next.tradingPositions = state.tradingPositions ∧
        next.positionCounter = state.positionCounter ∧ next.initialized = state.initialized := by
      apply Outcome.Yields.of_ok ran
      simp only [dispatch, updateOracle, updateCollateralToken, updateProtocolParams, updatePrice,
        yields_bind, yields_pure, yields_true, updatePriceInternal, withLedger,
        setPrice, and_self]
    obtain ⟨assets, collateral, trading, counter, initialized⟩ := same
    exact ⟨.quiet assets collateral trading counter, initialized.trans⟩

end Calls

/-- The supplies are exact and representable, and every position has minted something of a
registered asset. -/
structure Supplied (state : State Address) : Prop where
  exact : SupplyExact state
  fits : ∀ symbol asset, state.assets.get symbol = some asset → asset.totalSupply ≤ i128Max
  positive : ∀ id position, state.collateralPositions.get id = some position →
    0 < position.mintedAmount
  registered : ∀ id position, state.collateralPositions.get id = some position →
    ∃ asset, state.assets.get position.assetSymbol = some asset

variable {state next : State Address}

theorem Supplied.of_same (supplied : Supplied state) (assets : next.assets = state.assets)
    (collateral : next.collateralPositions = state.collateralPositions) : Supplied next := by
  constructor
  · unfold SupplyExact mintedSum
    rw [assets, collateral]
    exact supplied.exact
  · rw [assets]
    exact supplied.fits
  · rw [collateral]
    exact supplied.positive
  · rw [assets, collateral]
    exact supplied.registered

theorem Supplied.minted_le (supplied : Supplied state)
    {position : CollateralPosition Address} (got : state.collateralPositions.get id = some position)
    (found : state.assets.get position.assetSymbol = some asset) :
    position.mintedAmount ≤ asset.totalSupply := by
  have nonneg : ∀ key held, state.collateralPositions.get key = some held →
      0 ≤ held.mintedAmount := fun key held there => (supplied.positive key held there).le
  rw [supplied.exact _ asset found]
  exact weight_le_groupTotal
    (fun key value found _ => nonneg key value found) got rfl

variable {position : Option (CollateralPosition Address)}

theorem Supplied.put (supplied : Supplied state) {symbol : Symbol} {asset updated : SyntheticAsset}
    (found : state.assets.get symbol = some asset)
    (before : ∀ held, state.collateralPositions.get id = some held → held.assetSymbol = symbol)
    (after : ∀ held, position = some held → held.assetSymbol = symbol ∧ 0 < held.mintedAmount)
    (moved : updated.totalSupply - asset.totalSupply =
      position.elim 0 CollateralPosition.mintedAmount -
        (state.collateralPositions.get id).elim 0 CollateralPosition.mintedAmount)
    (fits : updated.totalSupply ≤ i128Max) (assets : next.assets = state.assets.set symbol updated)
    (collateral : next.collateralPositions = state.collateralPositions.put id position) :
    Supplied next := by
  constructor
  · unfold SupplyExact mintedSum
    rw [assets, collateral]
    exact (FiniteMap.Tallied.put_iff supplied.exact found updated before
      fun held same => (after held same).1).mpr moved
  · rw [assets]
    exact forall_set supplied.fits fits
  · rw [collateral]
    exact forall_put supplied.positive fun held same => (after held same).2
  · rw [assets, collateral]
    have there : ∀ held : CollateralPosition Address,
        (∃ other, state.assets.get held.assetSymbol = some other) →
          ∃ other, (state.assets.set symbol updated).get held.assetSymbol = some other := by
      rintro held ⟨other, registered⟩
      rw [get_set]
      split
      · exact ⟨updated, rfl⟩
      · exact ⟨other, registered⟩
    refine forall_put (fun key held got => there held (supplied.registered key held
      got)) fun held same => there held ⟨asset, ?_⟩
    rw [(after held same).1]
    exact found

theorem Writes.supplied {opened : Option Nat} (writes : Writes state next opened)
    (sound : Sound state) (supplied : Supplied state) : Supplied next := by
  cases writes with
  | quiet assets collateral => exact supplied.of_same assets collateral
  | started _ assets collateral => exact supplied.of_same assets collateral
  | registered symbol _ gone unissued assets collateral =>
    have unused : ∀ id position, state.collateralPositions.get id = some position →
        position.assetSymbol ≠ symbol := by
      rintro id position got rfl
      obtain ⟨other, registered⟩ := supplied.registered id position got
      rw [gone] at registered
      cases registered
    constructor
    · unfold SupplyExact mintedSum
      rw [assets, collateral]
      exact FiniteMap.Tallied.set_new supplied.exact unused unissued
    · rw [assets]
      exact forall_set supplied.fits (unissued.le.trans i128Max_nonneg)
    · rw [collateral]
      exact supplied.positive
    · rw [assets, collateral]
      intro id position got
      obtain ⟨other, registered⟩ := supplied.registered id position got
      exact ⟨other, (get_set_of_ne _ _ (unused id position got)).trans registered⟩
  | minted _ _ _ _ got _ fits pos _ assets collateral =>
    have fresh := sound.collateral_fresh
    refine supplied.put got ?_ ?_ ?_ fits assets collateral
    · intro held there
      cases fresh.symm.trans there
    · rintro held same
      cases same
      exact ⟨rfl, pos⟩
    · rw [fresh]
      dsimp only [Option.elim_some, Option.elim_none]
      omega
  | rewritten id position _ got minted symbol _ assets collateral =>
    obtain ⟨asset, found⟩ := supplied.registered id position got
    have unchanged : next.assets = state.assets.set position.assetSymbol asset := by
      rw [assets, set_of_get found]
    refine supplied.put found ?_ ?_ ?_ (supplied.fits _ asset found) unchanged collateral
    · intro held there
      cases got.symm.trans there
      rfl
    · rintro held same
      cases same
      exact ⟨symbol, minted ▸ supplied.positive id position got⟩
    · rw [got]
      dsimp only [Option.elim_some]
      omega
  | reduced _ _ _ asset _ _ _ got found _ _ symbol _ _ assets collateral =>
    have fits := supplied.fits _ asset found
    refine supplied.put found ?_ ?_ ?_ (by omega) assets collateral
    · intro held there
      cases got.symm.trans there
      rfl
    · intro held same
      split at same
      · cases same
      · cases same
        refine ⟨symbol, ?_⟩
        omega
    · rw [got]
      split
      · dsimp only [Option.elim_some, Option.elim_none]
        omega
      · dsimp only [Option.elim_some]
        omega
  | opened _ _ _ assets collateral =>
    exact supplied.of_same assets collateral
  | closed _ _ _ _ _ assets collateral =>
    exact supplied.of_same assets collateral

/-- The ids that positions were opened with: each was taken once, lies below the counter, and every
stored position has its own. -/
structure Numbered (state : State Address) (used : List Nat) : Prop where
  collateral_used : ∀ id position, state.collateralPositions.get id = some position →
    id ∈ used ∧ position.positionId = id
  trading_used : ∀ id position, state.tradingPositions.get id = some position →
    id ∈ used ∧ position.positionId = id
  apart : ∀ id position, state.collateralPositions.get id = some position →
    state.tradingPositions.get id = none
  distinct : used.Nodup
  below : ∀ id ∈ used, id < state.positionCounter
  unopened : state.initialized = false → used = []

section Numbers

variable {used : List Nat} (numbered : Numbered state used)
include numbered

theorem Numbered.unopened_of_stays (stays : state.initialized = true → next.initialized = true)
    (closed : next.initialized = false) : used = [] := by
  apply numbered.unopened
  rw [← Bool.not_eq_true]
  intro running
  rw [stays running] at closed
  cases closed

theorem Numbered.of_same (collateral : next.collateralPositions = state.collateralPositions)
    (trading : next.tradingPositions = state.tradingPositions)
    (below : ∀ id ∈ used, id < next.positionCounter)
    (stays : state.initialized = true → next.initialized = true) : Numbered next used where
  collateral_used := collateral ▸ numbered.collateral_used
  trading_used := trading ▸ numbered.trading_used
  apart := collateral ▸ trading ▸ numbered.apart
  distinct := numbered.distinct
  below := below
  unopened := numbered.unopened_of_stays stays

theorem Numbered.counter_unused : state.positionCounter ∉ used :=
  fun mem => lt_irrefl _ (numbered.below _ mem)

theorem Numbered.take (ready : state.initialized = true) :
    Numbered { state with positionCounter := state.positionCounter + 1 }
      (state.positionCounter :: used) where
  collateral_used := by
    intro id position got
    obtain ⟨mem, own⟩ := numbered.collateral_used id position got
    exact ⟨List.mem_cons_of_mem _ mem, own⟩
  trading_used := by
    intro id position got
    obtain ⟨mem, own⟩ := numbered.trading_used id position got
    exact ⟨List.mem_cons_of_mem _ mem, own⟩
  apart := numbered.apart
  distinct := List.nodup_cons.mpr ⟨numbered.counter_unused, numbered.distinct⟩
  below := by
    intro id mem
    rcases List.mem_cons.mp mem with rfl | old
    · exact Nat.lt_succ_self _
    · exact (numbered.below id old).trans (Nat.lt_succ_self _)
  unopened := fun closed => nomatch ready.symm.trans closed

theorem Numbered.putCollateral
    (mem : id ∈ used) (own : ∀ held, position = some held → held.positionId = id)
    (free : state.tradingPositions.get id = none)
    (collateral : next.collateralPositions = state.collateralPositions.put id position)
    (trading : next.tradingPositions = state.tradingPositions)
    (counter : next.positionCounter = state.positionCounter)
    (stays : state.initialized = true → next.initialized = true) : Numbered next used where
  collateral_used := by
    rw [collateral]
    exact forall_put numbered.collateral_used fun held same => ⟨mem, own held same⟩
  trading_used := trading ▸ numbered.trading_used
  apart := by
    rw [collateral, trading]
    exact forall_put numbered.apart fun _ _ => free
  distinct := numbered.distinct
  below := counter ▸ numbered.below
  unopened := numbered.unopened_of_stays stays

theorem Numbered.putTrading {position : Option (TradingPosition Address)}
    (mem : id ∈ used) (own : ∀ held, position = some held → held.positionId = id)
    (free : state.collateralPositions.get id = none)
    (collateral : next.collateralPositions = state.collateralPositions)
    (trading : next.tradingPositions = state.tradingPositions.put id position)
    (counter : next.positionCounter = state.positionCounter)
    (stays : state.initialized = true → next.initialized = true) : Numbered next used where
  collateral_used := collateral ▸ numbered.collateral_used
  trading_used := by
    rw [trading]
    exact forall_put numbered.trading_used fun held same => ⟨mem, own held same⟩
  apart := by
    rw [collateral, trading]
    intro other held got
    by_cases same : other = id
    · rw [same, free] at got
      cases got
    · rw [get_put_of_ne _ _ same]
      exact numbered.apart other held got
  distinct := numbered.distinct
  below := counter ▸ numbered.below
  unopened := numbered.unopened_of_stays stays

theorem Numbered.free_of_trading {position : TradingPosition Address}
    (got : state.tradingPositions.get id = some position) :
    state.collateralPositions.get id = none := by
  cases found : state.collateralPositions.get id with
  | none => rfl
  | some other =>
    rw [numbered.apart id other found] at got
    cases got

theorem Writes.renumbered {opened : Option Nat} (writes : Writes state next opened)
    (sound : Sound state) (stays : state.initialized = true → next.initialized = true) :
    Numbered next (opened.toList ++ used) := by
  cases writes with
  | quiet _ collateral trading counter =>
    exact numbered.of_same collateral trading (counter ▸ numbered.below) stays
  | started fresh _ collateral trading =>
    obtain rfl := numbered.unopened fresh
    exact numbered.of_same collateral trading (fun id mem => nomatch mem) stays
  | registered _ _ _ _ _ collateral trading counter =>
    exact numbered.of_same collateral trading (counter ▸ numbered.below) stays
  | minted ready _ _ _ _ _ _ _ named _ collateral trading counter =>
    refine (numbered.take ready).putCollateral List.mem_cons_self ?_ sound.trading_fresh
      collateral trading counter stays
    rintro held same
    cases same
    exact named
  | rewritten id position _ got _ _ named _ collateral trading counter =>
    obtain ⟨mem, own⟩ := numbered.collateral_used id position got
    refine numbered.putCollateral mem ?_ (numbered.apart id position got) collateral trading
      counter stays
    rintro held same
    cases same
    exact named.trans own
  | reduced id position _ _ _ _ _ got _ _ _ _ named _ _ collateral trading counter =>
    obtain ⟨mem, own⟩ := numbered.collateral_used id position got
    refine numbered.putCollateral mem ?_ (numbered.apart id position got) collateral trading
      counter stays
    intro held same
    split at same
    · cases same
    · cases same
      exact named.trans own
  | opened ready _ named _ collateral trading counter =>
    refine (numbered.take ready).putTrading List.mem_cons_self ?_ sound.collateral_fresh
      collateral trading counter stays
    rintro held same
    cases same
    exact named
  | closed id position _ got named _ collateral trading counter =>
    obtain ⟨mem, own⟩ := numbered.trading_used id position got
    exact numbered.putTrading mem (fun held same => (named held same).trans own)
      (numbered.free_of_trading got) collateral trading counter stays

end Numbers

variable [DecidableEq Address] {tokens : TokenHost Address}

/-- Follow the ids that the positions of a run are opened with, the latest first. -/
def followIds (state : State Address) (call : Env Address contract × Operation Address)
    (_ : State Address) (used : List Nat) : List Nat :=
  (openedId state call.2).toList ++ used

/-- The ids that the positions of a run are opened with, the latest first. -/
def openedIds (tokens : TokenHost Address) (contract : Address) (ledger : TokenLedger Address)
    (calls : List (Env Address contract × Operation Address)) : List Nat :=
  (((machine tokens contract).withGhost followIds).run ({ ledger }, []) calls).2

/-- What holds of a state and the ids its positions were opened with. -/
structure Issued (tracked : State Address × List Nat) : Prop where
  sound : Sound tracked.1
  supplied : Supplied tracked.1
  numbered : Numbered tracked.1 tracked.2

omit [DecidableEq Address] in
theorem issued_initial (ledger : TokenLedger Address) :
    Issued (({ ledger } : State Address), []) where
  sound := Sound.initial ledger
  supplied := by
    constructor
    · intro symbol asset got
      cases got
    · intro symbol asset got
      cases got
    · intro id position got
      cases got
    · intro id position got
      cases got
  numbered := by
    constructor
    · intro id position got
      cases got
    · intro id position got
      cases got
    · intro id position got
      cases got
    · exact List.nodup_nil
    · intro id mem
      cases mem
    · intro _
      rfl

theorem issued_step {state next : State Address × List Nat} (issued : Issued state)
    (ran : ((machine tokens contract).withGhost followIds).exec state call = .ok next) :
    Issued next := by
  obtain ⟨stepped, followed⟩ := withGhost_exec_eq_ok.mp ran
  obtain ⟨writes, stays⟩ := dispatch_writes issued.sound stepped
  refine ⟨dispatch_sound issued.sound stepped, writes.supplied issued.sound issued.supplied, ?_⟩
  rw [followed]
  exact writes.renumbered issued.numbered issued.sound stays

theorem calculateLiquidationReward_nonneg {repayAmount price totalCollateral totalMinted : Int}
    {bonusBps : Nat} {reward : Int} (collateral : 0 ≤ totalCollateral) (minted : 0 < totalMinted)
    (eq : calculateLiquidationReward repayAmount price totalCollateral totalMinted
      bonusBps = .ok reward) : 0 ≤ reward := by
  simp only [calculateLiquidationReward, call_ok, arith_ok] at eq
  obtain ⟨pos, -, -, -, -, -, -, -, -,
    rfl⟩ := eq
  have share : 0 ≤ (repayAmount * totalCollateral).tdiv totalMinted := by
    refine Int.tdiv_nonneg (mul_nonneg ?_ collateral) minted.le
    exact (not_le.mp (not_or.mp pos).1).le
  have bonus : 0 ≤ ((repayAmount * totalCollateral).tdiv totalMinted * bonusBps).tdiv 10000 :=
    Int.tdiv_nonneg (mul_nonneg share (Int.natCast_nonneg _)) (by decide)
  split
  · exact collateral
  · exact add_nonneg share bonus

/-- A subtraction that the contract checks succeeds, and leaves nothing negative. -/
def Subtracts (whole part : Int) : Prop :=
  0 ≤ whole - part ∧
    (checkedSub (.error .overflow) whole part : Outcome Error Int) = .ok (whole - part)

theorem subtracts_of_le {whole part : Int} (nonneg : 0 ≤ part) (within : part ≤ whole)
    (fits : whole ≤ i128Max) : Subtracts whole part := by
  have lowest : i128Min ≤ 0 := by decide
  exact ⟨by omega, checkedSub_eq_ok.mpr ⟨⟨by omega, by omega⟩, rfl⟩⟩

/-- In every state that a run reaches, each asset's supply is what its live positions have minted,
every live position has minted something and has no negative collateral, and no id was taken by
two positions. So a burn or a liquidation of no more than was minted finds what it subtracts: from
the supply, from the position's debt, and from its collateral. -/
theorem supply_is_minted_sum (ledger : TokenLedger Address)
    (calls : List (Env Address contract × Operation Address)) :
    let state := (machine tokens contract).run { ledger } calls
    let used := openedIds tokens contract ledger calls
    SupplyExact state ∧
    (∀ id position, state.collateralPositions.get id = some position →
      0 < position.mintedAmount ∧ 0 ≤ position.collateralAmount) ∧
    (used.Nodup ∧
      (∀ id position, state.collateralPositions.get id = some position →
        id ∈ used ∧ position.positionId = id ∧ state.tradingPositions.get id = none) ∧
      ∀ id position, state.tradingPositions.get id = some position →
        id ∈ used ∧ position.positionId = id) ∧
    ∀ id position amount, state.collateralPositions.get id = some position → 0 < amount →
      amount ≤ position.mintedAmount →
      (∃ asset, state.assets.get position.assetSymbol = some asset ∧
        Subtracts asset.totalSupply amount) ∧
      Subtracts position.mintedAmount amount ∧
      (InI128 (amount * position.collateralAmount) →
        Subtracts position.collateralAmount
          ((amount * position.collateralAmount).tdiv position.mintedAmount)) ∧
      ∀ price bonus reward, calculateLiquidationReward amount price position.collateralAmount
          position.mintedAmount bonus = .ok reward →
        Subtracts position.collateralAmount reward := by
  intro state used
  have issued : Issued (((machine tokens contract).withGhost followIds).run ({ ledger }, [])
      calls) :=
    run_invariant (fun _ _ _ held ran => issued_step held ran)
      (issued_initial ledger) calls
  have same : (((machine tokens contract).withGhost followIds).run ({ ledger }, []) calls).1 =
      state := withGhost_run_fst _ calls
  obtain ⟨sound, supplied, numbered⟩ := issued
  rw [same] at sound supplied numbered
  refine ⟨supplied.exact, fun id position got => ⟨supplied.positive id position got,
    sound.collateral_nonneg id position got⟩, ⟨numbered.distinct, fun id position got => ?_,
    numbered.trading_used⟩, ?_⟩
  · obtain ⟨mem, own⟩ := numbered.collateral_used id position got
    exact ⟨mem, own, numbered.apart id position got⟩
  · intro id position amount got pos covered
    obtain ⟨asset, found⟩ := supplied.registered id position got
    have part := supplied.minted_le got found
    have fits := supplied.fits _ asset found
    have collateral := sound.collateral_nonneg id position got
    have minted := supplied.positive id position got
    have representable : InI128 (amount * position.collateralAmount) →
        position.collateralAmount ≤ i128Max := by
      intro product
      have grows := le_mul_of_one_le_left collateral (Int.add_one_le_iff.mpr pos)
      exact grows.trans product.2
    refine ⟨⟨asset, found, subtracts_of_le pos.le (covered.trans part) fits⟩,
      subtracts_of_le pos.le covered (part.trans fits), fun product => ?_,
      fun price bonus reward eq => ?_⟩
    · exact subtracts_of_le (Int.tdiv_nonneg (mul_nonneg pos.le collateral) minted.le)
        (share_le collateral pos covered) (representable product)
    · have product : InI128 (amount * position.collateralAmount) := by
        simp only [calculateLiquidationReward, bind_eq_ok, arith_ok] at eq
        obtain ⟨-, -, -, -, product, -⟩ := eq
        exact product
      exact subtracts_of_le (calculateLiquidationReward_nonneg collateral minted eq)
        (calculateLiquidationReward_le eq) (representable product)

end SorobanPlayground.SyntheticAssets
