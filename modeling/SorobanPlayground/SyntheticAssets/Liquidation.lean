import Mathlib.Algebra.BigOperators.Ring.Finset
import Mathlib.Tactic.FieldSimp
import SorobanPlayground.SyntheticAssets.Supply

/-! # The value of liquidations

A liquidator is paid the repaid share of the collateral with a bonus. What the formula of the
source promises is the repaid amount at the price, with the bonus.
-/

namespace SorobanPlayground.SyntheticAssets

variable {Address : Type} {contract : Address}

/-- `repay_amount * price * (1 + bonus/10000)`, at the scale of prices. -/
def documentedReward (price : Int) (bonusBps : Nat) (repayAmount : Int) : ℚ :=
  repayAmount * price / priceScale * (1 + bonusBps / 10000)

/-- The value of the collateral of a position over the value of its debt. -/
def CollateralPosition.ratio (position : CollateralPosition Address) (price : Int) : ℚ :=
  position.collateralAmount * priceScale / (position.mintedAmount * price)

/-- The repaid amount at the price with the bonus, in whole units of the collateral. -/
def wholeReward (price : Int) (bonusBps : Nat) (repayAmount : Int) : Int :=
  repayAmount * price * (10000 + bonusBps) / (priceScale * 10000)

/-- The largest part of the collateral that, with the bonus, the repaid amount is worth. -/
def pricedShare (price : Int) (bonusBps : Nat) (repayAmount : Int) : Int :=
  ((wholeReward price bonusBps repayAmount + 1) * 10000 - 1) / (10000 + bonusBps)

/-- The collateral, or its repaid share, is within what the repaid amount is worth. -/
def Priced (price : Int) (bonusBps : Nat) (repayAmount : Int)
    (position : CollateralPosition Address) : Prop :=
  position.collateralAmount ≤ wholeReward price bonusBps repayAmount ∨
    repayAmount * position.collateralAmount <
      (pricedShare price bonusBps repayAmount + 1) * position.mintedAmount

/-- The bonus on the repaid share of the collateral rounds down to nothing. -/
def Unrewarded (bonusBps : Nat) (repayAmount : Int)
    (position : CollateralPosition Address) : Prop :=
  bonusBps = 0 ∨
    repayAmount * position.collateralAmount < (9999 / bonusBps + 1) * position.mintedAmount

/-- A call pays what the repaid amount is worth, and no bonus for a part of a position whose
collateral covers the debt with the bonus. -/
def Fair (price : Int) (bonusBps : Nat) (repayAmount : Int)
    (position : CollateralPosition Address) : Prop :=
  Priced price bonusBps repayAmount position ∧
    (repayAmount < position.mintedAmount → 1 + (bonusBps / 10000 : ℚ) ≤ position.ratio price →
      Unrewarded bonusBps repayAmount position)

section Reward

variable {repayAmount price totalCollateral totalMinted reward : Int} {bonusBps : Nat}

theorem calculateLiquidationReward_eq (collateral : 0 ≤ totalCollateral) (minted : 0 < totalMinted)
    (eq : calculateLiquidationReward repayAmount price totalCollateral totalMinted bonusBps =
      .ok reward) :
    reward = min totalCollateral
      (repayAmount * totalCollateral / totalMinted * (10000 + bonusBps) / 10000) := by
  simp only [calculateLiquidationReward, call_ok, arith_ok] at eq
  obtain ⟨_, -, -, -, -, -, -, -, -,
    rfl⟩ := eq
  have product : 0 ≤ repayAmount * totalCollateral := mul_nonneg (by omega) collateral
  have share : 0 ≤ repayAmount * totalCollateral / totalMinted :=
    Int.ediv_nonneg product minted.le
  rw [Int.tdiv_eq_ediv_of_nonneg product, Int.tdiv_eq_ediv_of_nonneg (mul_nonneg share
    (Int.natCast_nonneg _)), mul_add, Int.add_comm (_ * 10000), Int.add_mul_ediv_right _ _ (by
    decide), Int.add_comm, min_def]
  split_ifs <;> omega

theorem floor_mul_le_iff {numerator denominator rate bound : Int} (pos : 0 < denominator)
    (rated : 0 < rate) :
    numerator / denominator * rate ≤ bound ↔ numerator < (bound / rate + 1) * denominator := by
  rw [← Int.le_ediv_iff_mul_le rated, ← Int.lt_add_one_iff, Int.ediv_lt_iff_lt_mul pos]

theorem bonusRate_pos (bonusBps : Nat) : (0 : Int) < 10000 + bonusBps := by omega

theorem le_documentedReward_iff {paid : Int} :
    (paid : ℚ) ≤ documentedReward price bonusBps repayAmount ↔
      paid ≤ wholeReward price bonusBps repayAmount := by
  have scale : (0 : Int) < priceScale * 10000 := by decide
  have documented : documentedReward price bonusBps repayAmount =
      ((repayAmount * price * (10000 + bonusBps) : Int) : ℚ) /
        ((priceScale * 10000 : Int) : ℚ) := by
    unfold documentedReward
    push_cast
    field_simp
  unfold wholeReward
  rw [documented, Int.le_ediv_iff_mul_le scale, le_div_iff₀ (by exact_mod_cast scale)]
  exact_mod_cast Iff.rfl

variable {position : CollateralPosition Address}

theorem reward_le_iff_priced (minted : 0 < position.mintedAmount) :
    min position.collateralAmount (repayAmount * position.collateralAmount /
        position.mintedAmount * (10000 + bonusBps) / 10000) ≤
        wholeReward price bonusBps repayAmount ↔
      Priced price bonusBps repayAmount position := by
  unfold Priced pricedShare
  rw [min_le_iff, ← floor_mul_le_iff minted (bonusRate_pos bonusBps)]
  omega

theorem reward_le_share_iff (collateral : 0 < position.collateralAmount)
    (repaid : 0 < repayAmount) (part : repayAmount < position.mintedAmount) :
    min position.collateralAmount (repayAmount * position.collateralAmount /
        position.mintedAmount * (10000 + bonusBps) / 10000) ≤
        repayAmount * position.collateralAmount / position.mintedAmount ↔
      Unrewarded bonusBps repayAmount position := by
  have minted : 0 < position.mintedAmount := repaid.trans part
  have below : repayAmount * position.collateralAmount / position.mintedAmount <
      position.collateralAmount := by
    rw [Int.ediv_lt_iff_lt_mul minted, mul_comm]
    exact mul_lt_mul_of_pos_left part collateral
  rw [min_le_iff, or_iff_right (not_le.mpr below), mul_add]
  cases bonusBps with
  | zero => simp [Unrewarded]
  | succ bonus =>
    have rated : (0 : Int) < (bonus + 1 : Nat) := by omega
    have share : repayAmount * position.collateralAmount / position.mintedAmount *
        (bonus + 1 : Nat) ≤ 9999 ↔ repayAmount * position.collateralAmount <
          (9999 / (bonus + 1 : Nat) + 1) * position.mintedAmount :=
      floor_mul_le_iff minted rated
    simp only [Unrewarded, Nat.succ_ne_zero, false_or]
    omega

end Reward

variable {position left : CollateralPosition Address} {price : Int}

theorem ratio_le_ratio_iff (pos : 0 < price) (minted : 0 < position.mintedAmount)
    (remains : 0 < left.mintedAmount) :
    position.ratio price ≤ left.ratio price ↔
      position.collateralAmount * left.mintedAmount ≤
        left.collateralAmount * position.mintedAmount := by
  have scale : (0 : ℚ) < priceScale * price := by
    apply mul_pos
    · norm_num [priceScale]
    · exact_mod_cast pos
  have debt : (0 : ℚ) < position.mintedAmount * price := by exact_mod_cast mul_pos minted pos
  have rest : (0 : ℚ) < left.mintedAmount * price := by exact_mod_cast mul_pos remains pos
  unfold CollateralPosition.ratio
  rw [div_le_div_iff₀ debt rest]
  have scaled (collateral minted : ℚ) : collateral * priceScale * (minted * price) =
      collateral * minted * (priceScale * price) := by ring
  rw [scaled, scaled, mul_le_mul_iff_of_pos_right scale]
  exact_mod_cast Iff.rfl

theorem collateral_pos {bonusBps : Nat} (pos : 0 < price) (minted : 0 < position.mintedAmount)
    (covered : 1 + (bonusBps / 10000 : ℚ) ≤ position.ratio price) :
    0 < position.collateralAmount := by
  by_contra empty
  have debt : (0 : ℚ) ≤ position.mintedAmount * price := by
    exact_mod_cast (mul_pos minted pos).le
  have value : (position.collateralAmount : ℚ) * priceScale ≤ 0 := by
    apply mul_nonpos_of_nonpos_of_nonneg
    · exact_mod_cast not_lt.mp empty
    · norm_num [priceScale]
  have low : position.ratio price ≤ 0 := div_nonpos_of_nonpos_of_nonneg value debt
  have bonus : (0 : ℚ) ≤ bonusBps / 10000 := div_nonneg (Nat.cast_nonneg _) (by norm_num)
  linarith

variable [DecidableEq Address] {tokens : TokenHost Address}

/-- A successful liquidation of a position, at a price and a bonus. -/
structure Liquidation (tokens : TokenHost Address) (contract : Address) (positionId : Nat)
    (price : Int) (bonusBps : Nat) where
  state : State Address
  next : State Address
  env : Env Address contract
  liquidator : Address
  repayAmount : Int
  position : CollateralPosition Address
  token : Address
  stored : state.collateralPositions.get positionId = some position
  priced : getPriceInternal env state position.assetSymbol = .ok price
  bonus : state.liquidationBonus = some bonusBps
  configured : state.collateralToken = some token
  succeeded : liquidate tokens env liquidator positionId repayAmount state = .ok next

namespace Liquidation

variable {positionId : Nat} {price : Int} {bonusBps : Nat}
  (call : Liquidation tokens contract positionId price bonusBps)

/-- What the liquidator receives of the collateral token. -/
def paid : Int :=
  call.next.ledger call.token call.liquidator - call.state.ledger call.token call.liquidator

/-- What the formula promises the liquidator. -/
def documented : ℚ := documentedReward price bonusBps call.repayAmount

/-- Where the collateral covers the debt with the bonus, the call does not lower the ratio of
what is left of the position. -/
def KeepsRatio : Prop :=
  1 + (bonusBps / 10000 : ℚ) ≤ call.position.ratio price →
    ∀ left, call.next.collateralPositions.get positionId = some left →
      call.position.ratio price ≤ left.ratio price

/-- The rounded reward of the call. -/
def reward : Int :=
  min call.position.collateralAmount (call.repayAmount * call.position.collateralAmount /
    call.position.mintedAmount * (10000 + bonusBps) / 10000)

/-- What a successful call found and did. -/
structure Effect : Prop where
  repaid : 0 < call.repayAmount
  bounded : call.repayAmount ≤ call.position.mintedAmount
  collateral : 0 ≤ call.position.collateralAmount
  price_pos : 0 < price
  paid_eq : call.paid = call.reward
  left_eq : ∀ left, call.next.collateralPositions.get positionId = some left ↔
    call.repayAmount < call.position.mintedAmount ∧
      left = { call.position with
        mintedAmount := call.position.mintedAmount - call.repayAmount
        collateralAmount := call.position.collateralAmount - call.reward
        lastUpdated := call.env.timestamp }

theorem effect : call.Effect := by
  have ran := call.succeeded
  simp only [liquidate, State.getCollateralPosition, State.getCollateralToken,
    State.getLiquidationBonus, call_ok, arith_ok, call.stored, call.priced, call.bonus,
    call.configured, Option.some.injEq, Except.ok.injEq, exists_eq_left'] at ran
  obtain ⟨signed, repaid, _, -, -, bound, _, eq, _, paid, -, -, _, -, -,
    wrote⟩ := ran
  have minted : 0 < call.position.mintedAmount := by omega
  have collateral : 0 ≤ call.position.collateralAmount :=
    (tokens.pay_nonneg paid).trans (calculateLiquidationReward_le eq)
  obtain rfl := calculateLiquidationReward_eq collateral minted eq
  refine ⟨repaid, bound, collateral, ?_, ?_, fun left => ?_⟩
  · have read := call.priced
    simp only [getPriceInternal, call_ok] at read
    obtain ⟨_, -, _, -, -, -, pos, -, rfl⟩ := read
    exact pos
  · have received := tokens.pay_received paid (call.env.ne_contract signed)
    unfold Liquidation.paid
    rw [← wrote]
    exact sub_eq_of_eq_add' received
  · rw [← wrote]
    change (call.state.writeBack _ _).collateralPositions.get positionId = some left ↔ _
    rw [writeBack_collateral, FiniteMap.get_put, if_pos rfl]
    split
    · next closed =>
      have whole : ¬ call.repayAmount < call.position.mintedAmount := by
        dsimp only at closed
        omega
      simp [whole]
    · next remains =>
      have part : call.repayAmount < call.position.mintedAmount := by
        dsimp only at remains
        omega
      simp only [Option.some.injEq, part, true_and]
      exact eq_comm

theorem paid_le_documented_iff :
    (call.paid : ℚ) ≤ call.documented ↔ Priced price bonusBps call.repayAmount call.position := by
  have effect := call.effect
  have minted := effect.repaid.trans_le effect.bounded
  rw [documented, le_documentedReward_iff, effect.paid_eq, reward, reward_le_iff_priced minted]

theorem keepsRatio_iff :
    call.KeepsRatio ↔ (call.repayAmount < call.position.mintedAmount →
      1 + (bonusBps / 10000 : ℚ) ≤ call.position.ratio price →
        Unrewarded bonusBps call.repayAmount call.position) := by
  have effect := call.effect
  have minted := effect.repaid.trans_le effect.bounded
  unfold KeepsRatio
  simp only [effect.left_eq]
  constructor
  · intro keeps part covered
    have kept := keeps covered _ ⟨part, rfl⟩
    rw [ratio_le_ratio_iff effect.price_pos minted (Int.sub_pos_of_lt part)] at kept
    have collateral := collateral_pos effect.price_pos minted covered
    rw [← reward_le_share_iff collateral effect.repaid part, Int.le_ediv_iff_mul_le minted]
    change call.reward * _ ≤ _
    linarith
  · rintro unrewarded covered _ ⟨part, rfl⟩
    rw [ratio_le_ratio_iff effect.price_pos minted (Int.sub_pos_of_lt part)]
    have collateral := collateral_pos effect.price_pos minted covered
    have share := (reward_le_share_iff collateral effect.repaid part).mpr (unrewarded part covered)
    rw [Int.le_ediv_iff_mul_le minted] at share
    change call.reward * _ ≤ _ at share
    linarith

theorem fair_iff :
    Fair price bonusBps call.repayAmount call.position ↔
      (call.paid : ℚ) ≤ call.documented ∧ call.KeepsRatio := by
  rw [call.paid_le_documented_iff, call.keepsRatio_iff, Fair]

end Liquidation

/-- Over the calls of a series, and of every part of it, the liquidators receive at most what the
formula promises and no call lowers the ratio of a covered position, exactly when every call is
fair. -/
theorem liquidation_value_iff {positionId : Nat} {price : Int} {bonusBps : Nat}
    (series : List (Liquidation tokens contract positionId price bonusBps)) :
    ((∀ part, part <:+: series →
        (((part.map Liquidation.paid).sum : Int) : ℚ) ≤ (part.map Liquidation.documented).sum) ∧
      ∀ call ∈ series, call.KeepsRatio) ↔
      ∀ call ∈ series, Fair price bonusBps call.repayAmount call.position := by
  simp only [Liquidation.fair_iff]
  constructor
  · intro ⟨bounded, keeps⟩ call mem
    have single := bounded [call] ((List.singleton_infix_iff _ _).mpr mem)
    simp only [List.map_cons, List.map_nil, List.sum_singleton] at single
    exact ⟨single, keeps call mem⟩
  · intro fair
    refine ⟨fun part within => ?_, fun call mem => (fair call mem).2⟩
    have bounded : ∀ call ∈ part, (call.paid : ℚ) ≤ call.documented :=
      fun call mem => (fair call (within.subset mem)).1
    rw [Int.cast_list_sum, List.map_map]
    exact List.sum_le_sum bounded

/-- Account `2` mints a million units against one and a half, and the price rises by a quarter. -/
def dearRun : List (Env Nat 0 × Operation Nat) :=
  [(signed, .initializeAssets 1 1 9 15000 12000 500 100),
    (signed, .registerSyntheticAsset "GOLD" "Gold" 7 100000000),
    (signed, .mintSynthetic 2 "GOLD" 1500000 1000000),
    (signed, .updatePrice "GOLD" 120000000 100), (signed, .updatePrice "GOLD" 125000000 100)]

def dearState : State Nat := (machine standardHost 0).run { ledger := fundedLedger } dearRun

/-- Account `3` repays half of the debt. -/
def dearCall : Env Nat 0 × Operation Nat := (signed, .liquidate 3 1 500000)

theorem dearCall_succeeds : (machine standardHost 0).exec dearState dearCall =
    .ok ((machine standardHost 0).apply dearState dearCall) := by
  apply ((machine standardHost 0).apply_cases dearState dearCall).resolve_right
  intro same
  have held := congrArg (fun state => state.ledger 9 3) same
  exact absurd held (by decide)

def dearLiquidation : Liquidation (standardHost : TokenHost Nat) 0 1 125000000 500 where
  state := dearState
  next := (machine standardHost 0).apply dearState dearCall
  env := signed
  liquidator := 3
  repayAmount := 500000
  position :=
    { user := 2, assetSymbol := "GOLD", collateralAmount := 1500000, mintedAmount := 1000000,
      positionId := 1, createdAt := 0, lastUpdated := 0 }
  token := 9
  stored := rfl
  priced := by decide
  bonus := rfl
  configured := rfl
  succeeded := by
    have executed := dearCall_succeeds
    exact executed

/-- The liquidator receives `787500` for a debt that is worth `656250` with the bonus, and the
ratio of the position falls from 120% to 114%. -/
theorem dear_liquidation_strips :
    dearLiquidation.paid = 787500 ∧ dearLiquidation.documented = 656250 ∧
      ¬ (∀ series : List (Liquidation (standardHost : TokenHost Nat) 0 1 125000000 500),
        ((series.map Liquidation.paid).sum : ℚ) ≤ (series.map Liquidation.documented).sum) ∧
      ¬ dearLiquidation.KeepsRatio := by
  have paid : dearLiquidation.paid = 787500 := rfl
  have documented : dearLiquidation.documented = 656250 := by
    norm_num [Liquidation.documented, documentedReward, dearLiquidation, priceScale]
  refine ⟨paid, documented, fun bounded => ?_, fun keeps => ?_⟩
  · have single := bounded [dearLiquidation]
    norm_num [paid, documented] at single
  · have left : dearLiquidation.next.collateralPositions.get 1 = some
        { user := 2, assetSymbol := "GOLD", collateralAmount := 712500, mintedAmount := 500000,
          positionId := 1, createdAt := 0, lastUpdated := 0 } := by decide
    have kept := keeps ?_ _ left
    · norm_num [CollateralPosition.ratio, dearLiquidation, priceScale] at kept
    · norm_num [CollateralPosition.ratio, dearLiquidation, priceScale]

end SorobanPlayground.SyntheticAssets
