import SorobanPlayground.Perpetuals.FundingCharges
import SorobanPlayground.Perpetuals.Reserves

/-! # What a settlement takes from one side and gives to the other

Each open position pays or receives on its own size. What the payers lose the
receivers gain only where both sides hold the same size.
-/

namespace SorobanPlayground.Perpetuals

open FiniteMap

variable {Address : Type} {contract : Address}

def Position.openCollateral (position : Position Address) : Int :=
  if position.status = .active then position.collateral else 0

/-- The collateral of all open positions, added up. -/
def State.openCollateral (state : State Address) : Int :=
  state.positions.total fun _ position => position.openCollateral

/-- What an open position is to pay at a rate before rounding, in ten-thousandths. -/
def Position.exactCharge (rateBps : Int) (position : Position Address) : Int :=
  if position.status = .active then position.bears (position.size * rateBps) else 0

/-- What rounding drops from the payments, added up, in ten-thousandths: the payers keep their
parts and the receivers miss theirs, less than a unit each. -/
def State.roundedOff (state : State Address) (rateBps : Int) : Int :=
  state.positions.total fun _ position => (position.exactCharge rateBps).tmod 10000

/-- What saturation keeps from being taken or given at a rate, added up. -/
def State.withheld (state : State Address) (rateBps : Int) : Int :=
  state.positions.total fun _ position => if position.status = .active then
    saturationLoss (position.collateral - settlementTerm position rateBps) else 0

/-- A settlement leaves the collateral of the open positions as it was, up to rounding. -/
def ZeroSum (state next : State Address) (rateBps : Int) : Prop :=
  10000 * (next.openCollateral - state.openCollateral) = state.roundedOff rateBps

theorem settlementTerm_eq (position : Position Address) (rateBps : Int) :
    settlementTerm position rateBps = (position.bears (position.size * rateBps)).tdiv 10000 := by
  have down : (-(position.size * rateBps)).tdiv 10000 = -(position.size * rateBps).tdiv 10000 :=
    Int.neg_tdiv _ _
  unfold settlementTerm Position.bears
  rcases lt_or_ge 0 rateBps with pos | negative
  · rw [decide_eq_true pos, Int.natAbs_of_nonneg pos.le]
    split
    · rfl
    · exact down.symm
  · have size : (rateBps.natAbs : Int) = -rateBps := by omega
    rw [decide_eq_false negative.not_gt, size, mul_neg, down]
    cases position.isLong <;> simp

theorem exactCharge_eq (position : Position Address) (rateBps : Int) :
    position.exactCharge rateBps =
      rateBps * position.openSize true - rateBps * position.openSize false := by
  unfold Position.exactCharge Position.bears Position.openSize
  by_cases active : position.status = .active
  · cases side : position.isLong <;> simp [active, mul_comm]
  · simp [active]

theorem openCollateral_settled (position : Position Address) (rateBps : Int) :
    10000 * (position.settled rateBps).openCollateral =
      10000 * position.openCollateral - position.exactCharge rateBps +
        (position.exactCharge rateBps).tmod 10000 +
          10000 * if position.status = .active then
            saturationLoss (position.collateral - settlementTerm position rateBps) else 0 := by
  by_cases active : position.status = .active
  · have kept : (position.settled rateBps).openCollateral =
        saturateI128 (position.collateral - settlementTerm position rateBps) := by
      rw [Position.settled_of_active active, settledCollateral_eq]
      exact if_pos active
    have parts := Int.mul_tdiv_add_tmod (position.exactCharge rateBps) 10000
    have charged : position.exactCharge rateBps = position.bears (position.size * rateBps) :=
      if_pos active
    have own : position.openCollateral = position.collateral := if_pos active
    rw [kept, if_pos active, own, saturationLoss]
    have term := settlementTerm_eq position rateBps
    rw [← charged] at term
    omega
  · have same : position.settled rateBps = position := if_neg active
    have nothing : position.exactCharge rateBps = 0 := if_neg active
    rw [same, nothing, if_neg active, Int.zero_tmod, sub_zero, add_zero, mul_zero, add_zero]

theorem zeroSum_iff {state next : State Address} {rateBps : Int}
    (settled : ∀ id, next.positions.get id = (state.positions.get id).map (·.settled rateBps)) :
    ZeroSum state next rateBps ↔
      rateBps * (state.openInterest true - state.openInterest false) =
        10000 * state.withheld rateBps := by
  have read : next.openCollateral = state.positions.total
      fun _ position => (position.settled rateBps).openCollateral := by
    apply total_of_same
    intro id
    rw [settled]
    cases state.positions.get id <;> rfl
  have balance : state.positions.total
        (fun _ position => 10000 * (position.settled rateBps).openCollateral) =
      state.positions.total fun _ position =>
        10000 * position.openCollateral - (rateBps * position.openSize true -
          rateBps * position.openSize false) + (position.exactCharge rateBps).tmod 10000 +
          10000 * if position.status = .active then
            saturationLoss (position.collateral - settlementTerm position rateBps) else 0 :=
    total_congr _ fun _ position _ => by rw [openCollateral_settled, ← exactCharge_eq]
  simp only [total_add, total_sub, total_mul_left] at balance
  unfold ZeroSum State.roundedOff State.withheld State.openInterest
  rw [read, mul_sub, mul_sub]
  unfold State.openCollateral
  constructor
  · intro zeroSum
    linarith
  · intro excess
    linarith

theorem withheld_eq_zero {state : State Address} {rateBps : Int}
    (inRange : ∀ id position, state.positions.get id = some position →
      position.status = .active →
      InI128 (position.collateral - settlementTerm position rateBps)) :
    state.withheld rateBps = 0 := by
  refine total_eq_zero _ fun id position got => ?_
  split
  · next active =>
    rw [saturationLoss, saturateI128_of_mem (inRange id position got active), sub_self]
  · rfl

variable [DecidableEq Address]

/-- In every run, a settlement leaves the collateral of the open positions as it was, up to
rounding, if and only if what the larger side pays or receives on its excess is what saturation
withholds. Where no collateral leaves its range, the rate is zero or both sides are equally
large. -/
theorem zero_sum_iff_interest_even {env : Env Address contract} {settlement : FundingSettlement}
    {next : State Address} (calls : List (Env Address contract × Operation Address))
    (settled : settleFunding env ((machine contract).run {} calls) = .ok (settlement, next)) :
    (ZeroSum ((machine contract).run {} calls) next settlement.rateBps ↔
      settlement.rateBps * (((machine contract).run {} calls).openInterest true -
        ((machine contract).run {} calls).openInterest false) =
          10000 * ((machine contract).run {} calls).withheld settlement.rateBps) ∧
    (SettlesInRange ((machine contract).run {} calls) (env, .settleFunding) →
      (ZeroSum ((machine contract).run {} calls) next settlement.rateBps ↔
        settlement.rateBps = 0 ∨ ((machine contract).run {} calls).openInterest true =
          ((machine contract).run {} calls).openInterest false)) := by
  have books : Books ((machine contract).run {} calls) := by
    refine run_invariant (fun state call next books ran => ?_) books_empty calls
    exact books_effect books (dispatch_effect ran)
  simp only [settleFunding, State.getFunding, call_ok, arith_ok] at settled
  obtain ⟨-, -, -, -, funding, got, -, -, ⟨_, _⟩, loop, rfl, rfl⟩ := settled
  have written := books.settled_get (settle_loop_get List.nodup_range' loop)
  refine ⟨zeroSum_iff written, fun inRange => Iff.trans (zeroSum_iff written) ?_⟩
  rw [withheld_eq_zero fun id position => inRange rfl funding id position got, mul_zero,
    mul_eq_zero, sub_eq_zero]

/-- A lone long, whose rate was updated. -/
def ratedLong : State Nat := (machine 0).run {} (longSettled.take 3)

theorem settleFunding_ratedLong : ∃ settlement next,
    settleFunding (signedAt 28800) ratedLong = .ok (settlement, next) ∧
      settlement.rateBps = 500 ∧ next.openCollateral = 995000 := by
  have settles : ((settleFunding (signedAt 28800) ratedLong).map fun left =>
      (left.1.rateBps, left.2.openCollateral)).toOption = some (500, 995000) := by decide +kernel
  cases result : settleFunding (signedAt 28800) ratedLong with
  | error =>
    rw [result] at settles
    cases settles
  | ok left =>
    rw [result] at settles
    obtain ⟨rate, kept⟩ := Prod.mk.inj (Option.some.inj settles)
    exact ⟨left.1, left.2, rfl, rate, kept⟩

theorem lone_long_pays_nobody : ∃ settlement next,
    settleFunding (signedAt 28800) ratedLong = .ok (settlement, next) ∧
      ratedLong.openCollateral = 1000000 ∧ next.openCollateral = 995000 ∧
      ¬ ZeroSum ratedLong next settlement.rateBps := by
  obtain ⟨settlement, next, settled, rate, after⟩ := settleFunding_ratedLong
  have before : ratedLong.openCollateral = 1000000 := by decide +kernel
  have rounded : ratedLong.roundedOff 500 = 0 := by decide +kernel
  refine ⟨settlement, next, settled, before, after, ?_⟩
  rw [ZeroSum, rate, before, after, rounded]
  decide

theorem zero_sum_iff_interest_even_long : ∃ settlement next,
    settleFunding (signedAt 28800) ratedLong = .ok (settlement, next) ∧
      (ZeroSum ratedLong next settlement.rateBps ↔ settlement.rateBps *
        (ratedLong.openInterest true - ratedLong.openInterest false) =
          10000 * ratedLong.withheld settlement.rateBps) := by
  obtain ⟨settlement, next, settled, -⟩ := settleFunding_ratedLong
  exact ⟨settlement, next, settled, (zero_sum_iff_interest_even _ settled).1⟩

end SorobanPlayground.Perpetuals
