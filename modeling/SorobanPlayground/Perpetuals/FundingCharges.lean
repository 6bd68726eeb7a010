import SorobanPlayground.Library.Rounding
import SorobanPlayground.Perpetuals.Effects

/-! # What positions pay for funding

A settlement takes the funding of a period from the paying side's collateral, or
adds it on the other side. The accumulator advances at settlements too, and at
every update of the rate besides, and a closing position is charged for it once
more.
-/

namespace SorobanPlayground.Perpetuals

variable {Address : Type} {contract : Address}

/-- A payment as the position's side bears it: longs pay it, shorts receive it. -/
def Position.bears (position : Position Address) (payment : Int) : Int :=
  if position.isLong then payment else -payment

/-- What a settlement at a rate is to take from a position. -/
def settlementTerm (position : Position Address) (rateBps : Int) : Int :=
  if position.isLong = decide (0 < rateBps) then
    (position.size * (rateBps.natAbs : Int)).tdiv 10000
  else -(position.size * (rateBps.natAbs : Int)).tdiv 10000

/-- The funding history of a position: what the settlements were to take while it was open, what
they took of its collateral, and what saturation withheld. -/
structure Charges where
  owed : Int := 0
  paid : Int := 0
  withheld : Int := 0

/-- Saturation keeps this much from being taken. -/
def saturationLoss (value : Int) : Int := saturateI128 value - value

/-- The history of a position after a settlement that left it with a new collateral. -/
def Charges.settle (charges : Charges) (position after : Position Address) (rateBps : Int) :
    Charges where
  owed := charges.owed + settlementTerm position rateBps
  paid := charges.paid + (position.collateral - after.collateral)
  withheld := charges.withheld +
    saturationLoss (position.collateral - settlementTerm position rateBps)

/-- Each successful settlement adds to the histories of the open positions. -/
def followCharges (state : State Address) (call : Env Address contract × Operation Address)
    (next : State Address) (histories : Nat → Charges) : Nat → Charges :=
  match call.2, state.fundingRate with
  | .settleFunding, some funding => fun id =>
      match state.positions.get id, next.positions.get id with
      | some position, some after =>
          if position.status = .active then (histories id).settle position after funding.rateBps
          else histories id
      | _, _ => histories id
  | _, _ => histories

def closingCharge (state : State Address) (id : Nat) (position : Position Address) : Int :=
  position.bears
    ((position.size * (state.fundingAccumulator - state.openAccumulator id)).tdiv 10000000000)

/-- Closing now, a position has paid exactly what the settlements were to take. -/
def ChargedOnce (books : State Address × (Nat → Charges)) (id : Nat)
    (position : Position Address) : Prop :=
  (books.2 id).paid + closingCharge books.1 id position = (books.2 id).owed

/-- No settlement takes a collateral out of range. -/
def SettlesInRange (state : State Address) (call : Env Address contract × Operation Address) :
    Prop :=
  call.2 = .settleFunding → ∀ funding id position, state.fundingRate = some funding →
    state.positions.get id = some position → position.status = .active →
    InI128 (position.collateral - settlementTerm position funding.rateBps)

theorem settledCollateral_eq (position : Position Address) (rateBps : Int) :
    settledCollateral position (decide (0 < rateBps))
        ((position.size * (rateBps.natAbs : Int)).tdiv 10000) =
      saturateI128 (position.collateral - settlementTerm position rateBps) := by
  unfold settledCollateral settlementTerm
  split
  · rfl
  · rw [sub_neg_eq_add]

/-- What was taken and what was withheld add up to what was to be taken. -/
def AddsUp (charges : Charges) : Prop := charges.paid + charges.withheld = charges.owed

variable {position : Position Address}

theorem AddsUp.settle {charges : Charges} (adds : AddsUp charges)
    (active : position.status = .active) (rateBps : Int) :
    AddsUp (charges.settle position (position.settled rateBps) rateBps) := by
  unfold AddsUp Charges.settle saturationLoss at *
  rw [Position.settled_of_active active, settledCollateral_eq]
  dsimp only
  omega

variable [DecidableEq Address] {call : Env Address contract × Operation Address}

theorem followCharges_cases {state next : State Address} (books : Books state)
    (ran : dispatch state call = .ok next) (histories : Nat → Charges) (id : Nat) :
    followCharges state call next histories id = histories id ∨
      ∃ funding position, call.2 = .settleFunding ∧ state.fundingRate = some funding ∧
        state.positions.get id = some position ∧ position.status = .active ∧
        followCharges state call next histories id =
          (histories id).settle position (position.settled funding.rateBps) funding.rateBps := by
  obtain ⟨_, op⟩ := call
  have effect : Effect state op next := dispatch_effect ran
  cases effect with
  | @settled funding updated positions got marked wrote =>
    have reached := books.settled_get wrote id
    unfold followCharges
    rw [got]
    dsimp only
    rw [reached]
    cases found : state.positions.get id with
    | none => exact .inl rfl
    | some position =>
      rw [Option.map_some]
      dsimp only
      split
      · next active => exact .inr ⟨funding, position, rfl, rfl, rfl, active, rfl⟩
      · exact .inl rfl
  | _ => exact .inl rfl

/-- The contract beside the funding histories of its positions. -/
def chargedMachine (contract : Address) :
    CallMachine (State Address × (Nat → Charges)) (Env Address contract × Operation Address)
      (Failure Error) :=
  (machine contract).withGhost followCharges

/-- The state and the histories after a run. -/
def chargedRun (contract : Address) (calls : List (Env Address contract × Operation Address)) :
    State Address × (Nat → Charges) :=
  (chargedMachine contract).run ({}, fun _ => {}) calls

/-- Sound books, and histories that add up. -/
structure Accounted (charged : State Address × (Nat → Charges)) : Prop where
  books : Books charged.1
  adds : ∀ id, AddsUp (charged.2 id)

theorem accounted_step {charged next : State Address × (Nat → Charges)}
    (accounted : Accounted charged)
    (ran : (chargedMachine contract).exec charged call = .ok next) : Accounted next := by
  obtain ⟨stepped, followed⟩ := withGhost_exec_eq_ok.mp ran
  have effect : Effect charged.1 call.2 next.1 := dispatch_effect stepped
  refine ⟨books_effect accounted.books effect, fun id => ?_⟩
  rw [followed]
  rcases followCharges_cases accounted.books stepped charged.2 id with
    same | ⟨funding, position, -, -, -, active, settled⟩
  · rw [same]
    exact accounted.adds id
  · rw [settled]
    exact (accounted.adds id).settle active funding.rateBps

omit [DecidableEq Address] in
theorem accounted_empty : Accounted (({}, fun _ => {}) : State Address × (Nat → Charges)) :=
  ⟨books_empty, fun _ => rfl⟩

theorem accounted_run (calls : List (Env Address contract × Operation Address)) :
    Accounted (chargedRun contract calls) :=
  run_invariant (fun _ _ _ accounted ran => accounted_step accounted ran)
    accounted_empty calls

theorem nothing_withheld {calls : List (Env Address contract × Operation Address)}
    (inRange : (machine contract).Meets SettlesInRange {} calls) (id : Nat) :
    ((chargedRun contract calls).2 id).withheld = 0 := by
  have step : ∀ (charged : State Address × (Nat → Charges)) call next,
      (Accounted charged ∧ (charged.2 id).withheld = 0) → SettlesInRange charged.1 call →
      (chargedMachine contract).exec charged call = .ok next →
      Accounted next ∧ (next.2 id).withheld = 0 := by
    rintro charged _ _ ⟨accounted, nothing⟩ fits ran
    refine ⟨accounted_step accounted ran, ?_⟩
    obtain ⟨stepped, followed⟩ := withGhost_exec_eq_ok.mp ran
    rw [followed]
    rcases followCharges_cases accounted.books stepped charged.2 id with
      same | ⟨funding, position, settles, rate, got, active, settled⟩
    · rw [same]
      exact nothing
    · have lossless := saturateI128_of_mem (fits settles funding id position rate got active)
      rw [settled]
      change (charged.2 id).withheld + saturationLoss _ = 0
      rw [nothing, saturationLoss, lossless, zero_add, sub_self]
  have always := always_of_meets step ⟨accounted_empty, rfl⟩ (withGhost_meets.mpr inRange)
  exact always.final.2

omit [DecidableEq Address] in
theorem Position.bears_eq_zero {payment : Int} : position.bears payment = 0 ↔ payment = 0 := by
  unfold Position.bears
  split
  · exact Iff.rfl
  · exact neg_eq_zero

/-- In every run, a position that is closed has paid exactly what the settlements were to take
while it was open if and only if the charge at the close is what saturation has withheld. Where no
settlement leaves the range of a collateral, it is so if and only if the accumulator has moved too
little since the opening to be charged for. -/
theorem charged_once_iff_accumulator_still {env : Env Address contract} {trader : Address}
    {id : Nat} {net : Int} {next : State Address}
    (calls : List (Env Address contract × Operation Address))
    (closed : closePosition env trader id (chargedRun contract calls).1 = .ok (net, next)) :
    ∃ position exitPrice pnl,
      (chargedRun contract calls).1.positions.get id = some position ∧
      positionPnl position exitPrice = .ok pnl ∧
      net = position.collateral + pnl - closingCharge (chargedRun contract calls).1 id position ∧
      (ChargedOnce (chargedRun contract calls) id position ↔
        closingCharge (chargedRun contract calls).1 id position =
          ((chargedRun contract calls).2 id).withheld) ∧
      ((machine contract).Meets SettlesInRange {} calls →
        (ChargedOnce (chargedRun contract calls) id position ↔
          |position.size * ((chargedRun contract calls).1.fundingAccumulator -
            (chargedRun contract calls).1.openAccumulator id)| < 10000000000)) := by
  obtain ⟨position, _, _, exitPrice, pnl, funded, _, closing⟩ :=
    closePosition_closing closed
  have charge : closingCharge (chargedRun contract calls).1 id position =
      position.bears funded := by
    obtain ⟨_, within, scaled⟩ := bind_eq_ok.mp closing.paid
    obtain ⟨-, rfl⟩ := inI64_eq_ok.mp within
    obtain ⟨_, multiplied, truncated⟩ := bind_eq_ok.mp scaled
    obtain ⟨-, rfl⟩ := checkedMul_eq_ok.mp multiplied
    rw [closingCharge, pure_eq_ok.mp truncated]
  have adds := (accounted_run calls).adds id
  have once : ChargedOnce (chargedRun contract calls) id position ↔
      closingCharge (chargedRun contract calls).1 id position =
        ((chargedRun contract calls).2 id).withheld := by
    unfold ChargedOnce AddsUp at *
    omega
  refine ⟨position, exitPrice, pnl, closing.stored, closing.profit, ?_, once, fun inRange => ?_⟩
  · rw [charge]
    exact closing.settlement
  · rw [once, nothing_withheld inRange, closingCharge, Position.bears_eq_zero]
    exact Rounding.tdiv_eq_zero_iff (by decide)

/-- A user opens a long while the pool's price is above the index price. -/
def longAboveIndex : List (Env Nat 0 × Operation Nat) :=
  [(signedAt 0, .initializePerpetuals 1 1000000 1000000 8000000),
    (signedAt 0, .openPosition 2 true 100000 1 1000000)]

/-- The rate is updated, and one period is settled at it. -/
def longSettled : List (Env Nat 0 × Operation Nat) :=
  longAboveIndex ++ [(signedAt 28800, .updateFundingRate), (signedAt 28800, .settleFunding)]

def heldLong (collateral : Int) : Position Nat :=
  { id := 1, trader := 2, isLong := true, size := 100000, leverage := 1, entryPrice := 12345677,
    collateral, status := .active }

/-- The one settlement is to take `5000`, and takes it; the close charges another `10000`, half of
it for the update that anyone can call. -/
theorem funding_charged_again_at_close :
    let opened := chargedRun 0 longAboveIndex
    let updated := chargedRun 0 (longSettled.take 3)
    let charged := chargedRun 0 longSettled
    charged.1.positions.get 1 = some (heldLong 995000) ∧
      (∃ net next, closePosition (signedAt 28800) 2 1 charged.1 = .ok (net, next)) ∧
      (charged.2 1).owed = 5000 ∧ closingCharge charged.1 1 (heldLong 995000) = 10000 ∧
      ¬ ChargedOnce charged 1 (heldLong 995000) ∧
      opened.1.positions.get 1 = some (heldLong 1000000) ∧
      closingCharge opened.1 1 (heldLong 1000000) = 0 ∧
      closingCharge updated.1 1 (heldLong 1000000) = 5000 := by
  have owed : ((chargedRun 0 longSettled).2 1).owed = 5000 := rfl
  have charge : closingCharge (chargedRun 0 longSettled).1 1 (heldLong 995000) = 10000 := rfl
  refine ⟨rfl, ⟨_, _, rfl⟩, owed, charge, fun once => ?_, rfl, rfl, rfl⟩
  cases once

/-- At the close after that settlement. -/
theorem charged_once_iff_accumulator_still_long :
    ∃ net next, closePosition (signedAt 28800) 2 1 (chargedRun 0 longSettled).1 = .ok (net, next) ∧
      ∃ position, (chargedRun 0 longSettled).1.positions.get 1 = some position ∧
        (ChargedOnce (chargedRun 0 longSettled) 1 position ↔
          closingCharge (chargedRun 0 longSettled).1 1 position =
            ((chargedRun 0 longSettled).2 1).withheld) := by
  have closes : ∃ result, closePosition (signedAt 28800) 2 1 (chargedRun 0 longSettled).1 =
      .ok result := ⟨_, rfl⟩
  obtain ⟨⟨net, next⟩, closed⟩ := closes
  obtain ⟨position, -, -, got, -, -, once, -⟩ :=
    charged_once_iff_accumulator_still longSettled closed
  exact ⟨net, next, closed, position, got, once⟩

end SorobanPlayground.Perpetuals
