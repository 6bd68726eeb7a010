import SorobanPlayground.FractionalShares.Books

/-! # Tokenized real estate

Properties whose shares investors buy, transfer and draw rent on. The admin lists the
properties and deposits the rent. Every successful call is a step of each property's
books.
-/

namespace SorobanPlayground.RealEstate

open FractionalShares

variable {Address : Type} [DecidableEq Address] {contract : Address}

section

inductive Error where
  | alreadyInitialized
  | notInitialized
  | unauthorized
  | propertyNotFound
  | noShares
  | zeroShares
  | insufficientShares
  | exceedsTotalSupply
  | emptyName
  | zeroTotalShares
  | zeroPrice
  | zeroRental
  | nothingToClaim
  | notForSale
  deriving DecidableEq, Repr

structure Property extends Offering where
  pendingRental : Int
  deriving DecidableEq, Repr

structure State (Address : Type) where
  admin : Option Address := none
  propertyCount : Nat := 0
  properties : FiniteMap Nat Property := ∅
  ownerships : Holdings Address := ∅

variable (state : State Address)

def assertInitialized : Outcome Error Unit :=
  ensure (state.admin.isSome = true) .notInitialized

def getProperty (propertyId : Nat) : Outcome Error Property :=
  orError (state.properties.get propertyId) .propertyNotFound

def assertAdmin (env : Env Address contract) (caller : Address) : Outcome Error Unit := do
  assertInitialized state
  requireAuth env caller
  let admin ← orError state.admin .notInitialized
  ensure (caller = admin) .unauthorized

variable (env : Env Address contract)

def initializeEstate (admin : Address) (state : State Address) : Outcome Error (State Address) := do
  ensure (¬ state.admin.isSome = true) .alreadyInitialized
  requireAuth env admin
  return { state with
    admin := some admin
    propertyCount := 0 }

def listProperty (admin : Address) (name : String) (totalShares : Nat) (pricePerShare : Int)
    (state : State Address) : Outcome Error (Nat × State Address) := do
  assertAdmin state env admin
  let offering ← offer .emptyName .zeroTotalShares .zeroPrice name totalShares pricePerShare
  let id ← inUnsigned u32Max .trap (state.propertyCount + 1)
  return (id, { state with
    properties := state.properties.set id { offering with pendingRental := 0 }
    propertyCount := id })

def delistProperty (admin : Address) (propertyId : Nat) (state : State Address) :
    Outcome Error (State Address) := do
  assertAdmin state env admin
  let property ← getProperty state propertyId
  return { state with
    properties := state.properties.set propertyId { property with isActive := false } }

def depositRental (admin : Address) (propertyId : Nat) (amount : Int) (state : State Address) :
    Outcome Error (State Address) := do
  assertAdmin state env admin
  ensure (¬ amount ≤ 0) .zeroRental
  let property ← getProperty state propertyId
  let pendingRental ← checkedAdd .trap property.pendingRental amount
  let offering ← depositIncome amount property.toOffering
  return { state with
    properties := state.properties.set propertyId { offering with pendingRental } }

/-- Buy shares of a listed property; returns the cost. -/
def buyShares (investor : Address) (propertyId shares : Nat) (state : State Address) :
    Outcome Error (Int × State Address) := do
  assertInitialized state
  requireAuth env investor
  ensure (shares ≠ 0) .zeroShares
  let property ← getProperty state propertyId
  ensure (property.isActive = true) .notForSale
  let (cost, offering, ownerships) ←
    buyFrom propertyId property.toOffering state.ownerships .exceedsTotalSupply investor shares
  return (cost, { state with
    ownerships
    properties := state.properties.set propertyId { property with toOffering := offering } })

def transferShares (source destination : Address) (propertyId shares : Nat) (state : State Address)
    :
    Outcome Error (State Address) := do
  assertInitialized state
  requireAuth env source
  ensure (shares ≠ 0) .zeroShares
  let property ← getProperty state propertyId
  let ownerships ← transferBetween propertyId property.toOffering state.ownerships .noShares
    .insufficientShares source destination shares
  return { state with ownerships }

def claimRental (investor : Address) (propertyId : Nat) (state : State Address) :
    Outcome Error (Int × State Address) := do
  assertInitialized state
  requireAuth env investor
  let property ← getProperty state propertyId
  let (claimable, ownerships) ←
    claimFor propertyId property.toOffering state.ownerships .noShares .nothingToClaim investor
  return (claimable, { state with ownerships })

/-- What an investor can claim. -/
def claimableRental (investor : Address) (propertyId : Nat) (state : State Address) :
    Outcome Error Int := do
  let property ← getProperty state propertyId
  let ownership ← orError (state.ownerships.get (propertyId, investor)) .noShares
  computeClaimable ownership property.toOffering

inductive Operation (Address : Type) where
  | initializeEstate (admin : Address)
  | listProperty (admin : Address) (name : String) (totalShares : Nat) (pricePerShare : Int)
  | delistProperty (admin : Address) (propertyId : Nat)
  | depositRental (admin : Address) (propertyId : Nat) (amount : Int)
  | buyShares (investor : Address) (propertyId shares : Nat)
  | transferShares (source destination : Address) (propertyId shares : Nat)
  | claimRental (investor : Address) (propertyId : Nat)

def dispatch (state : State Address) (call : Env Address contract × Operation Address) :
    Outcome Error (State Address) :=
  match call.2 with
  | .initializeEstate admin => initializeEstate call.1 admin state
  | .listProperty admin name totalShares pricePerShare =>
      Prod.snd <$> listProperty call.1 admin name totalShares pricePerShare state
  | .delistProperty admin propertyId => delistProperty call.1 admin propertyId state
  | .depositRental admin propertyId amount => depositRental call.1 admin propertyId amount state
  | .buyShares investor propertyId shares =>
      Prod.snd <$> buyShares call.1 investor propertyId shares state
  | .transferShares source destination propertyId shares =>
      transferShares call.1 source destination propertyId shares state
  | .claimRental investor propertyId =>
      Prod.snd <$> claimRental call.1 investor propertyId state

def machine (contract : Address) :
    CallMachine (State Address) (Env Address contract × Operation Address) (Failure Error) where
  exec := dispatch

end

def bookOf (propertyId : Nat) (state : State Address) : Book Address where
  offering := (state.properties.get propertyId).map Property.toOffering
  holdings := state.ownerships

/-- What a call does for a property; a claim does so by the amount it returns. -/
def eventOf (propertyId : Nat) (state : State Address)
    (call : Env Address contract × Operation Address) : Event Address :=
  match call.2 with
  | .depositRental _ target amount => if target = propertyId then .deposited amount else .quiet
  | .buyShares investor target _ => if target = propertyId then .bought investor else .quiet
  | .transferShares source destination target shares =>
      if target = propertyId then .transferred source destination shares else .quiet
  | .claimRental investor target =>
      match claimRental call.1 investor target state with
      | .ok (claimed, _) => if target = propertyId then .claimed investor claimed else .quiet
      | .error _ => .quiet
  | _ => .quiet

section

omit [DecidableEq Address]

/-- The properties are numbered up to the count, and there are none before the contract has an
admin. -/
structure Numbered (state : State Address) : Prop where
  counted : ∀ propertyId property, state.properties.get propertyId = some property →
    propertyId ≤ state.propertyCount
  unset : state.admin = none → ∀ propertyId, state.properties.get propertyId = none

theorem numbered_start : Numbered ({} : State Address) where
  counted propertyId property got := by cases (get_empty propertyId).symm.trans got
  unset _ propertyId := get_empty propertyId

end

variable {env : Env Address contract} {state next : State Address} {propertyId : Nat} {target : Nat}
  {ownerships : Holdings Address}

section

omit [DecidableEq Address]

theorem Numbered.set (numbered : Numbered state) {old new : Property}
    (got : state.properties.get target = some old) :
    Numbered { state with
      properties := state.properties.set target new
      ownerships } where
  counted := forall_set numbered.counted (numbered.counted target old got)
  unset unset := by cases (numbered.unset unset target).symm.trans got

theorem bookOf_set (state : State Address) (target : Nat) (new : Property)
    (ownerships : Holdings Address) :
    bookOf propertyId { state with
      properties := state.properties.set target new
      ownerships } = {
        offering :=
          if propertyId = target then some new.toOffering
          else (state.properties.get propertyId).map Property.toOffering
        holdings := ownerships } := by
  unfold bookOf
  rw [get_set]
  split <;> rfl

end

theorem step_of_write {old new : Property}
    {event : Event Address} (got : state.properties.get target = some old)
    (step : Step target { offering := some old.toOffering, holdings := state.ownerships } event
      { offering := some new.toOffering, holdings := ownerships }) (wrote : event ≠ .quiet) :
    Step propertyId (bookOf propertyId state) (if target = propertyId then event else .quiet)
      (bookOf propertyId { state with
        properties := state.properties.set target new
        ownerships }) := by
  rw [bookOf_set]
  refine step.write wrote fun same => ?_
  rw [same, got]
  rfl

omit [DecidableEq Address] in
theorem set_ownerships {property : Property}
    (got : state.properties.get target = some property) (ownerships : Holdings Address) :
    { state with ownerships } = { state with
      properties := state.properties.set target property
      ownerships } := by
  rw [set_of_get got]

section

variable (numbered : Numbered state)
include numbered

variable {admin : Address}

theorem initializeEstate_step (ran : initializeEstate env admin state = .ok next) :
    Numbered next ∧ Step propertyId (bookOf propertyId state) .quiet (bookOf propertyId next) := by
  simp only [initializeEstate, call_ok] at ran
  obtain ⟨unset, -, rfl⟩ := ran
  have gone := numbered.unset (Option.not_isSome_iff_eq_none.mp unset)
  refine ⟨⟨fun id property got => ?_, nofun⟩, Step.idle _⟩
  cases (gone id).symm.trans got

theorem listProperty_step {name : String} {totalShares : Nat} {pricePerShare : Int}
    (ran : (Prod.snd <$> listProperty env admin name totalShares pricePerShare state) = .ok next) :
    Numbered next ∧ Step propertyId (bookOf propertyId state) .quiet (bookOf propertyId next) := by
  simp only [listProperty, assertAdmin, assertInitialized, map_eq_ok, call_ok, arith_ok] at ran
  obtain ⟨_, ⟨⟨-, -, _, admin, -⟩, offering, offered, -, rfl⟩, rfl⟩ := ran
  have fresh : state.properties.get (state.propertyCount + 1) = none := by
    cases got : state.properties.get (state.propertyCount + 1) with
    | none => rfl
    | some old => exact absurd (numbered.counted _ old got) (Nat.not_succ_le_self _)
  refine ⟨⟨?_, fun unset => ?_⟩, ?_⟩
  · refine forall_set (fun id old got => ?_) le_rfl
    exact (numbered.counted id old got).trans (Nat.le_succ _)
  · cases unset.symm.trans admin
  · have created : bookOf propertyId _ = _ := bookOf_set state (state.propertyCount + 1)
      { offering with pendingRental := 0 } state.ownerships
    refine created.symm ▸ Step.created (fun same => ?_) (offer_eq_ok offered)
    rw [same, fresh]
    rfl

theorem delistProperty_step (ran : delistProperty env admin target state = .ok next) :
    Numbered next ∧ Step propertyId (bookOf propertyId state) .quiet (bookOf propertyId next) := by
  simp only [delistProperty, getProperty, call_ok] at ran
  obtain ⟨_, -, _, got, rfl⟩ := ran
  refine ⟨numbered.set got, ?_⟩
  rw [bookOf_set]
  refine Step.toggled (fun same => ?_) false
  rw [same, got]
  rfl

theorem depositRental_step
    {amount : Int} (ran : depositRental env admin target amount state = .ok next) :
    Numbered next ∧
      Step propertyId (bookOf propertyId state)
        (if target = propertyId then .deposited amount else .quiet) (bookOf propertyId next) := by
  simp only [depositRental, getProperty, call_ok, arith_ok] at ran
  obtain ⟨_, -, pos, property, got, -, _, deposited, rfl⟩ := ran
  obtain ⟨fits, rfl⟩ := depositIncome_eq_ok deposited
  refine ⟨numbered.set got, step_of_write got ?_ (by simp)⟩
  exact Step.deposited amount property.toOffering rfl (not_le.mp pos) fits

theorem buyShares_step {investor : Address} {target shares : Nat}
    (ran : (Prod.snd <$> buyShares env investor target shares state) = .ok next) :
    Numbered next ∧
      Step propertyId (bookOf propertyId state)
        (if target = propertyId then .bought investor else .quiet) (bookOf propertyId next) := by
  simp only [buyShares, getProperty, map_eq_ok, call_ok] at ran
  obtain ⟨_, ⟨_, -, -, -, _, got, -, _, bought, rfl⟩, rfl⟩ := ran
  exact ⟨numbered.set got, step_of_write got (Step.of_buyFrom bought) nofun⟩

theorem transferShares_step {source destination : Address} {target shares : Nat}
    (ran : transferShares env source destination target shares state = .ok next) :
    Numbered next ∧
      Step propertyId (bookOf propertyId state)
        (if target = propertyId then .transferred source destination shares else .quiet)
        (bookOf propertyId next) := by
  simp only [transferShares, getProperty, call_ok] at ran
  obtain ⟨_, -, -, nonzero, _, got, _, transferred, rfl⟩ := ran
  rw [set_ownerships got]
  exact ⟨numbered.set got,
    step_of_write got (Step.of_transferBetween nonzero transferred) (by simp)⟩

theorem claimRental_step {investor : Address}
    {claimed : Int} (ran : claimRental env investor target state = .ok (claimed, next)) :
    Numbered next ∧
      Step propertyId (bookOf propertyId state)
        (if target = propertyId then .claimed investor claimed else .quiet)
        (bookOf propertyId next) := by
  simp only [claimRental, getProperty, call_ok] at ran
  obtain ⟨_, -, -, _, got, _, paid, rfl, rfl⟩ := ran
  rw [set_ownerships got]
  exact ⟨numbered.set got, step_of_write got (Step.of_claimFor paid) nofun⟩

theorem dispatch_step {call : Env Address contract × Operation Address}
    (ran : dispatch state call = .ok next) :
    Numbered next ∧
      Step propertyId (bookOf propertyId state) (eventOf propertyId state call)
        (bookOf propertyId next) := by
  obtain ⟨_, op⟩ := call
  cases op with
  | initializeEstate => exact initializeEstate_step numbered ran
  | listProperty => exact listProperty_step numbered ran
  | delistProperty => exact delistProperty_step numbered ran
  | depositRental => exact depositRental_step numbered ran
  | buyShares => exact buyShares_step numbered ran
  | transferShares =>
    exact transferShares_step numbered ran
  | claimRental =>
    obtain ⟨⟨_, _⟩, claim, rfl⟩ := map_eq_ok.mp ran
    unfold eventOf
    dsimp only
    rw [claim]
    exact claimRental_step numbered claim

end

theorem payable_claimableRental (propertyId : Nat) (investor : Address) (state : State Address) :
    payable (claimableRental investor propertyId state) =
      (bookOf propertyId state).claimable propertyId investor := by
  unfold claimableRental getProperty bookOf Book.claimable
  cases state.properties.get propertyId with
  | none => rfl
  | some =>
    cases held : state.ownerships.get (propertyId, investor) with
    | none => rfl
    | some holding => exact payable_computeClaimable holding _

def issuer (contract : Address) :
    Issuer (State Address) (Env Address contract × Operation Address) (Failure Error) Address where
  machine := machine contract
  start := {}
  bookOf := bookOf
  eventOf := eventOf
  claimable propertyId investor state := payable (claimableRental investor propertyId state)
  Numbered := Numbered
  numbered := numbered_start
  unopened propertyId := by
    unfold bookOf
    rw [get_empty]
    rfl
  claimable_eq := payable_claimableRental
  keeps _ _ _ numbered executed := (@dispatch_step _ _ _ _ _ 0 numbered _ executed).1
  step _ _ _ _ numbered executed := (dispatch_step numbered executed).2

end SorobanPlayground.RealEstate
