import SorobanPlayground.FractionalShares.Books

/-! # Tokenized REIT

Trusts whose shares investors buy, transfer and draw dividends on. The admin creates
the trusts, deposits the dividends and may pause the investors' calls. Every
successful call is a step of each trust's books.
-/

namespace SorobanPlayground.TokenizedReit

open FractionalShares

variable {Address : Type} [DecidableEq Address] {contract : Address}

section

inductive Error where
  | alreadyInitialized
  | notInitialized
  | unauthorized
  | trustNotFound
  | noShares
  | zeroShares
  | insufficientShares
  | exceedsTotalSupply
  | emptyName
  | zeroTotalShares
  | zeroPrice
  | zeroDividend
  | nothingToClaim
  | notActive
  | contractPaused
  deriving DecidableEq, Repr

structure State (Address : Type) where
  admin : Option Address := none
  trustCount : Nat := 0
  paused : Bool := false
  trusts : FiniteMap Nat Offering := ∅
  holdings : Holdings Address := ∅

variable (state : State Address)

def assertInitialized : Outcome Error Unit :=
  ensure (state.admin.isSome = true) .notInitialized

def assertNotPaused : Outcome Error Unit := ensure (state.paused = false) .contractPaused

def getTrust (trustId : Nat) : Outcome Error Offering :=
  orError (state.trusts.get trustId) .trustNotFound

def assertAdmin (env : Env Address contract) (caller : Address) : Outcome Error Unit := do
  assertInitialized state
  requireAuth env caller
  let admin ← orError state.admin .notInitialized
  ensure (caller = admin) .unauthorized

variable (env : Env Address contract)

def initializeReit (admin : Address) (state : State Address) : Outcome Error (State Address) := do
  ensure (¬ state.admin.isSome = true) .alreadyInitialized
  requireAuth env admin
  return { state with
    admin := some admin
    trustCount := 0
    paused := false }

def createTrust (admin : Address) (name : String) (totalShares : Nat) (pricePerShare : Int)
    (state : State Address) : Outcome Error (Nat × State Address) := do
  assertAdmin state env admin
  let trust ← offer .emptyName .zeroTotalShares .zeroPrice name totalShares pricePerShare
  let id ← inUnsigned u32Max .trap (state.trustCount + 1)
  return (id, { state with
    trusts := state.trusts.set id trust
    trustCount := id })

def deactivateTrust (admin : Address) (trustId : Nat) (state : State Address) :
    Outcome Error (State Address) := do
  assertAdmin state env admin
  let trust ← getTrust state trustId
  return { state with trusts := state.trusts.set trustId { trust with isActive := false } }

def depositDividends (admin : Address) (trustId : Nat) (amount : Int) (state : State Address) :
    Outcome Error (State Address) := do
  assertAdmin state env admin
  ensure (¬ amount ≤ 0) .zeroDividend
  let trust ← getTrust state trustId
  let trust ← depositIncome amount trust
  return { state with trusts := state.trusts.set trustId trust }

def setPaused (admin : Address) (paused : Bool) (state : State Address) :
    Outcome Error (State Address) := do
  assertAdmin state env admin
  return { state with paused }

/-- Buy shares of an active trust; returns the cost. -/
def buyShares (investor : Address) (trustId shares : Nat) (state : State Address) :
    Outcome Error (Int × State Address) := do
  assertNotPaused state
  assertInitialized state
  requireAuth env investor
  ensure (shares ≠ 0) .zeroShares
  let trust ← getTrust state trustId
  ensure (trust.isActive = true) .notActive
  let (cost, trust, holdings) ←
    buyFrom trustId trust state.holdings .exceedsTotalSupply investor shares
  return (cost, { state with
    holdings
    trusts := state.trusts.set trustId trust })

def transferShares (source destination : Address) (trustId shares : Nat) (state : State Address) :
    Outcome Error (State Address) := do
  assertNotPaused state
  assertInitialized state
  requireAuth env source
  ensure (shares ≠ 0) .zeroShares
  let trust ← getTrust state trustId
  let holdings ← transferBetween trustId trust state.holdings .noShares .insufficientShares source
    destination shares
  return { state with holdings }

def claimDividends (investor : Address) (trustId : Nat) (state : State Address) :
    Outcome Error (Int × State Address) := do
  assertNotPaused state
  assertInitialized state
  requireAuth env investor
  let trust ← getTrust state trustId
  let (claimable, holdings) ←
    claimFor trustId trust state.holdings .noShares .nothingToClaim investor
  return (claimable, { state with holdings })

/-- What an investor can claim. -/
def claimableDividends (investor : Address) (trustId : Nat) (state : State Address) :
    Outcome Error Int := do
  let trust ← getTrust state trustId
  let holding ← orError (state.holdings.get (trustId, investor)) .noShares
  computeClaimable holding trust

inductive Operation (Address : Type) where
  | initializeReit (admin : Address)
  | createTrust (admin : Address) (name : String) (totalShares : Nat) (pricePerShare : Int)
  | deactivateTrust (admin : Address) (trustId : Nat)
  | depositDividends (admin : Address) (trustId : Nat) (amount : Int)
  | setPaused (admin : Address) (paused : Bool)
  | buyShares (investor : Address) (trustId shares : Nat)
  | transferShares (source destination : Address) (trustId shares : Nat)
  | claimDividends (investor : Address) (trustId : Nat)

def dispatch (state : State Address) (call : Env Address contract × Operation Address) :
    Outcome Error (State Address) :=
  match call.2 with
  | .initializeReit admin => initializeReit call.1 admin state
  | .createTrust admin name totalShares pricePerShare =>
      Prod.snd <$> createTrust call.1 admin name totalShares pricePerShare state
  | .deactivateTrust admin trustId => deactivateTrust call.1 admin trustId state
  | .depositDividends admin trustId amount => depositDividends call.1 admin trustId amount state
  | .setPaused admin paused => setPaused call.1 admin paused state
  | .buyShares investor trustId shares =>
      Prod.snd <$> buyShares call.1 investor trustId shares state
  | .transferShares source destination trustId shares =>
      transferShares call.1 source destination trustId shares state
  | .claimDividends investor trustId =>
      Prod.snd <$> claimDividends call.1 investor trustId state

def machine (contract : Address) :
    CallMachine (State Address) (Env Address contract × Operation Address) (Failure Error) where
  exec := dispatch

end

def bookOf (trustId : Nat) (state : State Address) : Book Address where
  offering := state.trusts.get trustId
  holdings := state.holdings

/-- What a call does for a trust; a claim does so by the amount it returns. -/
def eventOf (trustId : Nat) (state : State Address)
    (call : Env Address contract × Operation Address) : Event Address :=
  match call.2 with
  | .depositDividends _ target amount => if target = trustId then .deposited amount else .quiet
  | .buyShares investor target _ => if target = trustId then .bought investor else .quiet
  | .transferShares source destination target shares =>
      if target = trustId then .transferred source destination shares else .quiet
  | .claimDividends investor target =>
      match claimDividends call.1 investor target state with
      | .ok (claimed, _) => if target = trustId then .claimed investor claimed else .quiet
      | .error _ => .quiet
  | _ => .quiet

section

omit [DecidableEq Address]

/-- The trusts are numbered up to the count, and there are none before the contract has an
admin. -/
structure Numbered (state : State Address) : Prop where
  counted : ∀ trustId trust, state.trusts.get trustId = some trust → trustId ≤ state.trustCount
  unset : state.admin = none → ∀ trustId, state.trusts.get trustId = none

theorem numbered_start : Numbered ({} : State Address) where
  counted trustId trust got := by cases (get_empty trustId).symm.trans got
  unset _ trustId := get_empty trustId

end

variable {env : Env Address contract} {state next : State Address} {trustId : Nat} {target : Nat}
  {holdings : Holdings Address}

section

omit [DecidableEq Address]

theorem Numbered.set (numbered : Numbered state) {old new : Offering}
    (got : state.trusts.get target = some old) :
    Numbered { state with
      trusts := state.trusts.set target new
      holdings } where
  counted := forall_set numbered.counted (numbered.counted target old got)
  unset unset := by cases (numbered.unset unset target).symm.trans got

theorem bookOf_set (state : State Address) (target : Nat) (new : Offering)
    (holdings : Holdings Address) :
    bookOf trustId { state with
      trusts := state.trusts.set target new
      holdings } = {
        offering := if trustId = target then some new else state.trusts.get trustId
        holdings } := by
  unfold bookOf
  rw [get_set]

end

theorem step_of_write {old new : Offering}
    {event : Event Address} (got : state.trusts.get target = some old)
    (step : Step target { offering := some old, holdings := state.holdings } event
      { offering := some new, holdings }) (wrote : event ≠ .quiet) :
    Step trustId (bookOf trustId state) (if target = trustId then event else .quiet)
      (bookOf trustId { state with
        trusts := state.trusts.set target new
        holdings }) := by
  rw [bookOf_set]
  refine step.write wrote fun same => ?_
  rw [same]
  exact got

omit [DecidableEq Address] in
theorem set_holdings {trust : Offering}
    (got : state.trusts.get target = some trust) (holdings : Holdings Address) :
    { state with holdings } = { state with
      trusts := state.trusts.set target trust
      holdings } := by
  rw [set_of_get got]

section

variable (numbered : Numbered state)
include numbered

variable {admin : Address}

theorem initializeReit_step (ran : initializeReit env admin state = .ok next) :
    Numbered next ∧ Step trustId (bookOf trustId state) .quiet (bookOf trustId next) := by
  simp only [initializeReit, call_ok] at ran
  obtain ⟨unset, -, rfl⟩ := ran
  have gone := numbered.unset (Option.not_isSome_iff_eq_none.mp unset)
  refine ⟨⟨fun id trust got => ?_, nofun⟩, Step.idle _⟩
  cases (gone id).symm.trans got

theorem createTrust_step {name : String} {totalShares : Nat} {pricePerShare : Int}
    (ran : (Prod.snd <$> createTrust env admin name totalShares pricePerShare state) = .ok next) :
    Numbered next ∧ Step trustId (bookOf trustId state) .quiet (bookOf trustId next) := by
  simp only [createTrust, assertAdmin, assertInitialized, map_eq_ok, call_ok, arith_ok] at ran
  obtain ⟨_, ⟨⟨-, -, _, admin, -⟩, trust, offered, -, rfl⟩, rfl⟩ := ran
  have fresh : state.trusts.get (state.trustCount + 1) = none := by
    cases got : state.trusts.get (state.trustCount + 1) with
    | none => rfl
    | some old => exact absurd (numbered.counted _ old got) (Nat.not_succ_le_self _)
  refine ⟨⟨?_, fun unset => ?_⟩, ?_⟩
  · refine forall_set (fun id old got => ?_) le_rfl
    exact (numbered.counted id old got).trans (Nat.le_succ _)
  · cases unset.symm.trans admin
  · change Step trustId _ _ { offering := (state.trusts.set _ trust).get trustId, .. }
    rw [get_set]
    refine Step.created (fun same => ?_) (offer_eq_ok offered)
    rw [same]
    exact fresh

theorem deactivateTrust_step (ran : deactivateTrust env admin target state = .ok next) :
    Numbered next ∧ Step trustId (bookOf trustId state) .quiet (bookOf trustId next) := by
  simp only [deactivateTrust, getTrust, call_ok] at ran
  obtain ⟨_, -, _, got, rfl⟩ := ran
  refine ⟨numbered.set got, ?_⟩
  rw [bookOf_set]
  refine Step.toggled (fun same => ?_) false
  rw [same]
  exact got

theorem depositDividends_step
    {amount : Int} (ran : depositDividends env admin target amount state = .ok next) :
    Numbered next ∧
      Step trustId (bookOf trustId state) (if target = trustId then .deposited amount else .quiet)
        (bookOf trustId next) := by
  simp only [depositDividends, getTrust, call_ok] at ran
  obtain ⟨_, -, pos, trust, got, _, deposited, rfl⟩ := ran
  obtain ⟨fits, rfl⟩ := depositIncome_eq_ok deposited
  refine ⟨numbered.set got, step_of_write got ?_ (by simp)⟩
  exact Step.deposited amount trust rfl (not_le.mp pos) fits

theorem buyShares_step {investor : Address} {target shares : Nat}
    (ran : (Prod.snd <$> buyShares env investor target shares state) = .ok next) :
    Numbered next ∧
      Step trustId (bookOf trustId state) (if target = trustId then .bought investor else .quiet)
        (bookOf trustId next) := by
  simp only [buyShares, getTrust, map_eq_ok, call_ok] at ran
  obtain ⟨_, ⟨_, -, _, -, -, -, _, got, -, _, bought, rfl⟩, rfl⟩ := ran
  exact ⟨numbered.set got, step_of_write got (Step.of_buyFrom bought) nofun⟩

theorem transferShares_step {source destination : Address} {target shares : Nat}
    (ran : transferShares env source destination target shares state = .ok next) :
    Numbered next ∧
      Step trustId (bookOf trustId state)
        (if target = trustId then .transferred source destination shares else .quiet)
        (bookOf trustId next) := by
  simp only [transferShares, getTrust, call_ok] at ran
  obtain ⟨_, -, _, -, -, nonzero, _, got, _, transferred, rfl⟩ := ran
  rw [set_holdings got]
  exact ⟨numbered.set got,
    step_of_write got (Step.of_transferBetween nonzero transferred) (by simp)⟩

theorem claimDividends_step {investor : Address}
    {claimed : Int} (ran : claimDividends env investor target state = .ok (claimed, next)) :
    Numbered next ∧
      Step trustId (bookOf trustId state)
        (if target = trustId then .claimed investor claimed else .quiet)
        (bookOf trustId next) := by
  simp only [claimDividends, getTrust, call_ok] at ran
  obtain ⟨_, -, _, -, -, _, got, _, paid, rfl, rfl⟩ := ran
  rw [set_holdings got]
  exact ⟨numbered.set got, step_of_write got (Step.of_claimFor paid) nofun⟩

theorem dispatch_step {call : Env Address contract × Operation Address}
    (ran : dispatch state call = .ok next) :
    Numbered next ∧
      Step trustId (bookOf trustId state) (eventOf trustId state call) (bookOf trustId next) := by
  obtain ⟨_, op⟩ := call
  cases op with
  | initializeReit => exact initializeReit_step numbered ran
  | createTrust => exact createTrust_step numbered ran
  | deactivateTrust => exact deactivateTrust_step numbered ran
  | depositDividends => exact depositDividends_step numbered ran
  | setPaused =>
    unfold dispatch setPaused at ran
    simp only [call_ok] at ran
    obtain ⟨_, -, rfl⟩ := ran
    exact ⟨⟨numbered.counted, numbered.unset⟩, Step.idle _⟩
  | buyShares => exact buyShares_step numbered ran
  | transferShares =>
    exact transferShares_step numbered ran
  | claimDividends =>
    obtain ⟨⟨_, _⟩, claim, rfl⟩ := map_eq_ok.mp ran
    unfold eventOf
    dsimp only
    rw [claim]
    exact claimDividends_step numbered claim

end

theorem payable_claimableDividends (trustId : Nat) (investor : Address) (state : State Address) :
    payable (claimableDividends investor trustId state) =
      (bookOf trustId state).claimable trustId investor := by
  unfold claimableDividends getTrust bookOf Book.claimable
  cases state.trusts.get trustId with
  | none => rfl
  | some =>
    cases held : state.holdings.get (trustId, investor) with
    | none => rfl
    | some holding => exact payable_computeClaimable holding _

def issuer (contract : Address) :
    Issuer (State Address) (Env Address contract × Operation Address) (Failure Error) Address where
  machine := machine contract
  start := {}
  bookOf := bookOf
  eventOf := eventOf
  claimable trustId investor state := payable (claimableDividends investor trustId state)
  Numbered := Numbered
  numbered := numbered_start
  unopened trustId := by
    unfold bookOf
    rw [get_empty]
  claimable_eq := payable_claimableDividends
  keeps _ _ _ numbered executed := (@dispatch_step _ _ _ _ _ 0 numbered _ executed).1
  step _ _ _ _ numbered executed := (dispatch_step numbered executed).2

end SorobanPlayground.TokenizedReit
