import SorobanPlayground.Host

/-! # Options contract

Writers of European options post margin, which is kept in one account for each writer. A
buyer's premium is credited to that account, and an exercised option is paid out of it.
-/

namespace SorobanPlayground.OptionsContract

inductive Error where
  | alreadyInitialized
  | notInitialized
  | unauthorized
  | zeroAmount
  | paused
  | overflow
  | optionNotFound
  | optionExpired
  | optionNotExpired
  | optionAlreadySettled
  | insufficientMargin
  | notOptionHolder
  | invalidStrike
  | invalidExpiry
  deriving DecidableEq, Repr

inductive OptionType where
  | call
  | put
  deriving DecidableEq, Repr

inductive OptionStatus where
  | active
  | exercised
  | expired
  | cancelled
  deriving DecidableEq, Repr

/-- A European cash-settled option. -/
structure OptionContract (Address : Type) where
  id : Nat
  writer : Address
  optionType : OptionType
  strikePrice : Int
  spotPriceAtWrite : Int
  premium : Int
  size : Int
  expiry : Nat
  holder : Option Address
  status : OptionStatus
  settlementPrice : Int
  deriving DecidableEq, Repr

structure MarginRequirement where
  required : Int
  deposited : Int
  marginCall : Bool
  deriving DecidableEq, Repr

/-- Prices are scaled by this factor. -/
def pricePrecision : Int := 1000000

/-- The minimum margin as a fraction of the notional value. -/
def minMarginBps : Int := 2000

structure State (Address : Type) where
  admin : Option Address := none
  optionCount : Nat := 0
  totalMargin : Int := 0
  paused : Bool := false
  options : FiniteMap Nat (OptionContract Address) := ∅
  margins : FiniteMap Address Int := ∅

variable {Address : Type} [DecidableEq Address] {contract : Address}

def State.margin (state : State Address) (writer : Address) : Int :=
  (state.margins.get writer).getD 0

def ensureInitialized (state : State Address) : Outcome Error Unit :=
  ensure (state.admin.isSome = true) .notInitialized

def ensureActive (state : State Address) : Outcome Error Unit := do
  ensureInitialized state
  ensure (¬ state.paused = true) .paused

/-- The minimum margin of an option, as it is computed when an option is written and when its
margin is checked. -/
def requiredMargin (strikePrice size : Int) : Outcome Error Int := do
  let value ← checkedMul (.error .overflow) strikePrice size
  let scaled ← checkedMul (.error .overflow) (value.tdiv pricePrecision) minMarginBps
  return scaled.tdiv 10000

variable (env : Env Address contract)

def initializeOptions (admin : Address) (state : State Address) :
    Outcome Error (State Address) := do
  ensure (¬ state.admin.isSome = true) .alreadyInitialized
  requireAuth env admin
  return { state with admin := some admin }

def writeOption (writer : Address) (optionType : OptionType)
    (strikePrice spotPrice size premium : Int) (expiry : Nat) (margin : Int)
    (state : State Address) : Outcome Error (Nat × State Address) := do
  ensureActive state
  requireAuth env writer
  ensure (¬ strikePrice ≤ 0) .invalidStrike
  ensure (¬ expiry ≤ env.timestamp) .invalidExpiry
  ensure (¬ (size ≤ 0 ∨ premium < 0 ∨ margin ≤ 0)) .zeroAmount
  let minMargin ← requiredMargin strikePrice size
  ensure (¬ margin < minMargin) .insufficientMargin
  let id := state.optionCount
  let optionCount ← inUnsigned u32Max .trap (id + 1)
  let deposited ← checkedAdd .trap (state.margin writer) margin
  let totalMargin ← checkedAdd .trap state.totalMargin margin
  return (id, { state with
    options := state.options.set id {
      id, writer, optionType, strikePrice, premium, size, expiry
      spotPriceAtWrite := spotPrice
      holder := none
      status := .active
      settlementPrice := 0 }
    optionCount
    margins := state.margins.set writer deposited
    totalMargin })

def buyOption (buyer : Address) (optionId : Nat) (state : State Address) :
    Outcome Error (Int × State Address) := do
  ensureActive state
  requireAuth env buyer
  let opt ← orError (state.options.get optionId) .optionNotFound
  ensure (opt.status = .active) .optionAlreadySettled
  ensure (¬ opt.expiry ≤ env.timestamp) .optionExpired
  ensure (¬ opt.holder.isSome = true) .optionAlreadySettled
  -- the premium is added to the writer's margin, and not to the total
  let credited ← checkedAdd .trap (state.margin opt.writer) opt.premium
  return (opt.premium, { state with
    margins := state.margins.set opt.writer credited
    options := state.options.set opt.id { opt with holder := some buyer } })

/-- By how much an option is in the money, before it is cut off at zero. -/
def differenceOf (optionType : OptionType) (settlementPrice strikePrice : Int) :
    Outcome Error Int :=
  match optionType with
  | .call => checkedSub .trap settlementPrice strikePrice
  | .put => checkedSub .trap strikePrice settlementPrice

/-- What an option pays at a settlement price. -/
def payoutOf (opt : OptionContract Address) (settlementPrice : Int) : Outcome Error Int := do
  let difference ← differenceOf opt.optionType settlementPrice opt.strikePrice
  let value ← checkedMul (.error .overflow) (max difference 0) opt.size
  return value.tdiv pricePrecision

def exercise (holder : Address) (optionId : Nat) (settlementPrice : Int) (state : State Address) :
    Outcome Error (Int × State Address) := do
  ensureActive state
  requireAuth env holder
  let opt ← orError (state.options.get optionId) .optionNotFound
  ensure (opt.status = .active) .optionAlreadySettled
  ensure (¬ env.timestamp < opt.expiry) .optionNotExpired
  let actualHolder ← orError opt.holder .notOptionHolder
  ensure (actualHolder = holder) .notOptionHolder
  let payout ← payoutOf opt settlementPrice
  let writerMargin := state.margin opt.writer
  let actualPayout := min payout writerMargin
  let left ← checkedSub .trap writerMargin actualPayout
  let total ← checkedSub .trap state.totalMargin actualPayout
  return (actualPayout, { state with
    margins := state.margins.set opt.writer left
    totalMargin := max total 0
    options := state.options.set opt.id { opt with
      status := .exercised
      settlementPrice } })

def expireOption (writer : Address) (optionId : Nat) (state : State Address) :
    Outcome Error (State Address) := do
  ensureActive state
  requireAuth env writer
  let opt ← orError (state.options.get optionId) .optionNotFound
  ensure (opt.status = .active) .optionAlreadySettled
  ensure (¬ env.timestamp < opt.expiry) .optionNotExpired
  ensure (opt.writer = writer) .unauthorized
  return { state with options := state.options.set opt.id { opt with status := .expired } }

def depositMargin (writer : Address) (amount : Int) (state : State Address) :
    Outcome Error (Int × State Address) := do
  ensureActive state
  requireAuth env writer
  ensure (¬ amount ≤ 0) .zeroAmount
  let newMargin ← checkedAdd .trap (state.margin writer) amount
  let totalMargin ← checkedAdd .trap state.totalMargin amount
  return (newMargin, { state with
    margins := state.margins.set writer newMargin
    totalMargin })

def withdrawMargin (writer : Address) (amount : Int) (state : State Address) :
    Outcome Error (Int × State Address) := do
  ensureActive state
  requireAuth env writer
  ensure (¬ amount ≤ 0) .zeroAmount
  let current := state.margin writer
  ensure (¬ current < amount) .insufficientMargin
  let newMargin ← checkedSub .trap current amount
  let total ← checkedSub .trap state.totalMargin amount
  return (newMargin, { state with
    margins := state.margins.set writer newMargin
    totalMargin := max total 0 })

def setPaused (admin : Address) (paused : Bool) (state : State Address) :
    Outcome Error (State Address) := do
  requireAuth env admin
  let contractAdmin ← orError state.admin .notInitialized
  ensure (contractAdmin = admin) .unauthorized
  return { state with paused }

def checkMargin (state : State Address) (optionId : Nat) : Outcome Error MarginRequirement := do
  ensureInitialized state
  let opt ← orError (state.options.get optionId) .optionNotFound
  let deposited := state.margin opt.writer
  if opt.status = .active then do
    let required ← requiredMargin opt.strikePrice opt.size
    return { required, deposited, marginCall := deposited < required }
  else return { required := 0, deposited, marginCall := false }

inductive Operation (Address : Type) where
  | initializeOptions (admin : Address)
  | writeOption (writer : Address) (optionType : OptionType)
      (strikePrice spotPrice size premium : Int) (expiry : Nat) (margin : Int)
  | buyOption (buyer : Address) (optionId : Nat)
  | exercise (holder : Address) (optionId : Nat) (settlementPrice : Int)
  | expireOption (writer : Address) (optionId : Nat)
  | depositMargin (writer : Address) (amount : Int)
  | withdrawMargin (writer : Address) (amount : Int)
  | setPaused (admin : Address) (paused : Bool)

def dispatch (state : State Address) (call : Env Address contract × Operation Address) :
    Outcome Error (State Address) :=
  match call.2 with
  | .initializeOptions admin => initializeOptions call.1 admin state
  | .writeOption writer optionType strikePrice spotPrice size premium expiry margin =>
      Prod.snd <$> writeOption call.1 writer optionType strikePrice spotPrice size premium expiry
        margin state
  | .buyOption buyer optionId => Prod.snd <$> buyOption call.1 buyer optionId state
  | .exercise holder optionId settlementPrice =>
      Prod.snd <$> exercise call.1 holder optionId settlementPrice state
  | .expireOption writer optionId => expireOption call.1 writer optionId state
  | .depositMargin writer amount => Prod.snd <$> depositMargin call.1 writer amount state
  | .withdrawMargin writer amount => Prod.snd <$> withdrawMargin call.1 writer amount state
  | .setPaused admin paused => setPaused call.1 admin paused state

def machine (contract : Address) :
    CallMachine (State Address) (Env Address contract × Operation Address) (Failure Error) where
  exec := dispatch

end SorobanPlayground.OptionsContract
