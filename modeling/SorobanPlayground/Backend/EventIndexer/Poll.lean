import SorobanPlayground.Library.CallMachine

/-! # The contract event indexer

A poll loads the cursor, fetches a page of events from that ledger on, inserts them one after the
other and saves the last ledger that it saw. Polls may overlap, and each step may fail.
-/

namespace SorobanPlayground.EventIndexer

structure ContractEvent where
  id : Nat
  ledger : Nat
  deriving DecidableEq, Repr

/-- The events of the watched contracts, in ledger order. -/
structure Stream where
  events : List ContractEvent
  sorted : events.Pairwise fun earlier later => earlier.ledger ≤ later.ledger
  distinct : events.Nodup

/-- The first 200 events from a ledger on. -/
def getEvents (stream : Stream) (startLedger : Nat) : List ContractEvent :=
  (stream.events.filter (startLedger ≤ ·.ledger)).take 200

inductive CircuitState where
  | closed
  | opened
  | halfOpen
  deriving DecidableEq, Repr

structure Circuit where
  state : CircuitState := .closed
  failures : Nat := 0
  lastFailureTime : Int := 0
  halfOpenAttempts : Nat := 0
  deriving DecidableEq, Repr

def failureThreshold : Nat := 5

def resetTimeoutMs : Int := 60000

def halfOpenMax : Nat := 1

inductive ErrorCategory where
  | rpcConnection
  | rpcResponse
  | parse
  | database
  | handler
  | cursor
  | unknown
  deriving DecidableEq, Repr

namespace Circuit

variable (circuit : Circuit) (now : Int)

def isCircuitOpen : Bool × Circuit :=
  if circuit.state = .opened then
    if resetTimeoutMs ≤ now - circuit.lastFailureTime then
      (false, { circuit with state := .halfOpen, halfOpenAttempts := 0 })
    else (true, circuit)
  else (false, circuit)

def recordFailure : Circuit :=
  { circuit with
    failures := circuit.failures + 1
    lastFailureTime := now
    state := if failureThreshold ≤ circuit.failures + 1 then .opened else circuit.state }

def recordSuccess : Circuit :=
  { circuit with failures := 0, halfOpenAttempts := 0, state := .closed }

def recordError (category : ErrorCategory) : Circuit :=
  if category = .rpcConnection ∨ category = .rpcResponse then circuit.recordFailure now
  else circuit

/-- A failed `getEvents`. -/
def failFetch (category : ErrorCategory) : Circuit :=
  let recorded := circuit.recordError now category
  if recorded.state = .halfOpen then
    let attempts := recorded.halfOpenAttempts + 1
    if halfOpenMax < attempts then
      { recorded with halfOpenAttempts := attempts, state := .opened, lastFailureTime := now }
    else { recorded with halfOpenAttempts := attempts }
  else recorded

end Circuit

/-- The step that a poll waits for. -/
inductive Phase where
  | loading
  | fetching (startLedger : Nat)
  | inserting (startLedger latestLedger : Nat) (event : ContractEvent)
      (rest : List ContractEvent)
  | saving (latestLedger : Nat)
  deriving DecidableEq, Repr

/-- The rows of `contract_events` in the order of their insertion, the saved `last_ledger`, the
polls in progress, and the highest cursor that was saved. -/
structure State where
  rows : List ContractEvent := []
  cursor : Option Nat := none
  polls : Nat → Option Phase := fun _ => none
  circuit : Circuit := {}
  highest : Nat := 0

def State.startLedger (state : State) : Nat := state.cursor.getD 0

namespace State

variable (state : State) (poll : Nat)

def setPoll (phase : Option Phase) : State :=
  { state with polls := Function.update state.polls poll phase }

def finish : State :=
  { state.setPoll poll none with circuit := state.circuit.recordSuccess }

/-- The poll goes on to its next event or to saving the cursor, or it is done. -/
def proceed (startLedger latestLedger : Nat) : List ContractEvent → State
  | event :: rest =>
      state.setPoll poll (some (.inserting startLedger latestLedger event rest))
  | [] =>
      if startLedger < latestLedger then state.setPoll poll (some (.saving latestLedger))
      else state.finish poll

def saveCursor (lastLedger : Nat) : State :=
  { state with cursor := some lastLedger, highest := max state.highest lastLedger }

end State

/-- The steps of a poll, with the error that a step fails with, and the restart of the process. -/
inductive Action where
  | begin (poll : Nat) (now : Int)
  | load (poll : Nat) (fails : Bool)
  | fetch (poll : Nat) (now : Int) (error : Option ErrorCategory)
  | insert (poll : Nat) (now : Int) (error : Option ErrorCategory)
  | save (poll : Nat) (fails : Bool)
  | restart
  deriving DecidableEq, Repr

def step (stream : Stream) (state : State) : Action → Option State
  | .begin poll now =>
      if (state.polls poll).isNone then
        let checked := { state with circuit := (state.circuit.isCircuitOpen now).2 }
        some (if (state.circuit.isCircuitOpen now).1 then checked
          else checked.setPoll poll (some .loading))
      else none
  | .load poll fails =>
      match state.polls poll with
      | some .loading =>
          some (state.setPoll poll (some (.fetching (if fails then 0 else state.startLedger))))
      | _ => none
  | .fetch poll now error =>
      match state.polls poll with
      | some (.fetching startLedger) =>
          match error with
          | some category =>
              some { state.setPoll poll none with circuit := state.circuit.failFetch now category }
          | none =>
              some (state.proceed poll startLedger startLedger (getEvents stream startLedger))
      | _ => none
  | .insert poll now error =>
      match state.polls poll with
      | some (.inserting startLedger latestLedger event rest) =>
          let processed := match error with
            | some category => { state with circuit := state.circuit.recordError now category }
            | none => { state with rows := state.rows ++ [event] }
          some (processed.proceed poll startLedger (max latestLedger event.ledger) rest)
      | _ => none
  | .save poll fails =>
      match state.polls poll with
      | some (.saving latestLedger) =>
          some ((if fails then state else state.saveCursor latestLedger).finish poll)
      | _ => none
  | .restart => some { state with polls := fun _ => none, circuit := {} }

def machine (stream : Stream) : CallMachine State Action Unit :=
  CallMachine.ofStep (step stream)

/-- Events below the cursor are stored, and the cursor has never been higher. -/
structure Complete (stream : Stream) (state : State) : Prop where
  stored : ∀ event ∈ stream.events, event.ledger < state.startLedger → event ∈ state.rows
  rising : state.startLedger = state.highest

def pending (state : State) (poll : Nat) : List ContractEvent :=
  match state.polls poll with
  | some (.inserting _ _ event rest) => event :: rest
  | _ => []

/-- A fetched page has no event that is stored or that a poll is about to insert. -/
def Fresh (stream : Stream) (state : State) : Action → Prop
  | .fetch poll _ none => ∀ startLedger, state.polls poll = some (.fetching startLedger) →
      ∀ event ∈ getEvents stream startLedger,
        event ∉ state.rows ∧ ∀ other, event ∉ pending state other
  | _ => True

/-- A poll begins when no other is in progress, the cursor is loaded, and no event of an earlier
ledger than the last of its page fails to be inserted. -/
def Careful (state : State) : Action → Prop
  | .begin _ _ => ∀ other, state.polls other = none
  | .load _ fails => fails = false
  | .insert poll _ (some _) => ∀ startLedger latestLedger event rest,
      state.polls poll = some (.inserting startLedger latestLedger event rest) →
        ∀ later ∈ rest, later.ledger ≤ event.ledger
  | _ => True

/-- No ledger fills a page, except that the last one may fill it exactly. -/
def SmallLedgers (stream : Stream) : Prop :=
  ∀ ledger, stream.events.countP (·.ledger = ledger) ≤ 200 ∧
    ((∃ event ∈ stream.events, ledger < event.ledger) →
      stream.events.countP (·.ledger = ledger) < 200)

/-- A poll none of whose steps fails; it has at most as many events to insert as a page holds. -/
def fullPoll (now : Int) : List Action :=
  [.begin 0 now, .load 0 false, .fetch 0 now none] ++ List.replicate 200 (.insert 0 now none) ++
    [.save 0 false]

/-- Polls one after the other. -/
def polls (now : Int) (count : Nat) : List Action := (List.replicate count (fullPoll now)).flatten

end SorobanPlayground.EventIndexer
