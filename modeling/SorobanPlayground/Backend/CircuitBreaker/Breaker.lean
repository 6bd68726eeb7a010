import Mathlib.Data.List.Count
import SorobanPlayground.Library.CallMachine

/-! # The circuit breaker

The breaker counts the results of the requests that it admits. Results arrive after any delay, so
the breaker may have left the period in which a request was admitted when its result is recorded.
-/

namespace SorobanPlayground.CircuitBreaker

inductive CircuitState where
  | closed
  | opened
  | halfOpen
  deriving DecidableEq, Repr

structure Config where
  failureThreshold : Int
  resetTimeoutMs : Int
  halfOpenMaxRequests : Int
  successThreshold : Int
  /-- `failureCount / totalRequests >= failureRateThreshold`. -/
  rateReached : Nat → Nat → Bool

/-- `value || fallback`. -/
def orDefault (value : Option Int) (fallback : Int) : Int :=
  match value with
  | none => fallback
  | some given => if given = 0 then fallback else given

structure Options where
  failureThreshold : Option Int := none
  resetTimeoutMs : Option Int := none
  halfOpenMaxRequests : Option Int := none
  successThreshold : Option Int := none

def Options.config (options : Options) (rateReached : Nat → Nat → Bool) : Config where
  failureThreshold := orDefault options.failureThreshold 5
  resetTimeoutMs := orDefault options.resetTimeoutMs 30000
  halfOpenMaxRequests := orDefault options.halfOpenMaxRequests 3
  successThreshold := orDefault options.successThreshold 2
  rateReached := rateReached

structure Breaker where
  state : CircuitState := .closed
  failureCount : Nat := 0
  successCount : Nat := 0
  totalRequests : Nat := 0
  halfOpenRequests : Nat := 0
  nextAttempt : Int := 0
  deriving DecidableEq, Repr

variable (config : Config) (now : Int) (breaker : Breaker)

def transitionTo (newState : CircuitState) : Breaker :=
  match newState with
  | .halfOpen => { breaker with state := .halfOpen, halfOpenRequests := 0, successCount := 0 }
  | .closed =>
      { breaker with
        state := .closed, failureCount := 0, successCount := 0, totalRequests := 0
        halfOpenRequests := 0 }
  | .opened => { breaker with state := .opened, nextAttempt := now + config.resetTimeoutMs }

/-- The breaker after `getState`, which returns its state. -/
def getState : Breaker :=
  if breaker.state = .opened ∧ breaker.nextAttempt ≤ now then
    transitionTo config now breaker .halfOpen
  else breaker

def recordSuccess : Breaker :=
  let counted := { breaker with totalRequests := breaker.totalRequests + 1 }
  match breaker.state with
  | .halfOpen =>
      let succeeded := { counted with successCount := breaker.successCount + 1 }
      if config.successThreshold ≤ succeeded.successCount then
        transitionTo config now succeeded .closed
      else succeeded
  | .closed => { counted with failureCount := breaker.failureCount - 1 }
  | .opened => counted

def recordFailure : Breaker :=
  let failed := { breaker with
    totalRequests := breaker.totalRequests + 1, failureCount := breaker.failureCount + 1 }
  match breaker.state with
  | .halfOpen => transitionTo config now failed .opened
  | .closed =>
      if config.failureThreshold ≤ failed.failureCount ∨ 5 ≤ failed.totalRequests ∧
          config.rateReached failed.failureCount failed.totalRequests = true then
        transitionTo config now failed .opened
      else failed
  | .opened => failed

/-- Whether a request is admitted, and the breaker afterwards. -/
def canExecute : Bool × Breaker :=
  let current := getState config now breaker
  match current.state with
  | .closed => (true, current)
  | .halfOpen =>
      if current.halfOpenRequests < config.halfOpenMaxRequests then
        (true, { current with halfOpenRequests := current.halfOpenRequests + 1 })
      else (false, current)
  | .opened => (false, current)

/-- A change of the state, with what the period it ends has seen. -/
structure Transition where
  source : CircuitState
  target : CircuitState
  period : Nat
  /-- The periods in which the requests were admitted whose successes were recorded. -/
  successes : List Nat
  failures : List Nat
  deriving DecidableEq, Repr

/-- The breaker with its requests. Periods are numbered, and a request is known by the period that
admitted it. -/
structure World where
  breaker : Breaker := {}
  clock : Int
  period : Nat := 0
  outstanding : List Nat := []
  admissions : Nat := 0
  successes : List Nat := []
  failures : List Nat := []
  transitions : List Transition := []
  deriving DecidableEq, Repr

/-- A change of the state ends the period and begins the next. -/
def World.turn (world : World) (breaker : Breaker) : World :=
  { world with
    breaker
    period := world.period + 1
    admissions := 0
    successes := []
    failures := []
    transitions := world.transitions ++ [{
      source := world.breaker.state, target := breaker.state, period := world.period
      successes := world.successes, failures := world.failures }] }

def World.observe (world : World) (breaker : Breaker) : World :=
  if breaker.state = world.breaker.state then { world with breaker } else world.turn breaker

/-- A request that is admitted is outstanding. -/
def World.enter (world : World) : World :=
  { world with
    admissions := world.admissions + 1, outstanding := world.period :: world.outstanding }

/-- The clock moves on. -/
def World.wait (world : World) (now : Int) : World := { world with clock := now }

/-- A request asks to be admitted. -/
def World.request (now : Int) (world : World) : World :=
  let result := canExecute config now world.breaker
  let observed := (world.wait now).observe result.2
  if result.1 then observed.enter else observed

/-- The state is read. -/
def World.poll (now : Int) (world : World) : World :=
  (world.wait now).observe (getState config now world.breaker)

/-- The requests after a success of one that some period admitted. -/
def World.succeeded (world : World) (now : Int) (admittedIn : Nat) : World :=
  { world.wait now with
    outstanding := world.outstanding.erase admittedIn
    successes := admittedIn :: world.successes }

/-- The requests after a failure of one that some period admitted. -/
def World.failed (world : World) (now : Int) (admittedIn : Nat) : World :=
  { world.wait now with
    outstanding := world.outstanding.erase admittedIn
    failures := admittedIn :: world.failures }

def World.succeed (now : Int) (world : World) (admittedIn : Nat) : World :=
  (world.succeeded now admittedIn).observe (recordSuccess config now world.breaker)

def World.fail (now : Int) (world : World) (admittedIn : Nat) : World :=
  (world.failed now admittedIn).observe (recordFailure config now world.breaker)

inductive Action where
  | canExecute
  | getState
  | succeed (admittedIn : Nat)
  | fail (admittedIn : Nat)
  deriving DecidableEq, Repr

/-- An event does not turn the clock back, and only an outstanding request has a result. -/
def step (world : World) (event : Int × Action) : Option World :=
  if world.clock ≤ event.1 then
    match event.2 with
    | .canExecute => some (world.request config event.1)
    | .getState => some (world.poll config event.1)
    | .succeed admittedIn =>
        if admittedIn ∈ world.outstanding then some (world.succeed config event.1 admittedIn)
        else none
    | .fail admittedIn =>
        if admittedIn ∈ world.outstanding then some (world.fail config event.1 admittedIn)
        else none
  else none

def machine : CallMachine World (Int × Action) Unit :=
  CallMachine.ofStep (step config)

/-- The breaker closes after enough successes of its half-open period, and opens only on failures of
its closed period. -/
structure Transition.Earned (config : Config) (transition : Transition) : Prop where
  closes : transition.source = .halfOpen → transition.target = .closed →
    config.successThreshold ≤ transition.successes.count transition.period
  opens : transition.source = .closed → transition.target = .opened →
    transition.failures ≠ [] ∧ ∀ admittedIn ∈ transition.failures, admittedIn = transition.period

/-- Every transition was earned, and a half-open period admits only so many requests. -/
structure Lawful (config : Config) (world : World) : Prop where
  earned : ∀ transition ∈ world.transitions, transition.Earned config
  admits : world.breaker.state = .halfOpen →
    (world.admissions : Int) ≤ max 0 config.halfOpenMaxRequests

/-- Every outstanding request finishes, further requests succeed, and the breaker closes. -/
def Recoverable (world : World) : Prop :=
  ∃ events : List (Int × Action),
    (∀ event ∈ events, ∀ admittedIn, event.2 ≠ .fail admittedIn) ∧
    ((machine config).run world events).outstanding = [] ∧
    ((machine config).run world events).breaker.state = .closed

/-- A success that is recorded in a half-open period and a failure that is recorded in a closed one
are of requests that this period admitted. -/
def Timely (world : World) (event : Int × Action) : Prop :=
  match event.2 with
  | .succeed admittedIn => world.breaker.state = .halfOpen → admittedIn = world.period
  | .fail admittedIn => world.breaker.state = .closed → admittedIn = world.period
  | _ => True

/-- A half-open period has room for the successes that close the breaker. -/
def Wide : Prop :=
  max 1 config.successThreshold ≤ config.halfOpenMaxRequests

end SorobanPlayground.CircuitBreaker
