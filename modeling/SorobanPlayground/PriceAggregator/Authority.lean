import SorobanPlayground.Library.Noninterference
import SorobanPlayground.PriceAggregator.Contract

/-! # Whose prices are aggregated

A submission names the number of its source, and whether its sender may report for that source
is not checked. A trail beside the state marks the prices that others than the designated
reporters submitted. While no fresh price of an active source is so marked when an aggregate
is read, the readings are those of the run without the foreign submissions.
-/

namespace SorobanPlayground.PriceAggregator

open Function

variable {Address : Type} [DecidableEq Address] {contract : Address}
  (designated : Address → Nat → Bool)

/-- A call is kept unless it submits a price for a source whose reporter its sender is not. -/
def reported (call : Env Address contract × Operation Address) : Bool :=
  match call.2 with
  | .updatePrice sourceAddr sourceId _ _ => designated sourceAddr sourceId
  | _ => true

/-- The prices that were submitted by others than their reporters, and the time of the last call. -/
structure Trail where
  foreign : Nat × String → Bool := fun _ => false
  clock : Nat := 0

/-- The trail after a call. -/
def Trail.follow (_ : State Address) (call : Env Address contract × Operation Address)
    (_ : State Address) (trail : Trail) : Trail :=
  match call.2 with
  | .updatePrice sourceAddr sourceId asset _ =>
      { foreign := Function.update trail.foreign (sourceId, asset)
          (!designated sourceAddr sourceId)
        clock := call.1.timestamp }
  | _ => { trail with clock := call.1.timestamp }

/-- The contract beside which the trail is kept. -/
def trailed (contract : Address) :
    CallMachine (State Address × Trail) (Env Address contract × Operation Address)
      (Failure Error) :=
  (machine contract).withGhost (Trail.follow designated)

/-- The clock does not run backwards, and no foreign price counts in a reading. -/
def Clean (account : State Address × Trail) (call : Env Address contract × Operation Address) :
    Prop :=
  account.2.clock ≤ call.1.timestamp ∧
    match call.2 with
    | .getAggregatedPrice asset =>
        ∀ id < account.1.sourceCount, account.2.foreign (id, asset) = true →
          freshQuote call.1 asset account.1 id = none
    | _ => True

/-- The run with foreign submissions beside the run without them. -/
structure Shadowed (account : State Address × Trail) (twin : State Address) : Prop where
  same : twin = { account.1 with prices := twin.prices }
  native : ∀ key, account.2.foreign key = false → twin.prices.get key = account.1.prices.get key
  covered : ∀ key, account.2.foreign key = true →
    ∃ entry, account.1.prices.get key = some entry ∧
      ∀ older, twin.prices.get key = some older → older.timestamp ≤ entry.timestamp
  past : ∀ key entry, twin.prices.get key = some entry → entry.timestamp ≤ account.2.clock

variable {env : Env Address contract} {state twin : State Address} {trail : Trail}

section

omit [DecidableEq Address]

theorem Shadowed.freshQuote_eq (shadowed : Shadowed (state, trail) twin) {asset : String} {id : Nat}
    (clean : trail.foreign (id, asset) = true → freshQuote env asset state id = none) :
    freshQuote env asset twin id = freshQuote env asset state id := by
  have sources : twin.sources = state.sources := by rw [shadowed.same]
  have age : twin.maxPriceAge = state.maxPriceAge := by rw [shadowed.same]
  cases marked : trail.foreign (id, asset) with
  | false =>
    unfold freshQuote
    rw [sources, age, shadowed.native _ marked]
  | true =>
    obtain ⟨_, got, older⟩ := shadowed.covered _ marked
    have gone := clean marked
    rw [gone]
    unfold freshQuote at gone ⊢
    rw [sources, age]
    rw [got] at gone
    cases source : state.sources.get id with
    | none => rfl
    | some =>
      rw [source] at gone
      simp only [Option.bind_some] at gone ⊢
      split
      · next active =>
        rw [if_pos active] at gone
        split at gone
        · cases gone
        · cases before : twin.prices.get (id, asset) with
          | none => rfl
          | some previous =>
            have time := older previous before
            rw [Option.bind_some, if_neg (by omega)]
      · rfl

theorem Shadowed.freshQuotes_eq (shadowed : Shadowed (state, trail) twin) {asset : String}
    (clean : ∀ id < state.sourceCount, trail.foreign (id, asset) = true →
      freshQuote env asset state id = none) :
    freshQuotes env asset twin = freshQuotes env asset state := by
  have count : twin.sourceCount = state.sourceCount := by rw [shadowed.same]
  unfold freshQuotes
  rw [count]
  exact List.filterMap_congr fun id mem =>
    shadowed.freshQuote_eq (clean id (List.mem_range.mp mem))

end

section

omit [DecidableEq Address]

def State.withPrices (prices : FiniteMap (Nat × String) PriceEntry) (state : State Address) :
    State Address := { state with prices }

theorem getAggregatedPrice_withPrices {env : Env Address contract} {asset : String}
    {state : State Address} {prices : FiniteMap (Nat × String) PriceEntry}
    (quotes : freshQuotes env asset (state.withPrices prices) = freshQuotes env asset state) :
    getAggregatedPrice env asset (state.withPrices prices) =
      (fun result => (result.1, result.2.withPrices prices)) <$>
        getAggregatedPrice env asset state := by
  unfold getAggregatedPrice
  rw [quotes]
  simp only [map_bind, map_pure]
  rfl

end

/-- Calls that submit no price do the same whatever the prices are, if a reading sees the same
quotes. -/
theorem dispatch_withPrices {state : State Address} {prices : FiniteMap (Nat × String) PriceEntry}
    {call : Env Address contract × Operation Address} (silent : ∀ sourceAddr sourceId asset price,
      call.2 ≠ .updatePrice sourceAddr sourceId asset price)
    (quotes : ∀ asset, call.2 = .getAggregatedPrice asset →
      freshQuotes call.1 asset (state.withPrices prices) = freshQuotes call.1 asset state) :
    dispatch (state.withPrices prices) call = State.withPrices prices <$> dispatch state call ∧
      ∀ next, dispatch state call = .ok next → next.prices = state.prices := by
  obtain ⟨_, op⟩ := call
  cases op with
  | updatePrice sourceAddr sourceId asset price =>
    exact absurd rfl (silent sourceAddr sourceId asset price)
  | getAggregatedPrice asset =>
    constructor
    · simp only [dispatch]
      rw [getAggregatedPrice_withPrices (quotes asset rfl), Functor.map_map, Functor.map_map]
    · simp only [dispatch, getAggregatedPrice, map_eq_ok, call_ok]
      rintro next ⟨_, ⟨-, -, -, -, _, -, -, -, rfl⟩, rfl⟩
      rfl
  | _ =>
    constructor
    · simp only [dispatch, initializeAggregator, pause, unpause, addSource, removeSource, setWeight,
        setStrategy, map_bind, map_pure]
      rfl
    · intro next ran
      apply Outcome.Yields.of_ok ran
      simp only [dispatch, initializeAggregator, pause, unpause, addSource, removeSource, setWeight,
        setStrategy, yields_bind, yields_pure, yields_true, yields_map]

theorem updatePrice_withPrices {env : Env Address contract} {sourceAddr : Address} {sourceId : Nat}
    {asset : String} {price : Int} {state : State Address}
    (prices : FiniteMap (Nat × String) PriceEntry) :
    updatePrice env sourceAddr sourceId asset price (state.withPrices prices) =
        State.withPrices (prices.set (sourceId, asset)
          { price, timestamp := env.timestamp, sourceId }) <$>
            updatePrice env sourceAddr sourceId asset price state ∧
      ∀ next, updatePrice env sourceAddr sourceId asset price state = .ok next →
        next = state.withPrices (state.prices.set (sourceId, asset)
          { price, timestamp := env.timestamp, sourceId }) := by
  constructor
  · simp only [updatePrice, map_bind, map_pure]
    rfl
  · simp only [updatePrice, call_ok]
    rintro _ ⟨-, -, -, -, -, -, -, -, _, -, -, -, -, -, -, -, rfl⟩
    rfl

variable {designated : Address → Nat → Bool} {next : State Address}
  {call : Env Address contract × Operation Address}

theorem trailed_of_ok (ran : dispatch state call = .ok next) :
    (trailed designated contract).apply (state, trail) call =
      (next, trail.follow designated state call next) :=
  apply_of_ok _ (withGhost_exec_eq_ok.mpr ⟨ran, rfl⟩)

theorem trailed_of_error {failure : Failure Error} (failed : dispatch state call = .error failure) :
    (trailed designated contract).apply (state, trail) call = (state, trail) := by
  unfold CallMachine.apply trailed CallMachine.withGhost machine
  dsimp only
  rw [failed]
  rfl

theorem twin_apply {prices later : FiniteMap (Nat × String) PriceEntry}
    (same : dispatch (state.withPrices prices) call =
      State.withPrices later <$> dispatch state call) :
    (machine contract).apply (state.withPrices prices) call =
      match dispatch state call with
      | .ok next => next.withPrices later
      | .error _ => state.withPrices prices := by
  unfold CallMachine.apply machine
  dsimp only
  rw [same]
  cases dispatch state call with
  | ok => rfl
  | error => rfl

section

omit [DecidableEq Address]

theorem Shadowed.keep {prices : FiniteMap (Nat × String) PriceEntry} {time : Nat}
    (shadowed : Shadowed (state, trail) (state.withPrices prices)) (clock : trail.clock ≤ time)
    (unwritten : next.prices = state.prices) :
    Shadowed (next, { trail with clock := time }) (next.withPrices prices) where
  same := rfl
  native key marked := (shadowed.native key marked).trans (by rw [unwritten])
  covered key marked := by
    obtain ⟨entry, got, older⟩ := shadowed.covered key marked
    exact ⟨entry, (by rw [unwritten] : next.prices.get key = _).trans got, older⟩
  past key entry got := (shadowed.past key entry got).trans clock

/-- A price is written in the run with foreign submissions, and in the other run if it is not
foreign. -/
theorem Shadowed.submit (shadowed : Shadowed (state, trail) twin) {key : Nat × String}
    {entry : PriceEntry} {marked : Bool} {prices : FiniteMap (Nat × String) PriceEntry}
    (clock : trail.clock ≤ entry.timestamp)
    (wrote : prices = if marked = true then twin.prices else twin.prices.set key entry) :
    Shadowed (state.withPrices (state.prices.set key entry),
      { foreign := update trail.foreign key marked, clock := entry.timestamp })
      (twin.withPrices prices) := by
  have past : ∀ key' older, twin.prices.get key' = some older → older.timestamp ≤ entry.timestamp :=
    fun key' older got => (shadowed.past key' older got).trans clock
  refine ⟨?_, ?_, ?_, ?_⟩
  · rw [shadowed.same]
    rfl
  · intro other native
    unfold State.withPrices
    dsimp only at native ⊢
    rcases eq_or_ne other key with rfl | ne
    · rw [update_self] at native
      rw [wrote, native, if_neg Bool.false_ne_true, get_set_self, get_set_self]
    · rw [update_of_ne ne] at native
      rw [get_set_of_ne _ _ ne, ← shadowed.native other native, wrote]
      split
      · rfl
      · exact get_set_of_ne _ _ ne
  · intro other foreign
    unfold State.withPrices
    dsimp only at foreign ⊢
    rcases eq_or_ne other key with rfl | ne
    · rw [update_self] at foreign
      rw [wrote, if_pos foreign]
      exact ⟨entry, get_set_self _ _ _, past other⟩
    · rw [update_of_ne ne] at foreign
      have same : prices.get other = twin.prices.get other := by
        rw [wrote]
        split
        · rfl
        · exact get_set_of_ne _ _ ne
      rw [get_set_of_ne _ _ ne, same]
      exact shadowed.covered other foreign
  · intro other older got
    unfold State.withPrices at got
    rw [wrote] at got
    split at got
    · exact past other older got
    · rw [get_set] at got
      split at got
      · cases got
        exact le_rfl
      · exact past other older got

end

section

variable (shadowed : Shadowed (state, trail) twin)
include shadowed

theorem Shadowed.unseen
    (clean : Clean (state, trail) call) (hidden : reported designated call = false) :
    reading state call = none ∧
      Shadowed ((trailed designated contract).apply (state, trail) call) twin := by
  obtain ⟨env, op⟩ := call
  cases op with
  | updatePrice sourceAddr sourceId asset price =>
    refine ⟨rfl, ?_⟩
    cases ran : dispatch state (env, .updatePrice sourceAddr sourceId asset price) with
    | error =>
      rw [trailed_of_error ran]
      exact shadowed
    | ok next =>
      rw [trailed_of_ok ran]
      obtain rfl := (updatePrice_withPrices state.prices).2 next ran
      have marked : (!designated sourceAddr sourceId) = true := by
        rw [Bool.not_eq_true']
        exact hidden
      exact shadowed.submit clean.1 (if_pos marked).symm
  | _ => cases hidden

theorem Shadowed.seen_submission {env : Env Address contract} {sourceAddr : Address}
    {sourceId : Nat} {asset : String} {price : Int} (clock : trail.clock ≤ env.timestamp)
    (own : designated sourceAddr sourceId = true) :
    Shadowed ((trailed designated contract).apply (state, trail)
        (env, .updatePrice sourceAddr sourceId asset price))
      ((machine contract).apply twin (env, .updatePrice sourceAddr sourceId asset price)) := by
  obtain ⟨prices, rfl⟩ : ∃ prices, twin = state.withPrices prices := ⟨twin.prices, shadowed.same⟩
  obtain ⟨same, wrote⟩ := @updatePrice_withPrices _ _ _ env sourceAddr sourceId asset price state
    prices
  rw [@twin_apply _ _ contract state (env, .updatePrice sourceAddr sourceId asset price) prices _
    same]
  cases ran : dispatch state (env, .updatePrice sourceAddr sourceId asset price) with
  | error =>
    rw [trailed_of_error ran]
    exact shadowed
  | ok next =>
    rw [trailed_of_ok ran]
    obtain rfl := wrote next ran
    have marked : (!designated sourceAddr sourceId) = false := by
      rw [own]
      rfl
    refine shadowed.submit clock ?_
    rw [marked, if_neg Bool.false_ne_true]
    rfl

theorem Shadowed.seen_other (clean : Clean (state, trail) call)
    (silent : ∀ sourceAddr sourceId asset price,
      call.2 ≠ .updatePrice sourceAddr sourceId asset price) :
    reading state call = reading twin call ∧
      Shadowed ((trailed designated contract).apply (state, trail) call)
        ((machine contract).apply twin call) := by
  obtain ⟨prices, rfl⟩ : ∃ prices, twin = state.withPrices prices := ⟨twin.prices, shadowed.same⟩
  obtain ⟨env, op⟩ := call
  have quotes : ∀ asset, op = .getAggregatedPrice asset →
      freshQuotes env asset (state.withPrices prices) = freshQuotes env asset state := by
    rintro asset rfl
    exact shadowed.freshQuotes_eq clean.2
  obtain ⟨same, unwritten⟩ := @dispatch_withPrices _ _ contract state prices (env, op) silent
    quotes
  constructor
  · cases op with
    | getAggregatedPrice asset =>
      unfold reading
      dsimp only
      rw [getAggregatedPrice_withPrices (quotes asset rfl), Functor.map_map]
    | _ => rfl
  · rw [twin_apply same]
    cases ran : dispatch state (env, op) with
    | error =>
      rw [trailed_of_error ran]
      exact shadowed
    | ok next =>
      rw [trailed_of_ok ran]
      have kept := shadowed.keep clean.1 (unwritten next ran)
      cases op with
      | updatePrice sourceAddr sourceId asset price =>
        exact absurd rfl (silent sourceAddr sourceId asset price)
      | _ => exact kept

theorem Shadowed.seen
    (clean : Clean (state, trail) call) (visible : reported designated call = true) :
    reading state call = reading twin call ∧
      Shadowed ((trailed designated contract).apply (state, trail) call)
        ((machine contract).apply twin call) := by
  obtain ⟨_, op⟩ := call
  cases op with
  | updatePrice =>
    exact ⟨rfl, shadowed.seen_submission clean.1 visible⟩
  | _ => exact shadowed.seen_other clean nofun

end

/-- Calls signed by the admin, the reporter and a third party. -/
def sampleEnv (timestamp : Nat) : Env Nat 0 where
  timestamp
  auths := [1, 2, 3]
  contract_silent := zero_notMem_three_signers

/-- Address 2 reports for source 0. -/
def sampleReporter (address sourceId : Nat) : Bool := address = 2 ∧ sourceId = 0

/-- The admin registers a source, and its reporter and a third party submit prices for it. -/
def submissions (first second : Nat) : List (Env Nat 0 × Operation Nat) :=
  [(sampleEnv 0, .initializeAggregator 1 none none none none none),
    (sampleEnv 0, .addSource 1 "feed" 10), (sampleEnv 10, .updatePrice first 0 "XLM" 1000),
    (sampleEnv 20, .updatePrice second 0 "XLM" 1400), (sampleEnv 30, .getAggregatedPrice "XLM")]

/-- If no foreign price counts in a reading, all readings are those of the run without the foreign
submissions. -/
theorem readings_of_reporters (designated : Address → Nat → Bool)
    {calls : List (Env Address contract × Operation Address)}
    (clean : (trailed designated contract).Along Clean ({}, {}) calls) :
    (machine contract).observe reading {} calls =
      (machine contract).observe reading {} (calls.filter (reported designated)) := by
  have start : Shadowed (({}, {}) : State Address × Trail) {} :=
    ⟨rfl, fun _ _ => rfl, nofun, nofun⟩
  rw [← CallMachine.withGhost_observe (({}, {}) : State Address × Trail)]
  exact CallMachine.observe_purged
    (fun account twin call shadowed clean hidden => shadowed.unseen clean hidden)
    (fun account twin call shadowed clean visible => shadowed.seen clean visible) start clean

/-- A foreign price that the reporter replaces is not read. -/
theorem replaced_price_unread :
    (machine (0 : Nat)).observe reading {} (submissions 3 2) =
      (machine (0 : Nat)).observe reading {}
        ((submissions 3 2).filter (reported sampleReporter)) := by
  refine readings_of_reporters sampleReporter ?_
  refine ⟨⟨by decide, True.intro⟩, ⟨by decide, True.intro⟩, ⟨by decide, True.intro⟩,
    ⟨by decide, True.intro⟩, ⟨by decide, ?_⟩, True.intro⟩
  decide

/-- A third party replaces the reporter's price, and the aggregate is the third party's. -/
theorem foreign_price_read :
    ¬ ∀ calls, (machine (0 : Nat)).observe reading {} calls =
      (machine (0 : Nat)).observe reading {} (calls.filter (reported sampleReporter)) := by
  intro same
  exact absurd (same (submissions 2 3)) (by decide)

end SorobanPlayground.PriceAggregator
