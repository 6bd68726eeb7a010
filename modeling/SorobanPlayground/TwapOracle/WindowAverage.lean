import SorobanPlayground.Library.Rounding
import SorobanPlayground.Library.StepFunction
import SorobanPlayground.TwapOracle.Contract

/-! # The average over a window

The price of an asset is a step function of time: each submission is in force until the
next. The oracle averages it between the first and the last observation of the window.
Before the first another price was in force and after the last one its price still is:
the result is the average over the window exactly when these left-out seconds average to
the rest, up to rounding.
-/

namespace SorobanPlayground.TwapOracle

open List

open StepFunction (Sample integral Chronological Raised)

variable {Address : Type} {contract : Address}

def Observation.sample (obs : Observation Address) : Sample :=
  { time := obs.timestamp, value := obs.price }

def Observation.record (obs : Observation Address) : Sample × Int :=
  (obs.sample, obs.cumulativePrice)

/-- The accepted prices of an asset after a successful call. -/
def follow (assetId : Nat) (_ : State Address) (call : Env Address contract × Operation Address)
    (_ : State Address) (history : List Sample) : List Sample :=
  match call.2 with
  | .submitPrice _ id price =>
      if id = assetId then history ++ [{ time := call.1.timestamp, value := price }] else history
  | _ => history

variable [DecidableEq Address]

/-- The oracle beside whose state the prices of an asset are recorded. -/
def recorded (contract : Address) (assetId : Nat) :
    CallMachine (State Address × List Sample) (Env Address contract × Operation Address)
      (Failure Error) :=
  (machine contract).withGhost (follow assetId)

/-- The accepted prices of an asset in a run. -/
def submitted (assetId : Nat) (calls : List (Env Address contract × Operation Address)) :
    List Sample :=
  ((recorded contract assetId).run ({}, []) calls).2

/-- The running total of an asset does not saturate. -/
def Unsaturated (assetId : Nat) (state : State Address)
    (call : Env Address contract × Operation Address) : Prop :=
  ∀ feeder price, call.2 = .submitPrice feeder assetId price →
    ∀ last ∈ (state.getObservations assetId).getLast?,
      InI128 (last.price * (call.1.timestamp - last.timestamp : Nat)) ∧
      InI128 (last.cumulativePrice + last.price * (call.1.timestamp - last.timestamp : Nat))

def State.inWindow (state : State Address) (assetId windowStart : Nat) :
    List (Observation Address) :=
  (state.getObservations assetId).filter fun obs => windowStart ≤ obs.timestamp

/-- The seconds of the window before its first observation and after its last, weighed against the
average between the two, stay within the rounding. -/
def LeftOutAverages (history : List Sample) (state : State Address)
    (assetId windowStart now : Nat) : Prop :=
  ∀ first last, (state.inWindow assetId windowStart).head? = some first →
    (state.inWindow assetId windowStart).getLast? = some last →
    let observed := integral history first.timestamp last.timestamp
    let leftOut := integral history windowStart first.timestamp +
      integral history last.timestamp now
    let seconds : Int := last.timestamp - first.timestamp
    let more : Int := first.timestamp - windowStart + (now - last.timestamp)
    observed * more - leftOut * seconds ≤ observed % seconds * (seconds + more) ∧
      leftOut * seconds - observed * more < (seconds - observed % seconds) * (seconds + more)

/-- The kept observations end the history, and their totals integrate it. -/
structure Recorded (stored : List (Observation Address)) (history : List Sample)
    (dropped : List (Sample × Int)) : Prop where
  raised : (dropped ++ stored.map Observation.record).IsChain Raised
  samples : (dropped ++ stored.map Observation.record).map Prod.fst = history
  started : stored = [] → dropped = []
  chronological : Chronological history
  positive : ∀ sample ∈ history, 0 < sample.value

def Books (assetId : Nat) (account : State Address × List Sample) : Prop :=
  ∃ dropped, Recorded (account.1.getObservations assetId) account.2 dropped

variable {assetId : Nat} {state next : State Address} {history : List Sample}
  {env : Env Address contract} {operation : Operation Address} {got : List (Observation Address)}

omit [DecidableEq Address] in
theorem Recorded.push {dropped : List (Sample × Int)} (books : Recorded got history dropped)
    {obs : Observation Address} (clocked : ∀ sample ∈ history, sample.time ≤ obs.timestamp)
    (pos : 0 < obs.price) (total : ∀ last, got.getLast? = some last →
      obs.cumulativePrice = last.cumulativePrice + last.price * (obs.timestamp - last.timestamp))
    (maxObs : Nat) :
    ∃ dropped, Recorded ((if maxObs ≤ got.length then got.tail else got) ++ [obs])
      (history ++ [obs.sample]) dropped := by
  have appended : dropped ++ (got ++ [obs]).map Observation.record =
      (dropped ++ got.map Observation.record) ++ [obs.record] := by
    rw [map_append, ← append_assoc]
    rfl
  have pushed : Recorded (got ++ [obs]) (history ++ [obs.sample]) dropped := by
    refine ⟨?_, ?_, fun none => ?_, ?_, ?_⟩
    · rw [appended]
      refine books.raised.append (isChain_singleton _) ?_
      rintro last found _ ⟨⟩
      rcases eq_nil_or_concat got with rfl | ⟨_, latest, rfl⟩
      · rw [books.started rfl] at found
        cases found
      · rw [concat_eq_append] at found total
        rw [map_append, ← append_assoc, map_singleton, List.getLast?_concat] at found
        cases found
        exact total latest List.getLast?_concat
    · rw [appended, map_append, books.samples]
      rfl
    · exact absurd none (append_ne_nil_of_right_ne_nil _ (cons_ne_nil obs []))
    · refine pairwise_append.mpr ⟨books.chronological, pairwise_singleton _ _, ?_⟩
      intro sample mem last here
      rw [mem_singleton.mp here]
      exact clocked sample mem
    · intro sample mem
      rcases mem_append.mp mem with before | this
      · exact books.positive sample before
      · rw [mem_singleton.mp this]
        exact pos
  split
  · cases got with
    | nil => exact ⟨dropped, pushed⟩
    | cons oldest got =>
      have shifted : (dropped ++ [oldest.record]) ++ (got ++ [obs]).map Observation.record =
          dropped ++ (oldest :: got ++ [obs]).map Observation.record := by
        rw [append_assoc]
        rfl
      refine ⟨dropped ++ [oldest.record], ?_, ?_, fun none => ?_, pushed.chronological,
        pushed.positive⟩
      · rw [tail_cons, shifted]
        exact pushed.raised
      · rw [tail_cons, shifted]
        exact pushed.samples
      · exact absurd none (append_ne_nil_of_right_ne_nil _ (cons_ne_nil obs []))
  · exact ⟨dropped, pushed⟩

theorem dispatch_observations (assetId : Nat) (ran : dispatch state (env, operation) = .ok next) :
    (∃ feeder price, operation = .submitPrice feeder assetId price ∧ 0 < price ∧
      next.getObservations assetId =
        (if maxObservations ≤ (state.getObservations assetId).length then
          (state.getObservations assetId).tail else state.getObservations assetId) ++
        [{ feeder, price, timestamp := env.timestamp,
           cumulativePrice := cumulativeAt (state.getObservations assetId) env.timestamp }]) ∨
    ((∀ feeder price, operation ≠ .submitPrice feeder assetId price) ∧
      next.getObservations assetId = state.getObservations assetId) := by
  cases operation with
  | submitPrice feeder id price =>
    simp only [dispatch, submitPrice, call_ok] at ran
    obtain ⟨-, -, -, -, -, pos, _, -, -, rfl⟩ := ran
    by_cases same : assetId = id
    · subst same
      refine .inl ⟨feeder, price, rfl, not_le.mp pos, ?_⟩
      exact congrArg (Option.getD · []) (get_set_self _ _ _)
    · refine .inr ⟨?_, ?_⟩
      · rintro _ _ ⟨⟩
        exact same rfl
      · exact congrArg (Option.getD · []) (get_set_of_ne _ _ same)
  | _ =>
    refine .inr ⟨by simp, ?_⟩
    apply Outcome.Yields.of_ok ran
    simp only [dispatch, initializeOracle, setPaused, setFeeder, registerAsset, deactivateAsset,
      yields_bind, yields_pure, yields_true, yields_map, State.getObservations]

omit [DecidableEq Address] in
theorem cumulativeAt_eq {last : Observation Address} {now : Nat} (found : got.getLast? = some last)
    (clocked : last.timestamp ≤ now) (scaled : InI128 (last.price * (now - last.timestamp : Nat)))
    (total : InI128 (last.cumulativePrice + last.price * (now - last.timestamp : Nat))) :
    cumulativeAt got now = last.cumulativePrice + last.price * (now - last.timestamp) := by
  unfold cumulativeAt
  rw [found]
  dsimp only
  rw [saturateI128_of_mem scaled, saturateI128_of_mem total, Int.ofNat_sub clocked]

/-- The clock does not go back behind an accepted price. -/
def Clocked (account : State Address × List Sample)
    (call : Env Address contract × Operation Address) : Prop :=
  ∀ sample ∈ account.2, sample.time ≤ call.1.timestamp

theorem books_step (account : State Address × List Sample)
    (call : Env Address contract × Operation Address) (next : State Address × List Sample)
    (books : Books assetId account) (clocked : Clocked account call)
    (unsaturated : Unsaturated assetId account.1 call)
    (ran : (recorded contract assetId).exec account call = .ok next) : Books assetId next := by
  obtain ⟨dispatched, followed⟩ := withGhost_exec_eq_ok.mp ran
  obtain ⟨dropped, recorded⟩ := books
  unfold Books
  rcases dispatch_observations assetId dispatched with
    ⟨feeder, price, operation, pos, pushed⟩ | ⟨other, same⟩
  · have history : next.2 = account.2 ++ [{ time := call.1.timestamp, value := price }] := by
      rw [followed]
      unfold follow
      rw [operation]
      exact if_pos rfl
    rw [pushed, history]
    refine recorded.push ?_ pos ?_ maxObservations
    · exact clocked
    intro last found
    obtain ⟨scaled, total⟩ := unsaturated feeder price operation last found
    refine cumulativeAt_eq found ?_ scaled total
    refine clocked last.sample ?_
    rw [← recorded.samples, map_append, mem_append]
    exact .inr (mem_map_of_mem (mem_map_of_mem (mem_of_getLast? found)))
  · have history : next.2 = account.2 := by
      rw [followed]
      unfold follow
      split
      · next feeder id price operation =>
        refine if_neg ?_
        rintro rfl
        exact other feeder price operation
      · rfl
    rw [same, history]
    exact ⟨dropped, recorded⟩

variable {account : State Address × List Sample}
  {calls : List (Env Address contract × Operation Address)}
  {call : Env Address contract × Operation Address}

omit [DecidableEq Address] in
theorem follow_subset {state next : State Address} {history : List Sample} {sample : Sample}
    (mem : sample ∈ follow assetId state call next history) :
    sample ∈ history ∨ sample.time = call.1.timestamp := by
  unfold follow at mem
  split at mem
  · split at mem
    · rcases mem_append.mp mem with before | this
      · exact .inl before
      · rw [mem_singleton.mp this]
        exact .inr rfl
    · exact .inl mem
  · exact .inl mem

variable {bound : Nat}

theorem exec_times {next : State Address × List Sample}
    (before : ∀ sample ∈ account.2, sample.time ≤ bound)
    (ran : (recorded contract assetId).exec account call = .ok next)
    (called : call.1.timestamp ≤ bound) : ∀ sample ∈ next.2, sample.time ≤ bound := by
  intro sample mem
  rw [(withGhost_exec_eq_ok.mp ran).2] at mem
  rcases follow_subset mem with earlier | now
  · exact before sample earlier
  · exact now.trans_le called

theorem run_times (before : ∀ sample ∈ account.2, sample.time ≤ bound)
    (called : ∀ call ∈ calls, call.1.timestamp ≤ bound) :
    ∀ sample ∈ ((recorded contract assetId).run account calls).2, sample.time ≤ bound := by
  have meets : (recorded contract assetId).Meets (fun _ call => call.1.timestamp ≤ bound) account
      calls := meets_of_mem (fun call mem _ => called call mem) account
  have always : (recorded contract assetId).Always
      (fun account => ∀ sample ∈ account.2, sample.time ≤ bound) account calls :=
    always_of_meets (fun _ _ _ before called ran => exec_times before ran called) before
      meets
  exact always.final

theorem books_run
    (ordered : calls.Pairwise fun earlier later => earlier.1.timestamp ≤ later.1.timestamp)
    (unsaturated : (machine contract).Meets (Unsaturated assetId) {} calls) :
    Books assetId ((recorded contract assetId).run ({}, []) calls) := by
  have initial : Books assetId (({}, []) : State Address × List Sample) :=
    ⟨[], .nil, rfl, fun _ => rfl, .nil, nofun⟩
  have clocked : (recorded contract assetId).Meets Clocked ({}, []) calls := by
    refine meets_of_pairwise ?_ ordered fun _ _ => nofun
    exact fun _ _ _ _ clocked ran later => exec_times clocked ran later
  have exact : (recorded contract assetId).Meets
      (fun account => Unsaturated assetId account.1) ({}, []) calls :=
    withGhost_meets.mpr unsaturated
  have always : (recorded contract assetId).Always (Books assetId) ({}, []) calls := by
    refine always_of_meets ?_ initial (clocked.and exact)
    rintro state call next books ⟨clocked, unsaturated⟩ ran
    exact books_step state call next books clocked unsaturated ran
  exact always.final

section

omit [DecidableEq Address]

theorem scan_eq (windowStart : Nat) (all : List (Observation Address)) :
    all.foldl (scanRound windowStart) {} =
      { startObs := (all.filter fun obs => windowStart ≤ obs.timestamp).head?
        endObs := (all.filter fun obs => windowStart ≤ obs.timestamp).getLast?
        count := (all.filter fun obs => windowStart ≤ obs.timestamp).length } := by
  induction all using List.reverseRecOn with
  | nil => rfl
  | append_singleton all obs ih =>
    rw [foldl_append, ih, foldl_cons, foldl_nil, filter_append]
    unfold scanRound
    split
    · next inside =>
      rw [filter_cons_of_pos (by simpa using inside), filter_nil,
        List.getLast?_concat, List.head?_append, length_append]
      cases (all.filter fun obs => windowStart ≤ obs.timestamp).head? <;> rfl
    · next outside =>
      rw [filter_cons_of_neg (by simpa using outside), filter_nil, append_nil]

theorem getTwap_eq_ok {windowSecs : Nat} {result : TwapResult}
    (ran : getTwap env assetId windowSecs state = .ok result) :
    ∃ first last,
      (state.inWindow assetId (env.timestamp - windowOf windowSecs)).head? = some first ∧
      (state.inWindow assetId (env.timestamp - windowOf windowSecs)).getLast? = some last ∧
      first.timestamp < last.timestamp ∧
      result.price = (last.cumulativePrice - first.cumulativePrice).tdiv
        (last.timestamp - first.timestamp : Nat) := by
  simp only [getTwap, scan_eq, call_ok, arith_ok] at ran
  obtain ⟨-, -, -, -, -, first, starts, last, ends, spread, -, -, -, -,
    rfl⟩ := ran
  exact ⟨first, last, starts, ends, not_le.mp (not_or.mp spread).2, rfl⟩

theorem price_eq_average {windowSecs : Nat} {result : TwapResult}
    (books : Books assetId (state, history))
    (ran : getTwap env assetId windowSecs state = .ok result) :
    ∃ first last,
      (state.inWindow assetId (env.timestamp - windowOf windowSecs)).head? = some first ∧
      (state.inWindow assetId (env.timestamp - windowOf windowSecs)).getLast? = some last ∧
      first.timestamp < last.timestamp ∧ last.sample ∈ history ∧
      env.timestamp - windowOf windowSecs ≤ first.timestamp ∧
      result.price = integral history first.timestamp last.timestamp /
        (last.timestamp - first.timestamp) := by
  obtain ⟨first, last, starts, ends, spread, price⟩ := getTwap_eq_ok ran
  obtain ⟨dropped, recorded⟩ :
      ∃ dropped, Recorded (state.getObservations assetId) history dropped := books
  have ordered : (state.getObservations assetId).Pairwise
      fun earlier later => earlier.timestamp ≤ later.timestamp := by
    have chronological := recorded.chronological
    rw [← recorded.samples, map_append, map_map] at chronological
    have kept := (pairwise_append.mp chronological).2.1
    rw [pairwise_map] at kept
    exact kept
  obtain ⟨early, split⟩ : ∃ early, state.getObservations assetId =
      early ++ state.inWindow assetId (env.timestamp - windowOf windowSecs) :=
    StepFunction.exists_early ordered fun behind late =>
      decide_eq_true ((of_decide_eq_true late).trans behind)
  have here := mem_of_getLast? ends
  have inside : env.timestamp - windowOf windowSecs ≤ first.timestamp :=
    of_decide_eq_true (mem_filter.mp (mem_of_head? starts)).2
  have mem : last.sample ∈ history := by
    rw [← recorded.samples, map_append, mem_append]
    exact .inr (mem_map_of_mem (mem_map_of_mem (mem_filter.mp here).1))
  refine ⟨first, last, starts, ends, spread, mem, inside, ?_⟩
  obtain ⟨rest, recent⟩ := List.head?_eq_some_iff.mp starts
  rw [recent] at split ends
  have all : dropped ++ (state.getObservations assetId).map Observation.record =
      (dropped ++ early.map Observation.record) ++ first.record :: rest.map Observation.record := by
    rw [split, map_append, map_cons, append_assoc]
  have gain : integral history first.timestamp last.timestamp =
      last.cumulativePrice - first.cumulativePrice := by
    have raised := recorded.raised
    have chronological := recorded.chronological
    rw [all] at raised
    rw [← recorded.samples, all] at chronological ⊢
    have latest : (first.record :: rest.map Observation.record).getLast? = some last.record := by
      rw [← map_cons, List.getLast?_map, ends]
      rfl
    exact StepFunction.integral_eq_gain chronological raised.right_of_append latest
  have nonneg : 0 ≤ integral history first.timestamp last.timestamp :=
    StepFunction.integral_nonneg (fun sample mem => (recorded.positive sample mem).le) _ _
  rw [price, ← gain, Int.tdiv_eq_ediv_of_nonneg nonneg, Int.ofNat_sub spread.le]

end

/-- In a run that saturates no total of the asset, a query whose window starts no earlier than the
kept observations returns the rounded average of the prices in force exactly if the seconds that it
leaves out average to the rest. -/
theorem twap_eq_average_iff (assetId : Nat)
    (calls : List (Env Address contract × Operation Address))
    (ordered : calls.Pairwise fun earlier later => earlier.1.timestamp ≤ later.1.timestamp)
    (unsaturated : (machine contract).Meets (Unsaturated assetId) {} calls)
    (env : Env Address contract) (called : ∀ call ∈ calls, call.1.timestamp ≤ env.timestamp)
    (windowSecs : Nat) (result : TwapResult)
    (executed : getTwap env assetId windowSecs ((machine contract).run {} calls) = .ok result)
    (oldest : ∀ obs,
      (((machine contract).run {} calls).getObservations assetId).head? = some obs →
      obs.timestamp + windowOf windowSecs ≤ env.timestamp) :
    result.price = integral (submitted assetId calls) (env.timestamp - windowOf windowSecs)
        env.timestamp / windowOf windowSecs ↔
      LeftOutAverages (submitted assetId calls) ((machine contract).run {} calls) assetId
        (env.timestamp - windowOf windowSecs) env.timestamp := by
  have books : Books assetId ((machine contract).run {} calls, submitted assetId calls) := by
    have reached := books_run ordered unsaturated
    have same :
        ((recorded contract assetId).run ({}, []) calls).1 = (machine contract).run {} calls :=
      withGhost_run_fst _ calls
    rw [← same]
    exact reached
  obtain ⟨first, last, starts, ends, spread, mem, inside, price⟩ :=
    price_eq_average books executed
  have never : ∀ sample ∈ (({}, []) : State Address × List Sample).2,
      sample.time ≤ env.timestamp := nofun
  have current : last.timestamp ≤ env.timestamp := run_times never called last.sample mem
  have window : windowOf windowSecs ≤ env.timestamp := by
    have got := (mem_filter.mp (mem_of_head? starts)).1
    cases found : ((machine contract).run {} calls).getObservations assetId with
    | nil =>
      rw [found] at got
      cases got
    | cons obs =>
      have early := oldest obs (by rw [found]; rfl)
      omega
  have seconds : (0 : Int) < last.timestamp - first.timestamp := by omega
  have more : (0 : Int) ≤ first.timestamp - (env.timestamp - windowOf windowSecs : Nat) +
      (env.timestamp - last.timestamp) := by omega
  have length : (windowOf windowSecs : Int) = last.timestamp - first.timestamp +
      (first.timestamp - (env.timestamp - windowOf windowSecs : Nat) +
        (env.timestamp - last.timestamp)) := by omega
  have whole : integral (submitted assetId calls) (env.timestamp - windowOf windowSecs)
      env.timestamp = integral (submitted assetId calls) first.timestamp last.timestamp +
        (integral (submitted assetId calls) (env.timestamp - windowOf windowSecs) first.timestamp +
          integral (submitted assetId calls) last.timestamp env.timestamp) := by
    rw [← StepFunction.integral_add inside (spread.le.trans current), ← StepFunction.integral_add
      spread.le current]
    ring
  rw [price, whole, length, Rounding.ediv_eq_ediv_add_iff seconds more]
  constructor
  · rintro within _ _ found found'
    cases starts.symm.trans found
    obtain rfl := Option.mem_unique ends found'
    exact within
  · intro averages
    exact averages first last starts ends

/-! A price of 1 from the start and of 1,000 for the last two seconds of a window of ten. -/

/-- The admin 1 and the feeder 2 sign. -/
def signedAt (timestamp : Nat) : Env Nat 0 :=
  { timestamp, auths := [1, 2], contract_silent := zero_notMem_two_signers }

def lateSpike : List (Env Nat 0 × Operation Nat) :=
  [(signedAt 0, .initializeOracle 1), (signedAt 0, .setFeeder 1 2 true),
    (signedAt 0, .registerAsset 1 "XLM" 60), (signedAt 0, .submitPrice 2 1 1),
    (signedAt 18, .submitPrice 2 1 1000), (signedAt 19, .submitPrice 2 1 1000)]

theorem twap_eq_average_iff_late_spike :
    ∃ result, getTwap (signedAt 20) 1 10 ((machine 0).run {} lateSpike) = .ok result ∧
      (result.price = integral (submitted 1 lateSpike) 10 20 / 10 ↔
        LeftOutAverages (submitted 1 lateSpike) ((machine 0).run {} lateSpike) 1 10 20) := by
  refine ⟨⟨1000, 18, 19, 2⟩, rfl, twap_eq_average_iff 1 lateSpike (by decide) ?_ (signedAt 20)
    (by decide) 10 _ rfl ?_⟩
  · refine ⟨fun _ => nofun, fun _ => nofun, fun _ => nofun, ?_, ?_, ?_, trivial⟩ <;>
      rintro - _ _ ⟨⟩ <;> decide
  · rintro _ ⟨⟩
    decide

/-- The query returns the late price, though the average over the window is 200. -/
theorem late_spike_dominates :
    ∃ result, getTwap (signedAt 20) 1 10 ((machine 0).run {} lateSpike) = .ok result ∧
      result.price = 1000 ∧ integral (submitted 1 lateSpike) 10 20 / 10 = 200 ∧
      ∀ obs, (((machine 0).run {} lateSpike).getObservations 1).head? = some obs →
        obs.timestamp + 10 ≤ 20 := by
  refine ⟨⟨1000, 18, 19, 2⟩, rfl, rfl, by decide, ?_⟩
  rintro _ ⟨⟩
  decide

end SorobanPlayground.TwapOracle
