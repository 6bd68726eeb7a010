import Mathlib.Data.List.Perm.Subperm
import SorobanPlayground.Backend.EventIndexer.Storing
import SorobanPlayground.Library.SortedList

/-! # Progress of the indexer

A poll none of whose steps fails stores its page and moves the cursor to its last ledger. A ledger
that fills a page holds the cursor back.
-/

namespace SorobanPlayground.EventIndexer

open Function List State

variable {stream : Stream} {state next : State} {now : Int}

def lastLedger (startLedger : Nat) (page : List ContractEvent) : Nat :=
  page.foldl (fun latest event => max latest event.ledger) startLedger

theorem le_lastLedger (startLedger : Nat) (page : List ContractEvent) :
    startLedger ≤ lastLedger startLedger page ∧
      ∀ event ∈ page, event.ledger ≤ lastLedger startLedger page := by
  induction page generalizing startLedger with
  | nil => simp [lastLedger]
  | cons event _ ih =>
    obtain ⟨first, others⟩ := ih (max startLedger event.ledger)
    simp only [lastLedger, foldl_cons] at first others ⊢
    refine ⟨by omega, ?_⟩
    intro other mem
    rcases mem_cons.mp mem with rfl | mem
    · omega
    · exact others other mem

theorem lastLedger_cases (startLedger : Nat) (page : List ContractEvent) :
    lastLedger startLedger page = startLedger ∨
      ∃ event ∈ page, lastLedger startLedger page = event.ledger := by
  induction page generalizing startLedger with
  | nil => exact .inl rfl
  | cons event _ ih =>
    rcases ih (max startLedger event.ledger) with same | ⟨other, mem, same⟩
    · simp only [lastLedger, foldl_cons] at same ⊢
      rcases Nat.le_total startLedger event.ledger with _ | _
      · exact .inr ⟨event, mem_cons_self, by omega⟩
      · exact .inl (by omega)
    · exact .inr ⟨other, mem_cons_of_mem event mem, same⟩

variable {events : List ContractEvent}

theorem proceed_setPoll (state : State) {poll startLedger latestLedger : Nat} {phase : Option Phase}
    :
    (state.setPoll poll phase).proceed poll startLedger latestLedger events =
      state.proceed poll startLedger latestLedger events := by
  cases events with
  | cons => simp [proceed, State.setPoll]
  | nil => simp [proceed, finish, State.setPoll]

theorem insert_exec {poll startLedger latestLedger : Nat} {event : ContractEvent}
    {rest : List ContractEvent}
    (waiting : state.polls poll = some (.inserting startLedger latestLedger event rest)) :
    (machine stream).exec state (.insert poll now none) = .ok (proceed
      { state with rows := state.rows ++ [event] } poll startLedger
      (max latestLedger event.ledger) rest) := by
  rw [machine, ofStep_exec_eq_ok]
  simp only [step, waiting]

theorem run_inserts {startLedger latestLedger count : Nat} (enough : events.length ≤ count) :
    (machine stream).run (state.proceed 0 startLedger latestLedger events)
        (List.replicate count (.insert 0 now none)) =
      proceed { state with rows := state.rows ++ events } 0 startLedger
        (lastLedger latestLedger events) [] := by
  induction count generalizing state latestLedger events with
  | zero =>
    obtain rfl := length_eq_zero_iff.mp (Nat.le_zero.mp enough)
    simp [lastLedger]
  | succ count ih =>
    rw [replicate_succ, run_cons]
    cases events with
    | nil =>
      have idle : (machine stream).apply (state.proceed 0 startLedger latestLedger [])
          (.insert 0 now none) = state.proceed 0 startLedger latestLedger [] := by
        rw [machine, CallMachine.ofStep_apply]
        unfold proceed
        dsimp only
        split
        · simp [step, State.setPoll]
        · simp [step, finish, State.setPoll]
      rw [idle]
      exact ih (Nat.zero_le count)
    | cons event rest =>
      have waiting : (state.proceed 0 startLedger latestLedger (event :: rest)).polls 0 =
          some (.inserting startLedger latestLedger event rest) := by
        simp [proceed, State.setPoll]
      rw [apply_of_ok _ (insert_exec waiting)]
      have again : proceed { state.proceed 0 startLedger latestLedger (event :: rest) with
          rows := state.rows ++ [event] } 0 startLedger (max latestLedger event.ledger) rest =
            proceed { state with rows := state.rows ++ [event] } 0 startLedger
              (max latestLedger event.ledger) rest :=
        proceed_setPoll { state with rows := state.rows ++ [event] }
      rw [show (state.proceed 0 startLedger latestLedger (event :: rest)).rows = state.rows from
        rfl, again, ih (Nat.le_of_succ_le_succ enough)]
      simp [lastLedger]

/-- The circuit lets a poll begin. -/
def Ready (state : State) (now : Int) : Prop :=
  state.circuit.state = .opened → resetTimeoutMs ≤ now - state.circuit.lastFailureTime

theorem isCircuitOpen_of_ready (ready : Ready state now) :
    (state.circuit.isCircuitOpen now).1 = false := by
  unfold Circuit.isCircuitOpen
  by_cases opened : state.circuit.state = .opened
  · simp [opened, ready opened]
  · simp [opened]

/-- What a poll none of whose steps fails leaves. -/
structure Polled (stream : Stream) (state next : State) : Prop where
  rows : next.rows = state.rows ++ getEvents stream state.startLedger
  startLedger : next.startLedger = lastLedger state.startLedger (getEvents stream state.startLedger)
  idle : ∀ poll, next.polls poll = none
  closed : next.circuit.state = .closed

theorem getEvents_length_le (stream : Stream) (startLedger : Nat) :
    (getEvents stream startLedger).length ≤ 200 := by
  exact length_take_le 200 _

theorem exec_load (state : State) : (machine stream).exec
    (state.setPoll 0 (some .loading)) (.load 0 false) =
      .ok (State.setPoll (state.setPoll 0 (some .loading)) 0
        (some (.fetching state.startLedger))) := by
  rw [machine, ofStep_exec_eq_ok]
  simp [step, State.setPoll, State.startLedger]

theorem exec_fetch {startLedger : Nat} (waiting : state.polls 0 = some (.fetching startLedger)) :
    (machine stream).exec state (.fetch 0 now none) =
      .ok (state.proceed 0 startLedger startLedger (getEvents stream startLedger)) := by
  rw [machine, ofStep_exec_eq_ok]
  simp only [step, waiting]

theorem run_fetch (idle : state.polls 0 = none) (ready : Ready state now) :
    (machine stream).run state [.begin 0 now, .load 0 false, .fetch 0 now none] =
      proceed { state with circuit := (state.circuit.isCircuitOpen now).2 } 0
        state.startLedger state.startLedger (getEvents stream state.startLedger) := by
  have begun : (machine stream).exec state (.begin 0 now) = .ok (State.setPoll
      { state with circuit := (state.circuit.isCircuitOpen now).2 } 0 (some .loading)) := by
    rw [machine, ofStep_exec_eq_ok]
    simp [step, idle, isCircuitOpen_of_ready ready]
  generalize checked : { state with circuit := (state.circuit.isCircuitOpen now).2 } = next at begun
  have same : next.startLedger = state.startLedger := by
    rw [← checked]
    rfl
  have waiting : ((next.setPoll 0 (some .loading)).setPoll 0
      (some (.fetching next.startLedger))).polls 0 = some (.fetching next.startLedger) := by
    simp [State.setPoll]
  rw [run_cons, apply_of_ok _ begun, run_cons,
    apply_of_ok _ (exec_load next), run_cons, apply_of_ok _
    (exec_fetch waiting), run_nil, proceed_setPoll, proceed_setPoll, same]

theorem apply_save (stream : Stream) (idle : ∀ poll, state.polls poll = none) {latestLedger : Nat}
    (seen : state.startLedger ≤ latestLedger) :
    ∃ next, (machine stream).apply (state.proceed 0 state.startLedger latestLedger [])
        (.save 0 false) = next ∧
      next.rows = state.rows ∧ next.startLedger = latestLedger ∧
        (∀ poll, next.polls poll = none) ∧ next.circuit.state = .closed := by
  have cleared : ∀ (phase : Option Phase) (poll : Nat),
      update (update state.polls 0 phase) 0 none poll = none := by
    intro phase poll
    rw [update_idem, update_apply]
    split
    · rfl
    · exact idle poll
  refine ⟨_, rfl, ?_⟩
  rw [machine, CallMachine.ofStep_apply]
  unfold proceed
  by_cases further : state.startLedger < latestLedger
  · simp only [further, ↓reduceIte, step, State.setPoll, update_self, Option.getD_some,
      Bool.false_eq_true, finish, saveCursor, Circuit.recordSuccess]
    exact ⟨trivial, rfl, cleared _, trivial⟩
  · have same : latestLedger = state.startLedger := by omega
    simp only [further, ↓reduceIte, step, State.setPoll, finish, update_self,
      Option.getD_none, Circuit.recordSuccess]
    refine ⟨trivial, same.symm, ?_, trivial⟩
    intro poll
    have := cleared none poll
    rwa [update_idem] at this

theorem fullPoll_polled (idle : ∀ poll, state.polls poll = none) (ready : Ready state now) :
    Polled stream state ((machine stream).run state (fullPoll now)) := by
  rw [fullPoll, run_append, run_append, run_fetch (idle 0) ready,
    run_inserts (getEvents_length_le stream _), run_cons, run_nil]
  have fetched : ∀ got : State, (∀ poll, got.polls poll = none) →
      got.startLedger = state.startLedger →
      got.rows = state.rows ++ getEvents stream state.startLedger →
      Polled stream state ((machine stream).apply
        (got.proceed 0 state.startLedger
          (lastLedger state.startLedger (getEvents stream state.startLedger)) [])
        (.save 0 false)) := by
    intro got idle same rows
    have seen := (le_lastLedger state.startLedger (getEvents stream state.startLedger)).1
    rw [← same] at seen ⊢
    obtain ⟨_, applied, kept, cursor, none, closed⟩ := apply_save stream idle seen
    rw [applied]
    refine ⟨?_, ?_, none, closed⟩
    · rw [kept, rows]
    · rw [cursor, same]
  exact fetched _ idle rfl rfl

theorem mem_getEvents_of_small (small : SmallLedgers stream) {startLedger : Nat}
    (last : ∀ event ∈ getEvents stream startLedger, event.ledger = startLedger)
    {event : ContractEvent} (mem : event ∈ stream.events) (from' : startLedger ≤ event.ledger) :
    event ∈ getEvents stream startLedger := by
  by_contra missed
  have kept : event ∈ stream.events.filter (startLedger ≤ ·.ledger) :=
    mem_filter.mpr ⟨mem, decide_eq_true from'⟩
  have dropped : event ∈ (stream.events.filter (startLedger ≤ ·.ledger)).drop 200 := by
    rw [← take_append_drop 200 (stream.events.filter _)] at kept
    exact (mem_append.mp kept).resolve_left missed
  have long : 200 < (stream.events.filter (startLedger ≤ ·.ledger)).length := by
    by_contra short
    rw [drop_eq_nil_of_le (Nat.not_lt.mp short)] at dropped
    cases dropped
  have full : (getEvents stream startLedger).length = 200 := by
    rw [getEvents, length_take]
    omega
  have counted : (getEvents stream startLedger).countP (·.ledger = startLedger) = 200 := by
    rw [← full]
    exact countP_eq_length.mpr fun other paged => decide_eq_true (last other paged)
  have page := (getEvents_sublist stream startLedger).countP_le (p := (·.ledger = startLedger))
  obtain ⟨_, strict⟩ := small startLedger
  rcases Nat.lt_or_eq_of_le from' with later | same
  · have := strict ⟨event, mem, later⟩
    omega
  · -- the missed event is one more of the cursor's ledger
    have more : ((event :: getEvents stream startLedger).countP (·.ledger = startLedger)) ≤
        stream.events.countP (·.ledger = startLedger) := by
      refine List.Subperm.countP_le _ (subperm_of_subset ?_ ?_)
      · exact nodup_cons.mpr
          ⟨missed, stream.distinct.sublist (getEvents_sublist stream startLedger)⟩
      · intro other listed
        rcases mem_cons.mp listed with rfl | listed
        · exact mem
        · exact (getEvents_sublist stream startLedger).subset listed
    rw [countP_cons_of_pos (by simp [same]), counted] at more
    omega

theorem Polled.stored (polled : Polled stream state next)
    (complete : ∀ event ∈ stream.events, event.ledger < state.startLedger → event ∈ state.rows) :
    ∀ event ∈ stream.events, event.ledger < next.startLedger → event ∈ next.rows := by
  intro event mem below
  rw [polled.startLedger] at below
  rw [polled.rows, mem_append]
  by_cases before : event.ledger < state.startLedger
  · exact .inl (complete event mem before)
  · rcases lastLedger_cases state.startLedger (getEvents stream state.startLedger) with
      same | ⟨last, paged, same⟩
    · rw [same] at below
      exact absurd below before
    · rw [same] at below
      exact .inr (mem_getEvents_of_lt mem (Nat.not_lt.mp before) paged below)

theorem run_polls_succ (count : Nat) :
    (machine stream).run state (polls now (count + 1)) =
      (machine stream).run ((machine stream).run state (fullPoll now)) (polls now count) := by
  rw [polls, replicate_succ, flatten_cons, run_append]
  rfl

theorem exists_polls_stored (small : SmallLedgers stream)
    (complete : ∀ event ∈ stream.events, event.ledger < state.startLedger → event ∈ state.rows)
    (idle : ∀ poll, state.polls poll = none) (ready : Ready state now) :
    ∃ count, ∀ event ∈ stream.events,
      event ∈ ((machine stream).run state (polls now count)).rows := by
  induction counted : stream.events.countP (state.startLedger < ·.ledger) using Nat.strongRecOn
    generalizing state with
  | ind left ih =>
    have polled : Polled stream state _ := fullPoll_polled idle ready
    have complete' := polled.stored complete
    by_cases moves : ∃ event ∈ getEvents stream state.startLedger, state.startLedger < event.ledger
    · obtain ⟨later, paged, further⟩ := moves
      have seen := (le_lastLedger state.startLedger (getEvents stream state.startLedger)).2
      have fewer : stream.events.countP
          (((machine stream).run state (fullPoll now)).startLedger < ·.ledger) < left := by
        rw [polled.startLedger, ← counted]
        have passed := seen later paged
        apply SortedList.countP_lt_countP
          ((getEvents_sublist stream state.startLedger).subset paged)
        · simp only [decide_eq_true_eq]
          omega
        · exact decide_eq_true further
        · simpa using passed
      have ready' : Ready ((machine stream).run state (fullPoll now)) now := by
        intro opened
        exact absurd (polled.closed.symm.trans opened) (by decide)
      obtain ⟨count, _⟩ := ih _ fewer complete' polled.idle ready' rfl
      exact ⟨count + 1, by rwa [run_polls_succ]⟩
    · refine ⟨0 + 1, ?_⟩
      intro event mem
      rw [run_polls_succ, show polls now 0 = [] from rfl, run_nil, polled.rows, mem_append]
      by_cases below : event.ledger < state.startLedger
      · exact .inl (complete event mem below)
      · right
        apply mem_getEvents_of_small small _ mem (Nat.not_lt.mp below)
        intro other paged
        have bound := le_of_mem_getEvents paged
        by_contra ne
        exact moves ⟨other, paged, by omega⟩

/-- An event that no page from a ledger or an earlier one holds, as these end with the ledger. -/
structure Blocked (stream : Stream) (ledger : Nat) (missed : ContractEvent) : Prop where
  member : missed ∈ stream.events
  ends : ∀ startLedger, startLedger ≤ ledger → ∀ event ∈ getEvents stream startLedger,
    event.ledger ≤ ledger ∧ event ≠ missed

theorem getEvents_eq_take {startLedger ledger : Nat} (from' : startLedger ≤ ledger)
    (full : 200 ≤ stream.events.countP (·.ledger = ledger)) :
    getEvents stream startLedger =
      ((stream.events.filter (startLedger ≤ ·.ledger)).filter (·.ledger ≤ ledger)).take 200 := by
  apply SortedList.take_eq_take_filter
  · have sorted := stream.sorted.sublist (filter_sublist (p := (startLedger ≤ ·.ledger)))
    apply sorted.imp
    intro earlier later before below
    simp only [decide_eq_true_eq] at below ⊢
    omega
  · rw [filter_filter]
    refine Nat.le_trans full ?_
    rw [← countP_eq_length_filter]
    apply countP_mono_left
    intro event _ same
    simp only [decide_eq_true_eq, Bool.and_eq_true] at same ⊢
    omega

theorem exists_blocked (large : ¬ SmallLedgers stream) :
    ∃ ledger missed, Blocked stream ledger missed := by
  unfold SmallLedgers at large
  push Not at large
  obtain ⟨ledger, large⟩ := large
  have full : 200 ≤ stream.events.countP (·.ledger = ledger) := by
    by_contra few
    have := large (by omega)
    omega
  have ends : ∀ startLedger, startLedger ≤ ledger → ∀ event ∈ getEvents stream startLedger,
      event.ledger ≤ ledger := by
    intro startLedger from' event paged
    rw [getEvents_eq_take from' full] at paged
    exact of_decide_eq_true (mem_filter.mp (mem_of_mem_take paged)).2
  by_cases beyond : ∃ event ∈ stream.events, ledger < event.ledger
  · obtain ⟨missed, mem, later⟩ := beyond
    refine ⟨ledger, missed, mem, ?_⟩
    intro startLedger from' event paged
    have bound := ends startLedger from' event paged
    refine ⟨bound, ?_⟩
    rintro rfl
    omega
  · -- the ledger is the last one, and its last event is the last of the stream
    have long : 200 < stream.events.countP (·.ledger = ledger) := by
      by_contra few
      obtain ⟨⟨event, mem, later⟩, -⟩ := large (by omega)
      exact beyond ⟨event, mem, later⟩
    rcases eq_nil_or_concat stream.events with empty | ⟨init, missed, split⟩
    · rw [empty] at long
      cases long
    rw [concat_eq_append] at split
    have last : missed.ledger = ledger := by
      have top : missed.ledger ≤ ledger := by
        by_contra above
        exact beyond ⟨missed, by simp [split], by omega⟩
      obtain ⟨event, mem, same⟩ := countP_pos_iff.mp (by omega :
        0 < stream.events.countP (·.ledger = ledger))
      have sorted := stream.sorted
      rw [split] at sorted mem
      simp only [decide_eq_true_eq] at same
      rcases mem_append.mp mem with earlier | only
      · have := (pairwise_append.mp sorted).2.2 event earlier missed (by simp)
        omega
      · rw [← mem_singleton.mp only, same]
    refine ⟨ledger, missed, by simp [split], ?_⟩
    intro startLedger from' event paged
    refine ⟨ends startLedger from' event paged, ?_⟩
    rintro rfl
    have page : stream.events.filter (startLedger ≤ ·.ledger) =
        init.filter (startLedger ≤ ·.ledger) ++ [event] := by
      simp [split, filter_append, last, from']
    have count : 200 < (stream.events.filter (startLedger ≤ ·.ledger)).length := by
      refine Nat.lt_of_lt_of_le long ?_
      rw [← countP_eq_length_filter]
      apply countP_mono_left
      intro other _ same
      simp only [decide_eq_true_eq] at same ⊢
      omega
    have apart := stream.distinct.filter (startLedger ≤ ·.ledger)
    rw [page] at apart count
    rw [getEvents, page] at paged
    refine SortedList.getLast_notMem_take apart ?_ paged
    simpa [Nat.lt_succ_iff] using count

/-- A blocked event is not stored, and no poll gets past the ledger. -/
structure Held (ledger : Nat) (missed : ContractEvent) (state : State) : Prop where
  cursor : state.startLedger ≤ ledger
  rows : missed ∉ state.rows
  fetching : ∀ poll startLedger, state.polls poll = some (.fetching startLedger) →
    startLedger ≤ ledger
  inserting : ∀ poll startLedger latestLedger event rest,
    state.polls poll = some (.inserting startLedger latestLedger event rest) →
      latestLedger ≤ ledger ∧ ∀ other ∈ event :: rest, other.ledger ≤ ledger ∧ other ≠ missed
  saving : ∀ poll latestLedger, state.polls poll = some (.saving latestLedger) →
    latestLedger ≤ ledger

namespace Held

variable {ledger : Nat} {missed : ContractEvent} {poll : Nat}

theorem setPoll (held : Held ledger missed state) {phase : Option Phase}
    (enters : ∀ entered, phase = some entered → match entered with
      | .loading => True
      | .fetching startLedger => startLedger ≤ ledger
      | .inserting _ latestLedger event rest =>
        latestLedger ≤ ledger ∧ ∀ other ∈ event :: rest, other.ledger ≤ ledger ∧ other ≠ missed
      | .saving latestLedger => latestLedger ≤ ledger) :
    Held ledger missed (state.setPoll poll phase) := by
  refine ⟨held.cursor, held.rows, ?_, ?_, ?_⟩
  · intro other startLedger running
    by_cases own : other = poll
    · subst own
      simp only [State.setPoll, update_self] at running
      exact enters _ running
    · simp only [State.setPoll, update_of_ne own] at running
      exact held.fetching other startLedger running
  · intro other startLedger latestLedger event rest running
    by_cases own : other = poll
    · subst own
      simp only [State.setPoll, update_self] at running
      exact enters _ running
    · simp only [State.setPoll, update_of_ne own] at running
      exact held.inserting other startLedger latestLedger event rest running
  · intro other latestLedger running
    by_cases own : other = poll
    · subst own
      simp only [State.setPoll, update_self] at running
      exact enters _ running
    · simp only [State.setPoll, update_of_ne own] at running
      exact held.saving other latestLedger running

theorem circuit (held : Held ledger missed state) (circuit : Circuit) :
    Held ledger missed { state with circuit } :=
  ⟨held.cursor, held.rows, held.fetching, held.inserting, held.saving⟩

theorem proceed (held : Held ledger missed state) {startLedger latestLedger : Nat}
    (latest : latestLedger ≤ ledger)
    (bound : ∀ event ∈ events, event.ledger ≤ ledger ∧ event ≠ missed) :
    Held ledger missed (state.proceed poll startLedger latestLedger events) := by
  cases events with
  | cons =>
    apply held.setPoll
    intro entered same
    cases same
    exact ⟨latest, bound⟩
  | nil =>
    unfold proceed
    dsimp only
    split
    · apply held.setPoll
      intro entered same
      cases same
      exact latest
    · have idle : Held ledger missed (state.setPoll poll none) := held.setPoll (by simp)
      exact idle.circuit _

theorem step (blocked : Blocked stream ledger missed) (state : State) (action : Action)
    (next : State) (held : Held ledger missed state)
    (ran : (machine stream).exec state action = .ok next) : Held ledger missed next := by
  cases Effect.of_exec ran with
  | refused => exact held.circuit _
  | begin =>
    apply (held.circuit _).setPoll
    intro entered same
    cases same
    trivial
  | @load poll fails waiting =>
    apply held.setPoll
    intro entered same
    cases same
    cases fails with
    | true => exact Nat.zero_le ledger
    | false => exact held.cursor
  | @failFetch poll now category startLedger waiting =>
    have idle : Held ledger missed (state.setPoll poll none) := held.setPoll (by simp)
    exact idle.circuit _
  | @fetch poll now startLedger waiting =>
    have from' := held.fetching poll startLedger waiting
    exact held.proceed from' (blocked.ends startLedger from')
  | failInsert waiting =>
    obtain ⟨latest, bound⟩ := held.inserting _ _ _ _ _ waiting
    apply (held.circuit _).proceed
    · exact Nat.max_le.mpr ⟨latest, (bound _ mem_cons_self).1⟩
    · exact fun other mem => bound other (mem_cons_of_mem _ mem)
  | @insert poll now startLedger latestLedger event rest waiting =>
    obtain ⟨latest, bound⟩ := held.inserting _ _ _ _ _ waiting
    have got : Held ledger missed { state with rows := state.rows ++ [event] } := by
      refine ⟨held.cursor, ?_, held.fetching, held.inserting, held.saving⟩
      simp only [mem_append, mem_singleton, not_or]
      exact ⟨held.rows, fun same => (bound event mem_cons_self).2 same.symm⟩
    apply got.proceed
    · exact Nat.max_le.mpr ⟨latest, (bound _ mem_cons_self).1⟩
    · exact fun other mem => bound other (mem_cons_of_mem _ mem)
  | @failSave poll latestLedger waiting =>
    have idle : Held ledger missed (state.setPoll poll none) := held.setPoll (by simp)
    exact idle.circuit _
  | @save poll latestLedger waiting =>
    have saved : Held ledger missed (state.saveCursor latestLedger) :=
      ⟨held.saving poll latestLedger waiting, held.rows, held.fetching, held.inserting, held.saving⟩
    have idle : Held ledger missed ((state.saveCursor latestLedger).setPoll poll none) :=
      saved.setPoll (by simp)
    exact idle.circuit _
  | restart =>
    refine ⟨held.cursor, held.rows, ?_, ?_, ?_⟩
    · intro poll startLedger running
      cases running
    · intro poll startLedger latestLedger event rest running
      cases running
    · intro poll latestLedger running
      cases running

end Held

/-- No event is stored twice in a run that fetches only fresh pages. Where polls follow one another
and only events of the last ledger of a page are lost, every event below the cursor is stored and
the cursor never decreases; and polls none of whose steps fails store every event in the end, from
every state between two polls of such a run, exactly when ledgers are small. -/
theorem indexer_exact_iff (stream : Stream) :
    (∀ actions, (machine stream).Meets (Fresh stream) {} actions →
      (machine stream).Always (fun state => state.rows.Nodup) {} actions) ∧
    (∀ actions, (machine stream).Meets Careful {} actions →
      (machine stream).Always (Complete stream) {} actions) ∧
    ((∀ actions, (machine stream).Meets Careful {} actions →
        (∀ poll, ((machine stream).run {} actions).polls poll = none) →
        ∀ now, Ready ((machine stream).run {} actions) now →
          ∃ count, ∀ event ∈ stream.events,
            event ∈ ((machine stream).run {} (actions ++ polls now count)).rows) ↔
      SmallLedgers stream) := by
  refine ⟨?_, ?_, ?_, ?_⟩
  · intro actions fresh
    exact (always_of_meets Once.step .start fresh).mono fun _ once => once.nodup
  · intro actions careful
    exact (always_of_meets Tracked.step .start careful).mono
      fun _ tracked => tracked.complete
  · intro progress
    by_contra large
    obtain ⟨ledger, missed, blocked⟩ := exists_blocked large
    obtain ⟨count, got⟩ := progress [] trivial (fun _ => rfl) 0 (by simp [Ready])
    have start : Held ledger missed {} := by
      refine ⟨Nat.zero_le ledger, not_mem_nil, ?_, ?_, ?_⟩
      · intro poll startLedger running
        cases running
      · intro poll startLedger latestLedger event rest running
        cases running
      · intro poll latestLedger running
        cases running
    exact (run_invariant (Held.step blocked) start _).rows (got missed blocked.member)
  · intro small actions careful idle now ready
    have tracked := (always_of_meets Tracked.step .start careful).final
    obtain ⟨count, got⟩ := exists_polls_stored small tracked.complete.stored idle ready
    refine ⟨count, ?_⟩
    rwa [run_append]

def oneEvent : Stream where
  events := [{ id := 0, ledger := 7 }]
  sorted := List.pairwise_singleton _ _
  distinct := List.nodup_cons.mpr ⟨List.not_mem_nil, List.nodup_nil⟩

def twoLedgers : Stream where
  events := [{ id := 0, ledger := 7 }, { id := 1, ledger := 8 }]
  sorted := by simp
  distinct := by decide

/-- Two polls that store the only event, one after the other. -/
def twicePolled : List Action :=
  [.begin 0 0, .load 0 false, .fetch 0 0 none, .insert 0 0 none, .save 0 false,
    .begin 0 0, .load 0 false, .fetch 0 0 none, .insert 0 0 none, .save 0 false]

/-- A poll whose first insert fails. -/
def firstLost : List Action :=
  [.begin 0 0, .load 0 false, .fetch 0 0 none, .insert 0 0 (some .database), .insert 0 0 none,
    .save 0 false]

/-- Polls one after the other store an event twice, and the cursor passes an event whose insert
failed. -/
theorem stored_twice :
    ¬ (∀ stream actions, ((machine stream).run {} actions).rows.Nodup) ∧
    ¬ (∀ stream actions, Complete stream ((machine stream).run {} actions)) := by
  constructor
  · intro once
    exact absurd (once oneEvent twicePolled) (by decide)
  · intro complete
    exact absurd ((complete twoLedgers firstLost).stored { id := 0, ledger := 7 } (by decide)
      (by decide)) (by decide)

end SorobanPlayground.EventIndexer
