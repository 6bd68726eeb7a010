import Mathlib.Data.List.Nodup
import SorobanPlayground.Backend.EventIndexer.Poll

/-! # What polls store

A poll reads the ledger of the cursor again, so an event is stored twice unless every page is
fresh. Polls that follow one another store every event below the cursor, if only events of the last
ledger of a page are lost.
-/

namespace SorobanPlayground.EventIndexer

open Function List State

variable {stream : Stream} {state next : State} {poll : Nat}

inductive Effect (stream : Stream) (state : State) : Action → State → Prop
  | refused {poll : Nat} {now : Int} : Effect stream state (.begin poll now)
      { state with circuit := (state.circuit.isCircuitOpen now).2 }
  | begin {poll : Nat} {now : Int} (idle : state.polls poll = none) :
      Effect stream state (.begin poll now) (State.setPoll
        { state with circuit := (state.circuit.isCircuitOpen now).2 } poll (some .loading))
  | load {poll : Nat} {fails : Bool} (waiting : state.polls poll = some .loading) :
      Effect stream state (.load poll fails)
        (state.setPoll poll (some (.fetching (if fails then 0 else state.startLedger))))
  | failFetch {poll : Nat} {now : Int} {category : ErrorCategory} {startLedger : Nat}
      (waiting : state.polls poll = some (.fetching startLedger)) :
      Effect stream state (.fetch poll now (some category))
        { state.setPoll poll none with circuit := state.circuit.failFetch now category }
  | fetch {poll : Nat} {now : Int} {startLedger : Nat}
      (waiting : state.polls poll = some (.fetching startLedger)) :
      Effect stream state (.fetch poll now none)
        (state.proceed poll startLedger startLedger (getEvents stream startLedger))
  | failInsert {poll : Nat} {now : Int} {category : ErrorCategory} {startLedger latestLedger : Nat}
      {event : ContractEvent} {rest : List ContractEvent}
      (waiting : state.polls poll = some (.inserting startLedger latestLedger event rest)) :
      Effect stream state (.insert poll now (some category)) (State.proceed
        { state with circuit := state.circuit.recordError now category } poll startLedger
        (max latestLedger event.ledger) rest)
  | insert {poll : Nat} {now : Int} {startLedger latestLedger : Nat}
      {event : ContractEvent} {rest : List ContractEvent}
      (waiting : state.polls poll = some (.inserting startLedger latestLedger event rest)) :
      Effect stream state (.insert poll now none) (State.proceed
        { state with rows := state.rows ++ [event] } poll startLedger
        (max latestLedger event.ledger) rest)
  | failSave {poll : Nat} {latestLedger : Nat}
      (waiting : state.polls poll = some (.saving latestLedger)) :
      Effect stream state (.save poll true) (state.finish poll)
  | save {poll : Nat} {latestLedger : Nat}
      (waiting : state.polls poll = some (.saving latestLedger)) :
      Effect stream state (.save poll false) ((state.saveCursor latestLedger).finish poll)
  | restart : Effect stream state .restart { state with polls := fun _ => none, circuit := {} }

theorem Effect.of_exec {action : Action} (ran : (machine stream).exec state action = .ok next) :
    Effect stream state action next := by
  rw [machine, ofStep_exec_eq_ok] at ran
  cases action with
  | begin _ now =>
    simp only [step, Option.ite_none_right_eq_some, Option.some.injEq] at ran
    obtain ⟨idle, rfl⟩ := ran
    cases (state.circuit.isCircuitOpen now).1 with
    | true => exact .refused
    | false => exact .begin (Option.isNone_iff_eq_none.mp idle)
  | load =>
    simp only [step] at ran
    split at ran
    · rename_i waiting
      cases ran
      exact .load waiting
    · cases ran
  | fetch _ _ error =>
    simp only [step] at ran
    split at ran
    · rename_i startLedger waiting
      cases error with
      | some =>
        cases ran
        exact .failFetch waiting
      | none =>
        cases ran
        exact .fetch waiting
    · cases ran
  | insert _ _ error =>
    simp only [step] at ran
    split at ran
    · rename_i startLedger latestLedger event rest waiting
      cases error with
      | some =>
        cases ran
        exact .failInsert waiting
      | none =>
        cases ran
        exact .insert waiting
    · cases ran
  | save _ fails =>
    simp only [step] at ran
    split at ran
    · rename_i latestLedger waiting
      cases fails with
      | true =>
        cases ran
        exact .failSave waiting
      | false =>
        cases ran
        exact .save waiting
    · cases ran
  | restart =>
    cases ran
    exact .restart

theorem getEvents_sublist (stream : Stream) (startLedger : Nat) :
    (getEvents stream startLedger).Sublist stream.events :=
  (take_sublist _ _).trans filter_sublist

variable {startLedger : Nat} {event : ContractEvent}

theorem le_of_mem_getEvents (mem : event ∈ getEvents stream startLedger) :
    startLedger ≤ event.ledger := by
  have kept := mem_of_mem_take mem
  exact of_decide_eq_true (mem_filter.mp kept).2

theorem mem_getEvents_of_lt {later : ContractEvent} (mem : event ∈ stream.events)
    (from' : startLedger ≤ event.ledger) (paged : later ∈ getEvents stream startLedger)
    (earlier : event.ledger < later.ledger) : event ∈ getEvents stream startLedger := by
  have kept : event ∈ stream.events.filter (startLedger ≤ ·.ledger) :=
    mem_filter.mpr ⟨mem, decide_eq_true from'⟩
  have sorted := stream.sorted.sublist (filter_sublist (p := (startLedger ≤ ·.ledger)))
  rw [← take_append_drop 200 (stream.events.filter _)] at kept sorted
  rcases mem_append.mp kept with taken | dropped
  · exact taken
  · have ordered := (pairwise_append.mp sorted).2.2 later paged event dropped
    omega

/-- Stored events and those about to be inserted are all different. -/
structure Once (state : State) : Prop where
  nodup : state.rows.Nodup
  apart : ∀ poll, (pending state poll).Nodup ∧ ∀ event ∈ pending state poll, event ∉ state.rows
  disjoint : ∀ poll other event, event ∈ pending state poll → event ∈ pending state other →
    poll = other

theorem pending_setPoll {phase : Option Phase} {other : Nat} (ne : other ≠ poll) :
    pending (state.setPoll poll phase) other = pending state other := by
  simp only [pending, State.setPoll, update_of_ne ne]

variable {events : List ContractEvent}

theorem pending_proceed {startLedger latestLedger : Nat} :
    pending (state.proceed poll startLedger latestLedger events) =
      update (pending state) poll events := by
  funext other
  by_cases own : other = poll
  · subst own
    cases events with
    | cons => simp [pending, proceed, State.setPoll]
    | nil =>
      unfold proceed
      dsimp only
      split
      · simp [pending, State.setPoll]
      · simp [pending, finish, State.setPoll]
  · rw [update_of_ne own]
    cases events with
    | cons => exact pending_setPoll own
    | nil =>
      unfold proceed
      dsimp only
      split
      · exact pending_setPoll own
      · exact pending_setPoll own

theorem proceed_rows {latestLedger : Nat} :
    (state.proceed poll startLedger latestLedger events).rows = state.rows := by
  cases events with
  | cons => rfl
  | nil =>
    unfold proceed
    dsimp only
    split <;> rfl

variable {rest : List ContractEvent}

namespace Once

theorem start : Once {} where
  nodup := nodup_nil
  apart := by simp [pending]
  disjoint := by simp [pending]

theorem shrink (once : Once state) (rows : next.rows = state.rows)
    (fewer : ∀ other, (pending next other).Sublist (pending state other)) : Once next where
  nodup := by
    rw [rows]
    exact once.nodup
  apart := by
    intro other
    obtain ⟨nodup, apart⟩ := once.apart other
    rw [rows]
    exact ⟨nodup.sublist (fewer other), fun event mem =>
      apart event ((fewer other).subset mem)⟩
  disjoint := by
    intro poll other event first second
    exact once.disjoint poll other event ((fewer poll).subset first) ((fewer other).subset second)

theorem setPoll (once : Once state) {phase : Option Phase}
    (idle : pending (state.setPoll poll phase) poll = []) : Once (state.setPoll poll phase) := by
  refine once.shrink rfl ?_
  intro other
  by_cases own : other = poll
  · subst own
    rw [idle]
    exact nil_sublist _
  · rw [pending_setPoll own]

theorem fetch (once : Once state) {startLedger latestLedger : Nat} (distinct : events.Nodup)
    (fresh : ∀ event ∈ events, event ∉ state.rows ∧ ∀ other, event ∉ pending state other) :
    Once (state.proceed poll startLedger latestLedger events) where
  nodup := by
    rw [proceed_rows]
    exact once.nodup
  apart := by
    intro other
    rw [pending_proceed, proceed_rows]
    by_cases own : other = poll
    · subst own
      rw [update_self]
      exact ⟨distinct, fun event mem => (fresh event mem).1⟩
    · rw [update_of_ne own]
      exact once.apart other
  disjoint := by
    intro first second event one two
    rw [pending_proceed] at one two
    by_cases firstOwn : first = poll
    · by_cases secondOwn : second = poll
      · rw [firstOwn, secondOwn]
      · subst firstOwn
        rw [update_self] at one
        rw [update_of_ne secondOwn] at two
        exact absurd two ((fresh event one).2 second)
    · rw [update_of_ne firstOwn] at one
      by_cases secondOwn : second = poll
      · subst secondOwn
        rw [update_self] at two
        exact absurd one ((fresh event two).2 first)
      · rw [update_of_ne secondOwn] at two
        exact once.disjoint first second event one two

theorem insert (once : Once state) {startLedger latestLedger : Nat} {event : ContractEvent}
    (waiting : pending state poll = event :: rest) :
    Once (proceed { state with rows := state.rows ++ [event] } poll startLedger latestLedger
      rest) := by
  have fewer : ∀ other,
      (pending (proceed { state with rows := state.rows ++ [event] } poll startLedger
        latestLedger rest) other).Sublist (pending state other) := by
    intro other
    rw [pending_proceed]
    by_cases own : other = poll
    · subst own
      rw [update_self, waiting]
      exact sublist_cons_self event rest
    · rw [update_of_ne own]
      exact List.Sublist.refl _
  obtain ⟨distinct, unstored⟩ := once.apart poll
  rw [waiting] at distinct unstored
  have gone : event ∉ state.rows := unstored event mem_cons_self
  refine ⟨?_, ?_, ?_⟩
  · rw [proceed_rows]
    exact nodup_append.mpr ⟨once.nodup, nodup_singleton event, by
      intro got mem other only same
      rw [mem_singleton.mp only] at same
      exact gone (same ▸ mem)⟩
  · intro other
    obtain ⟨nodup, apart⟩ := once.apart other
    refine ⟨nodup.sublist (fewer other), ?_⟩
    intro waitingEvent mem got
    rw [proceed_rows] at got
    rcases mem_append.mp got with got | only
    · exact apart waitingEvent ((fewer other).subset mem) got
    · rw [mem_singleton.mp only] at mem
      have owner : poll = other := by
        apply once.disjoint poll other event _ ((fewer other).subset mem)
        rw [waiting]
        exact mem_cons_self
      subst owner
      rw [pending_proceed, update_self] at mem
      exact (nodup_cons.mp distinct).1 mem
  · intro first second mem one two
    exact once.disjoint first second mem ((fewer first).subset one) ((fewer second).subset two)

theorem step (state : State) (action : Action) (next : State) (once : Once state)
    (fresh : Fresh stream state action)
    (ran : (machine stream).exec state action = .ok next) : Once next := by
  cases Effect.of_exec ran with
  | refused => exact ⟨once.nodup, once.apart, once.disjoint⟩
  | @begin poll now idle =>
    have checked : Once { state with circuit := (state.circuit.isCircuitOpen now).2 } :=
      ⟨once.nodup, once.apart, once.disjoint⟩
    apply checked.setPoll
    simp [pending, State.setPoll]
  | load =>
    apply once.setPoll
    simp [pending, State.setPoll]
  | @failFetch poll now category startLedger waiting =>
    have kept : Once (state.setPoll poll none) := by
      apply once.setPoll
      simp [pending, State.setPoll]
    exact ⟨kept.nodup, kept.apart, kept.disjoint⟩
  | @fetch poll now startLedger waiting =>
    exact once.fetch (stream.distinct.sublist (getEvents_sublist stream startLedger))
      (fresh startLedger waiting)
  | @failInsert poll now category startLedger latestLedger event rest waiting =>
    refine once.shrink proceed_rows ?_
    intro other
    rw [pending_proceed]
    by_cases own : other = poll
    · subst own
      simp only [update_self, pending, waiting]
      exact sublist_cons_self event rest
    · rw [update_of_ne own]
      exact List.Sublist.refl _
  | insert waiting =>
    apply once.insert
    simp only [pending, waiting]
  | @failSave poll latestLedger waiting =>
    have kept : Once (state.setPoll poll none) := by
      apply once.setPoll
      simp [pending, State.setPoll]
    exact ⟨kept.nodup, kept.apart, kept.disjoint⟩
  | @save poll latestLedger waiting =>
    have kept : Once (state.setPoll poll none) := by
      apply once.setPoll
      simp [pending, State.setPoll]
    exact ⟨kept.nodup, kept.apart, kept.disjoint⟩
  | restart =>
    refine once.shrink rfl ?_
    intro other
    exact nil_sublist _

end Once

/-- What a poll in a phase has done. -/
def Done (stream : Stream) (state : State) : Phase → Prop
  | .loading => True
  | .fetching startLedger => startLedger = state.startLedger
  | .inserting startLedger latestLedger event rest => startLedger = state.startLedger ∧
      (event :: rest).Pairwise (fun earlier later => earlier.ledger ≤ later.ledger) ∧
      startLedger ≤ latestLedger ∧ latestLedger ≤ event.ledger ∧
      ∀ other ∈ stream.events, (∃ later ∈ event :: rest, other.ledger < later.ledger) →
        other ∈ state.rows ∨ other ∈ event :: rest
  | .saving latestLedger => state.startLedger < latestLedger ∧
      ∀ other ∈ stream.events, other.ledger < latestLedger → other ∈ state.rows

/-- One poll at a time is in progress, and no event was passed over. -/
structure Tracked (stream : Stream) (state : State) : Prop where
  complete : Complete stream state
  single : ∀ poll other, state.polls poll ≠ none → state.polls other ≠ none → poll = other
  done : ∀ poll phase, state.polls poll = some phase → Done stream state phase

namespace Tracked

theorem start : Tracked stream {} where
  complete := ⟨by simp [State.startLedger], rfl⟩
  single := by simp
  done := by simp

theorem setPoll {phase : Option Phase} (complete : Complete stream state)
    (alone : ∀ other, other ≠ poll → state.polls other = none)
    (done : ∀ entered, phase = some entered → Done stream state entered) :
    Tracked stream (state.setPoll poll phase) where
  complete := ⟨complete.stored, complete.rising⟩
  single := by
    have only : ∀ other, (state.setPoll poll phase).polls other ≠ none → other = poll := by
      intro other running
      by_contra ne
      apply running
      simp only [State.setPoll, update_of_ne ne]
      exact alone other ne
    intro first second one two
    rw [only first one, only second two]
  done := by
    intro other entered running
    by_cases own : other = poll
    · subst own
      simp only [State.setPoll, update_self] at running
      have := done entered running
      cases entered <;> exact this
    · simp only [State.setPoll, update_of_ne own, alone other own] at running
      cases running

variable {phase : Phase}

theorem alone (tracked : Tracked stream state) (running : state.polls poll = some phase) :
    ∀ other, other ≠ poll → state.polls other = none := by
  intro other ne
  by_contra busy
  exact ne (tracked.single other poll busy (by simp [running]))

theorem circuit (tracked : Tracked stream state) (circuit : Circuit) :
    Tracked stream { state with circuit } := by
  refine ⟨⟨tracked.complete.stored, tracked.complete.rising⟩, tracked.single, ?_⟩
  intro poll phase running
  have := tracked.done poll phase running
  cases phase <;> exact this

theorem proceed {startLedger latestLedger : Nat}
    (complete : Complete stream state) (alone : ∀ other, other ≠ poll → state.polls other = none)
    (loaded : startLedger = state.startLedger) (seen : startLedger ≤ latestLedger)
    (sorted : (latestLedger :: events.map (·.ledger)).Pairwise (· ≤ ·))
    (passed : ∀ other ∈ stream.events,
      other.ledger < latestLedger ∨ (∃ later ∈ events, other.ledger < later.ledger) →
        other ∈ state.rows ∨ other ∈ events) :
    Tracked stream (state.proceed poll startLedger latestLedger events) := by
  obtain ⟨least, ordered⟩ := pairwise_cons.mp sorted
  cases events with
  | cons event =>
    apply Tracked.setPoll complete alone
    intro entered same
    cases same
    refine ⟨loaded, pairwise_map.mp ordered, seen, least event.ledger (by simp), ?_⟩
    intro other mem earlier
    exact passed other mem (.inr earlier)
  | nil =>
    unfold proceed
    dsimp only
    split
    · rename_i further
      apply Tracked.setPoll complete alone
      intro entered same
      cases same
      refine ⟨loaded ▸ further, ?_⟩
      intro other mem earlier
      exact (passed other mem (.inl earlier)).resolve_right not_mem_nil
    · have idle : Tracked stream (state.setPoll poll none) :=
        Tracked.setPoll complete alone (by simp)
      exact idle.circuit _

section

variable (tracked : Tracked stream state)
include tracked

theorem process {startLedger latestLedger : Nat} {event : ContractEvent}
    (waiting : state.polls poll = some (.inserting startLedger latestLedger event rest))
    {processed : State} (rows : ∀ other ∈ state.rows, other ∈ processed.rows)
    (kept : event ∈ processed.rows ∨ ∀ later ∈ rest, later.ledger ≤ event.ledger)
    (cursor : processed.cursor = state.cursor) (highest : processed.highest = state.highest)
    (polls : processed.polls = state.polls) :
    Tracked stream (processed.proceed poll startLedger (max latestLedger event.ledger) rest) := by
  obtain ⟨loaded, sorted, _, least, passed⟩ := tracked.done poll _ waiting
  obtain ⟨follows, ordered⟩ := pairwise_cons.mp sorted
  have same : processed.startLedger = state.startLedger := by rw [State.startLedger, cursor]; rfl
  rw [Nat.max_eq_right least]
  apply Tracked.proceed
  · refine ⟨?_, ?_⟩
    · rw [same]
      exact fun other mem below => rows other (tracked.complete.stored other mem below)
    · rw [same, highest]
      exact tracked.complete.rising
  · rw [polls]
    exact tracked.alone waiting
  · rw [same]
    exact loaded
  · omega
  · refine pairwise_cons.mpr ⟨?_, pairwise_map.mpr ordered⟩
    simp only [mem_map]
    rintro ledger ⟨later, mem, rfl⟩
    exact follows later mem
  · intro other mem earlier
    have before : ∃ later ∈ event :: rest, other.ledger < later.ledger := by
      rcases earlier with earlier | ⟨later, here, earlier⟩
      · exact ⟨event, mem_cons_self, earlier⟩
      · exact ⟨later, mem_cons_of_mem event here, earlier⟩
    rcases passed other mem before with got | waitingStill
    · exact .inl (rows other got)
    · rcases mem_cons.mp waitingStill with rfl | waitingStill
      · rcases kept with got | last
        · exact .inl got
        · rcases earlier with earlier | ⟨later, here, earlier⟩
          · omega
          · have := last later here
            omega
      · exact .inr waitingStill

theorem fetch {startLedger : Nat} (waiting : state.polls poll = some (.fetching startLedger)) :
    Tracked stream (state.proceed poll startLedger startLedger (getEvents stream startLedger)) := by
  have loaded : startLedger = state.startLedger := tracked.done poll _ waiting
  apply Tracked.proceed tracked.complete (tracked.alone waiting) loaded (Nat.le_refl _)
  · refine pairwise_cons.mpr ⟨?_, pairwise_map.mpr ?_⟩
    · simp only [mem_map]
      rintro ledger ⟨_, mem, rfl⟩
      exact le_of_mem_getEvents mem
    · exact stream.sorted.sublist (getEvents_sublist stream startLedger)
  · intro other mem earlier
    by_cases below : other.ledger < startLedger
    · rw [loaded] at below
      exact .inl (tracked.complete.stored other mem below)
    · rcases earlier with earlier | ⟨_, paged, earlier⟩
      · exact absurd earlier below
      · exact .inr (mem_getEvents_of_lt mem (Nat.not_lt.mp below) paged earlier)

theorem cease (running : state.polls poll = some phase) :
    Tracked stream (state.setPoll poll none) :=
  Tracked.setPoll tracked.complete (tracked.alone running) (by simp)

theorem save {latestLedger : Nat} (waiting : state.polls poll = some (.saving latestLedger)) :
    Tracked stream ((state.saveCursor latestLedger).finish poll) := by
  obtain ⟨_, got⟩ := tracked.done poll _ waiting
  have rising := tracked.complete.rising
  have idle : Tracked stream ((state.saveCursor latestLedger).setPoll poll none) := by
    apply Tracked.setPoll
    · refine ⟨got, ?_⟩
      show latestLedger = max state.highest latestLedger
      omega
    · exact tracked.alone waiting
    · simp
  exact idle.circuit _

end

theorem step (state : State) (action : Action) (next : State) (tracked : Tracked stream state)
    (careful : Careful state action) (ran : (machine stream).exec state action = .ok next) :
    Tracked stream next := by
  cases Effect.of_exec ran with
  | refused => exact tracked.circuit _
  | @begin poll now idle =>
    apply Tracked.setPoll (tracked.circuit _).complete
    · exact fun other _ => careful other
    · intro entered same
      cases same
      trivial
  | @load poll fails waiting =>
    obtain rfl : fails = false := careful
    apply Tracked.setPoll tracked.complete (tracked.alone waiting)
    intro entered same
    cases same
    rfl
  | failFetch waiting => exact (tracked.cease waiting).circuit _
  | fetch waiting => exact tracked.fetch waiting
  | failInsert waiting =>
    exact tracked.process waiting (fun _ got => got)
      (.inr (careful _ _ _ _ waiting)) rfl rfl rfl
  | insert waiting =>
    exact tracked.process waiting (fun _ got => mem_append_left _ got)
      (.inl (by simp)) rfl rfl rfl
  | failSave waiting => exact (tracked.cease waiting).circuit _
  | save waiting => exact tracked.save waiting
  | restart =>
    refine ⟨⟨tracked.complete.stored, tracked.complete.rising⟩, ?_, ?_⟩
    · intro poll other running
      exact absurd rfl running
    · intro poll phase running
      cases running

end Tracked

end SorobanPlayground.EventIndexer
