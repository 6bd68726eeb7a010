import SorobanPlayground.Backend.Migrations.Service

/-! # The life cycle of migrations

Rows are inserted in the order of the sorted up files and never deleted, so they always form a
prefix of them.
-/

namespace SorobanPlayground.MigrationService

open List

variable {files : List MigrationFile} {scripts : Scripts} {state : State}

/-- The versions of the up files in order. -/
def versions (files : List MigrationFile) : List Version := (upFiles files).map (·.version)

/-- Valid files come in pairs, one up file for each version. -/
structure Paired (files : List MigrationFile) : Prop where
  down : ∀ upFile ∈ filesOf files .up, ∃ downFile ∈ filesOf files .down,
    downFile.version = upFile.version
  increasing : (versions files).Pairwise (· < ·)

variable {version : Version}

theorem mem_countedVersions :
    version ∈ countedVersions files ↔ version ∈ (filesOf files .up).map (·.version) := by
  simp only [countedVersions, mem_append, (perm_insertionSort _ _).mem_iff,
    mem_filter, mem_eraseDups, Bool.not_eq_true']
  cases version.isArrayIndex <;> simp

theorem Paired.of_valid (valid : validationErrors files = []) : Paired files := by
  simp only [validationErrors, append_eq_nil_iff, map_eq_nil_iff, filter_eq_nil_iff]
    at valid
  obtain ⟨⟨missingDown, -⟩, duplicates⟩ := valid
  refine ⟨?_, ?_⟩
  · intro upFile mem
    by_contra unpaired
    apply missingDown upFile mem
    simp only [all_eq_true, decide_eq_true_eq]
    intro downFile here same
    exact unpaired ⟨downFile, here, same⟩
  · have unique : ((filesOf files .up).map (·.version)).Nodup := by
      rw [nodup_iff_count_le_one]
      intro version
      by_cases counted : version ∈ (filesOf files .up).map (·.version)
      · have single : (filesOf files .up).countP (·.version = version) ≤ 1 := by
          simpa using duplicates version (mem_countedVersions.mpr counted)
        rw [List.count, countP_map]
        exact (countP_congr fun file _ => by simp).trans_le single
      · rw [count_eq_zero_of_not_mem counted]
        exact Nat.zero_le 1
    have permuted : (versions files).Perm ((filesOf files .up).map (·.version)) :=
      (perm_insertionSort _ _).map _
    have sorted : (versions files).Pairwise (· ≤ ·) :=
      pairwise_map.mpr (pairwise_insertionSort _ _)
    exact (sorted.and (permuted.nodup_iff.mpr unique)).imp fun both => lt_of_le_of_ne both.1 both.2

theorem executeMigration_dryRun (file : MigrationFile) :
    executeMigration scripts true file state = .ok (.success file true, state) := rfl

variable {outcome : Result × State}

theorem executeMigration_eq_ok {file : MigrationFile} :
    executeMigration scripts false file state = .ok outcome ↔
      scripts file = none ∧ file.version ∉ state.rows.map (·.version) ∧
        (.success file false, state.commitUp file.version) = outcome := by
  cases failed : scripts file with
  | some => simp [executeMigration, failed]
  | none =>
    have noted : state.rows.any (·.version = file.version) = true ↔
        file.version ∈ state.rows.map (·.version) := by simp
    simp only [executeMigration, failed, Bool.false_eq_true, ↓reduceIte, noted, true_and]
    by_cases here : file.version ∈ state.rows.map (·.version)
    · simp only [here, ↓reduceIte, not_true_eq_false, false_and, reduceCtorEq]
    · simp only [here, ↓reduceIte, not_false_eq_true, true_and, Except.ok.injEq]

theorem applyEach_dryRun (limit : Option Int) (rest : List MigrationFile) (count : Nat) :
    (applyEach scripts true limit rest count state).2 = state := by
  induction rest generalizing count with
  | nil => rfl
  | cons _ _ ih =>
    unfold applyEach
    split
    · rfl
    · simp only [executeMigration_dryRun, ih]

/-- The next up file whose row is to be inserted. -/
def Next (files : List MigrationFile) (state : State) (version : Version) : Prop :=
  state.rows.map (·.version) ++ [version] <+: versions files

theorem applyEach_induct (holds : State → Prop)
    (commit : ∀ state version, Next files state version → holds state →
      holds (state.commitUp version)) {limit : Option Int} {rest : List MigrationFile} {count : Nat}
    (remaining : versions files = state.rows.map (·.version) ++ rest.map (·.version))
    (held : holds state) : holds (applyEach scripts false limit rest count state).2 := by
  induction rest generalizing count state with
  | nil => exact held
  | cons file rest ih =>
    unfold applyEach
    split
    · exact held
    · cases ran : executeMigration scripts false file state with
      | error => exact held
      | ok =>
        obtain ⟨-, -, rfl⟩ := executeMigration_eq_ok.mp ran
        have later : versions files =
            state.rows.map (·.version) ++ [file.version] ++ rest.map (·.version) := by
          simp [remaining]
        apply ih
        · simpa [State.commitUp] using remaining
        · exact commit state file.version ⟨_, later.symm⟩ held

theorem applyEach_full {rest : List MigrationFile} {count : Nat}
    (fresh : (state.rows.map (·.version) ++ rest.map (·.version)).Nodup) :
    (applyEach (fun _ => none) false none rest count state).2 =
      rest.foldl (fun state file => state.commitUp file.version) state := by
  induction rest generalizing count state with
  | nil => rfl
  | cons file _ ih =>
    have gone : file.version ∉ state.rows.map (·.version) := by
      intro here
      have disjoint := (nodup_append.mp fresh).2.2
      exact disjoint _ here file.version (by simp) rfl
    have ran : executeMigration (fun _ => none) false file state = .ok _ :=
      executeMigration_eq_ok.mpr ⟨rfl, gone, rfl⟩
    simp only [applyEach, ran, Option.any_none, Bool.false_eq_true, ↓reduceIte,
      foldl_cons]
    apply ih
    simpa [State.commitUp] using fresh

theorem rollbackRow_dryRun {row : Row}
    (rolled : rollbackRow files scripts true row state = .ok outcome) : outcome.2 = state := by
  unfold rollbackRow rollbackMigration at rolled
  split at rolled
  · cases rolled
  · split at rolled
    · cases rolled
    · cases rolled
      rfl

theorem rollbackRow_eq_ok {row : Row}
    (rolled : rollbackRow files scripts false row state = .ok outcome) :
    outcome.2 = state.commitDown row.version := by
  unfold rollbackRow rollbackMigration at rolled
  split at rolled
  · cases rolled
  · rename_i file found
    have matched := List.find?_some found
    simp only [Bool.and_eq_true, decide_eq_true_eq] at matched
    simp only [matched.1, Bool.false_eq_true, ↓reduceIte] at rolled
    split at rolled
    · cases rolled
    · split at rolled
      · cases rolled
      · cases rolled
        rfl

theorem rollbackEach_dryRun (rows : List Row) :
    (rollbackEach files scripts true rows state).2 = state := by
  induction rows with
  | nil => rfl
  | cons _ _ ih =>
    unfold rollbackEach
    split
    · rfl
    · rename_i outcome next rolled
      rw [show next = state from rollbackRow_dryRun rolled]
      exact ih

theorem rollbackEach_induct (holds : List Row → State → Prop)
    (commit : ∀ state row rest, holds (row :: rest) state →
      holds rest (state.commitDown row.version)) {rows : List Row} (held : holds rows state) :
    ∃ rest, holds rest (rollbackEach files scripts false rows state).2 := by
  induction rows generalizing state with
  | nil => exact ⟨[], held⟩
  | cons row rest ih =>
    unfold rollbackEach
    split
    · exact ⟨row :: rest, held⟩
    · rename_i outcome next rolled
      rw [show next = state.commitDown row.version from rollbackRow_eq_ok rolled]
      exact ih (commit state row rest held)

/-- The rows are a prefix of the files, and the scripts in force are those recorded as applied. -/
structure Kept (files : List MigrationFile) (state : State) : Prop where
  rows : state.rows.map (·.version) <+: versions files
  inForce : state.inForce = appliedVersions state.rows
  moments : ∀ moment ∈ state.journal, moment.after = appliedVersions moment.rows

theorem kept_start (files : List MigrationFile) : Kept files {} where
  rows := nil_prefix
  inForce := rfl
  moments := by simp

namespace Kept

variable (kept : Kept files state)
include kept

theorem commitUp {version : Version} (next : Next files state version) :
    Kept files (state.commitUp version) := by
  have applied : state.inForce ++ [version] =
      appliedVersions (state.rows ++ [{ version, status := .applied }]) := by
    simp [appliedVersions, kept.inForce]
  refine ⟨?_, applied, ?_⟩
  · simpa [State.commitUp, Next] using next
  · simp only [State.commitUp, mem_append, mem_singleton]
    intro moment mem
    rcases mem with mem | rfl
    · exact kept.moments moment mem
    · exact applied

theorem commitDown (version : Version) : Kept files (state.commitDown version) := by
  have applied : state.inForce.filter (· ≠ version) =
      appliedVersions (state.commitDown version).rows := by
    rw [kept.inForce]
    unfold appliedVersions State.commitDown
    induction state.rows with
    | nil => rfl
    | cons row =>
      by_cases target : row.version = version
      · by_cases status : row.status = .applied
        · simp_all
        · simp_all
      · by_cases status : row.status = .applied
        · simp_all
        · simp_all
  refine ⟨?_, applied, ?_⟩
  · have same : (state.commitDown version).rows.map (·.version) = state.rows.map (·.version) := by
      simp only [State.commitDown, map_map]
      apply map_congr_left
      intro row _
      by_cases target : row.version = version
      · simp [target]
      · simp [target]
    rw [same]
    exact kept.rows
  · simp only [State.commitDown, mem_append, mem_singleton]
    intro moment mem
    rcases mem with mem | rfl
    · exact kept.moments moment mem
    · exact applied

theorem recorded : Recorded state where
  now := by
    intro version
    rw [kept.inForce]
  moments := by
    intro moment mem version
    rw [kept.moments moment mem]

theorem sorted (paired : Paired files) : (state.rows.map (·.version)).Pairwise (· < ·) :=
  paired.increasing.sublist kept.rows.sublist

theorem getAppliedMigrations_eq (paired : Paired files) :
    getAppliedMigrations state = state.rows := by
  apply List.Pairwise.insertionSort_eq
  exact (pairwise_map.mp (kept.sorted paired)).imp le_of_lt

theorem getPendingMigrations_eq (valid : validationErrors files = []) :
    ∃ rest, getPendingMigrations files state = .ok rest ∧ rest.Sublist (upFiles files) ∧
      versions files = state.rows.map (·.version) ++ rest.map (·.version) := by
  have paired := Paired.of_valid valid
  obtain ⟨_, split⟩ := kept.rows
  obtain ⟨noted, rest, apart, first, _⟩ := map_eq_append_iff.mp split.symm
  have unique : (noted.map (·.version) ++ rest.map (·.version)).Nodup := by
    rw [← map_append, ← apart]
    exact paired.increasing.imp ne_of_lt
  have disjoint := (nodup_append.mp unique).2.2
  have dropped : noted.filter (fun file =>
      (getAppliedMigrations state).all (·.version ≠ file.version)) = [] := by
    rw [kept.getAppliedMigrations_eq paired, filter_eq_nil_iff]
    intro file mem gone
    have here : file.version ∈ state.rows.map (·.version) := by
      rw [← first]
      exact mem_map_of_mem mem
    obtain ⟨row, got, same⟩ := mem_map.mp here
    exact of_decide_eq_true (all_eq_true.mp gone row got) same
  have pending : rest.filter (fun file =>
      (getAppliedMigrations state).all (·.version ≠ file.version)) = rest := by
    rw [kept.getAppliedMigrations_eq paired, filter_eq_self]
    intro file mem
    simp only [all_eq_true, decide_eq_true_eq]
    intro row got same
    apply disjoint row.version _ file.version (mem_map_of_mem mem) same
    rw [first]
    exact mem_map_of_mem got
  refine ⟨rest, ?_, ?_, ?_⟩
  · simp only [getPendingMigrations, valid, ne_eq, not_true_eq_false, ↓reduceIte]
    rw [apart, filter_append, dropped, nil_append, pending]
  · rw [apart]
    exact sublist_append_right noted rest
  · rw [← first, ← map_append, ← apart]
    rfl

end Kept

theorem InNumberOrder.lt (inOrder : InNumberOrder files) {first second : Version}
    (one : first ∈ versions files) (other : second ∈ versions files) (less : first < second) :
    first.number < second.number := by
  obtain ⟨firstFile, firstMember, rfl⟩ := mem_map.mp one
  obtain ⟨secondFile, secondMember, rfl⟩ := mem_map.mp other
  exact inOrder firstFile firstMember secondFile secondMember less

section

variable (kept : Kept files state)
include kept

theorem Kept.mem_inForce (inForce : version ∈ state.inForce) :
    version ∈ state.rows.map (·.version) := by
  rw [kept.inForce] at inForce
  exact (filter_sublist.map _).subset inForce

theorem Ordered.commitUp (ordered : Ordered state) (paired : Paired files)
    (inOrder : InNumberOrder files) (next : Next files state version) :
    Ordered (state.commitUp version) := by
  have sorted := paired.increasing.sublist next.sublist
  have below : ∀ other ∈ state.inForce, other < version := by
    intro other inForce
    exact (pairwise_append.mp sorted).2.2 other (kept.mem_inForce inForce) version (by simp)
  simp only [Ordered, State.commitUp, mem_append, mem_singleton]
  intro moment mem
  rcases mem with mem | rfl
  · exact ordered moment mem
  · refine ⟨fun inForce => lt_irrefl version (below version inForce), ?_⟩
    intro other inForce
    apply inOrder.lt (kept.rows.subset (kept.mem_inForce inForce)) _ (below other inForce)
    exact next.subset (by simp)

theorem Ordered.commitDown (ordered : Ordered state)
    (paired : Paired files) (inOrder : InNumberOrder files) {base : List Version}
    (last : state.inForce = base ++ [version]) :
    Ordered (state.commitDown version) := by
  have sorted : state.inForce.Pairwise (· < ·) := by
    rw [kept.inForce]
    exact (kept.sorted paired).sublist (filter_sublist.map _)
  have mem_versions : ∀ other ∈ state.inForce, other ∈ versions files :=
    fun other inForce => kept.rows.subset (kept.mem_inForce inForce)
  rw [last] at sorted mem_versions
  simp only [Ordered, State.commitDown, mem_append, mem_singleton]
  intro moment mem
  rcases mem with mem | rfl
  · exact ordered moment mem
  · refine ⟨by simp [last], ?_⟩
    intro other inForce
    rw [last] at inForce
    rcases mem_append.mp inForce with lower | only
    · apply le_of_lt
      apply inOrder.lt (mem_versions other inForce) (mem_versions version (by simp))
      exact (pairwise_append.mp sorted).2.2 other lower version (by simp)
    · rw [mem_singleton.mp only]

theorem migrateUp_exec (valid : validationErrors files = [])
    (dryRun : Bool) (limit : Option Int) (scripts : Scripts) :
    ∃ rest : List MigrationFile, rest.Sublist (upFiles files) ∧
      versions files = state.rows.map (·.version) ++ rest.map (·.version) ∧
      (machine files).exec state (.migrateUp dryRun limit scripts) =
        .ok (applyEach scripts dryRun limit rest 0 state).2 := by
  obtain ⟨rest, pending, sublist, split⟩ := kept.getPendingMigrations_eq valid
  refine ⟨rest, sublist, split, ?_⟩
  simp only [machine, migrateUp, pending, Except.map]

end

/-- A predicate that the transactions keep is kept by every call, where the rows that a rollback
asks for may be assumed to be those of a plan. -/
theorem step_induct (holds : State → Prop) (plan : List Row → State → Prop)
    (valid : validationErrors files = [])
    (up : ∀ state version, Next files state version → Kept files state ∧ holds state →
      holds (state.commitUp version))
    (down : ∀ state row rest, Kept files state ∧ plan (row :: rest) state →
      plan rest (state.commitDown row.version))
    (planned : ∀ rest state, plan rest state → holds state) {state next : State} {call : Call}
    (kept : Kept files state) (held : holds state)
    (asked : ∀ targetVersion scripts, call = .migrateDown targetVersion false scripts →
      plan (migrationsToRollback targetVersion state) state)
    (ran : (machine files).exec state call = .ok next) : Kept files next ∧ holds next := by
  cases call with
  | migrateUp dryRun limit scripts =>
    obtain ⟨rest, -, split, effect⟩ := migrateUp_exec kept valid dryRun limit scripts
    obtain rfl := Except.ok.inj (effect.symm.trans ran)
    cases dryRun with
    | true =>
      rw [applyEach_dryRun]
      exact ⟨kept, held⟩
    | false =>
      refine applyEach_induct (fun state => Kept files state ∧ holds state) ?_ split ⟨kept, held⟩
      intro state version next both
      exact ⟨both.1.commitUp next, up state version next both⟩
  | migrateDown targetVersion dryRun scripts =>
    cases ran
    cases dryRun with
    | true =>
      rw [migrateDown, rollbackEach_dryRun]
      exact ⟨kept, held⟩
    | false =>
      have step : ∀ state row rest, Kept files state ∧ plan (row :: rest) state →
          Kept files (state.commitDown row.version) ∧ plan rest (state.commitDown row.version) := by
        intro state row rest both
        exact ⟨both.1.commitDown row.version, down state row rest both⟩
      obtain ⟨rest, done, follows⟩ := rollbackEach_induct
        (fun rest state => Kept files state ∧ plan rest state) step
        ⟨kept, asked targetVersion scripts rfl⟩
      exact ⟨done, planned rest _ follows⟩

theorem Kept.step (valid : validationErrors files = []) (state : State) (call : Call)
    (next : State) (kept : Kept files state)
    (ran : (machine files).exec state call = .ok next) : Kept files next :=
  (step_induct (fun _ => True) (fun _ _ => True) valid (fun _ _ _ _ => trivial)
    (fun _ _ _ _ => trivial) (fun _ _ _ => trivial) kept trivial (fun _ _ _ => trivial)
    ran).1

theorem exists_eq_append_filter {rows : List Row} {chosen : Row → Bool}
    (upward : rows.Pairwise fun earlier later => chosen earlier → chosen later) :
    ∃ lower, rows = lower ++ rows.filter chosen := by
  induction rows with
  | nil => exact ⟨[], rfl⟩
  | cons row _ ih =>
    obtain ⟨first, upward⟩ := pairwise_cons.mp upward
    by_cases taken : chosen row
    · refine ⟨[], ?_⟩
      rw [filter_eq_self.mpr]
      · rfl
      · intro other mem
        rcases mem_cons.mp mem with rfl | mem
        · exact taken
        · exact first other mem taken
    · obtain ⟨lower, split⟩ := ih upward
      refine ⟨row :: lower, ?_⟩
      rw [filter_cons_of_neg taken, cons_append, ← split]

theorem Kept.migrationsToRollback_eq (kept : Kept files state) (paired : Paired files)
    (targetVersion : Option (List Char)) :
    ∃ lower, state.rows = lower ++ (migrationsToRollback targetVersion state).reverse := by
  have last : ∃ lower, state.rows = lower ++ state.rows.getLast?.toList.reverse := by
    rcases eq_nil_or_concat state.rows with empty | ⟨lower, _, split⟩
    · exact ⟨[], by simp [empty]⟩
    · exact ⟨lower, by simp [split]⟩
  unfold migrationsToRollback
  rw [kept.getAppliedMigrations_eq paired]
  split
  · exact last
  · exact last
  · rw [reverse_reverse]
    apply exists_eq_append_filter
    apply (pairwise_map.mp (kept.sorted paired)).imp
    intro earlier later less above
    simp only [decide_eq_true_eq] at above ⊢
    exact above.trans less

/-- What remains to be rolled back is the end of what is in force. -/
structure Planned (files : List MigrationFile) (rest : List Row) (state : State) : Prop where
  ordered : Ordered state
  last : ∃ base, state.inForce = base ++ (rest.map (·.version)).reverse

theorem Planned.commitDown {row : Row} {rest : List Row}
    (planned : Planned files (row :: rest) state) (kept : Kept files state) (paired : Paired files)
    (inOrder : InNumberOrder files) : Planned files rest (state.commitDown row.version) := by
  obtain ⟨base, split⟩ := planned.last
  rw [map_cons, reverse_cons, ← append_assoc] at split
  refine ⟨planned.ordered.commitDown kept paired inOrder split, base, ?_⟩
  have sorted : state.inForce.Pairwise (· < ·) := by
    rw [kept.inForce]
    exact (kept.sorted paired).sublist (filter_sublist.map _)
  rw [split] at sorted
  have ne : ∀ version ∈ base ++ (rest.map (·.version)).reverse, version ≠ row.version := by
    intro version mem
    exact ((pairwise_append.mp sorted).2.2 version mem row.version (by simp)).ne
  simp only [State.commitDown, split, filter_append _ [row.version]]
  rw [filter_eq_self.mpr (by simpa using ne)]
  simp

theorem Kept.planned (kept : Kept files state) (paired : Paired files) (ordered : Ordered state)
    {targetVersion : Option (List Char)}
    (applied : ∀ row ∈ migrationsToRollback targetVersion state, row.status = .applied) :
    Planned files (migrationsToRollback targetVersion state) state := by
  refine ⟨ordered, ?_⟩
  obtain ⟨lower, split⟩ := kept.migrationsToRollback_eq paired targetVersion
  refine ⟨appliedVersions lower, ?_⟩
  have all : (migrationsToRollback targetVersion state).reverse.filter (·.status = .applied) =
      (migrationsToRollback targetVersion state).reverse :=
    filter_eq_self.mpr (by simpa using applied)
  rw [kept.inForce, split]
  simp only [appliedVersions, filter_append, map_append, all, map_reverse]

theorem Ordered.step (valid : validationErrors files = []) (inOrder : InNumberOrder files)
    (state : State) (call : Call) (next : State) (both : Kept files state ∧ Ordered state)
    (asks : AsksApplied state call) (ran : (machine files).exec state call = .ok next) :
    Kept files next ∧ Ordered next := by
  have paired := Paired.of_valid valid
  apply step_induct Ordered (Planned files) valid _ _ _ both.1 both.2 _ ran
  · intro state version next both
    exact both.2.commitUp both.1 paired inOrder next
  · intro state row rest both
    exact both.2.commitDown both.1 paired inOrder
  · intro rest state planned
    exact planned.ordered
  · intro targetVersion scripts asked
    subst asked
    exact both.1.planned paired both.2 (asks rfl)

variable {rest : List MigrationFile}

theorem foldl_commitUp_inForce :
    (rest.foldl (fun state file => state.commitUp file.version) state).inForce =
      state.inForce ++ rest.map (·.version) := by
  induction rest generalizing state with
  | nil => simp
  | cons _ _ ih =>
    rw [foldl_cons, ih]
    simp [State.commitUp]

theorem foldl_commitUp_journal {moment : Moment} (mem : moment ∈ state.journal) :
    moment ∈ (rest.foldl (fun state file => state.commitUp file.version) state).journal := by
  induction rest generalizing state with
  | nil => exact mem
  | cons _ _ ih => exact ih (mem_append_left _ mem)

theorem fullUp_exec (kept : Kept files state) (valid : validationErrors files = []) :
    ∃ rest : List MigrationFile, rest.Sublist (upFiles files) ∧
      versions files = state.rows.map (·.version) ++ rest.map (·.version) ∧
      (machine files).exec state fullUp =
        .ok (rest.foldl (fun state file => state.commitUp file.version) state) := by
  obtain ⟨rest, sublist, split, ran⟩ :=
    migrateUp_exec kept valid false none fun _ => none
  refine ⟨rest, sublist, split, ?_⟩
  rw [fullUp, ran, applyEach_full]
  rw [← split]
  exact (Paired.of_valid valid).increasing.imp ne_of_lt

theorem fullUp_inForce_iff (kept : Kept files state) (valid : validationErrors files = []) :
    (∀ version ∈ versions files, version ∈ ((machine files).apply state fullUp).inForce) ↔
      ∀ row ∈ state.rows, row.status = .applied := by
  obtain ⟨rest, -, split, ran⟩ := fullUp_exec kept valid
  rw [apply_of_ok _ ran, foldl_commitUp_inForce, kept.inForce, split]
  have unique : (state.rows.map (·.version) ++ rest.map (·.version)).Nodup := by
    rw [← split]
    exact (Paired.of_valid valid).increasing.imp ne_of_lt
  obtain ⟨rowsUnique, -, disjoint⟩ := nodup_append.mp unique
  constructor
  · intro inForce row got
    have noted : row.version ∈ state.rows.map (·.version) := mem_map_of_mem got
    rcases mem_append.mp (inForce row.version (mem_append_left _ noted)) with
      applied | later
    · obtain ⟨_, mem, same⟩ := mem_map.mp applied
      obtain ⟨here, status⟩ := mem_filter.mp mem
      rw [← inj_on_of_nodup_map rowsUnique here got same]
      exact of_decide_eq_true status
    · exact absurd rfl (disjoint row.version noted row.version later)
  · intro applied version mem
    have all : state.rows.filter (·.status = .applied) = state.rows :=
      filter_eq_self.mpr (by simpa using applied)
    rwa [appliedVersions, all]

theorem inNumberOrder_of_ordered (valid : validationErrors files = [])
    (ordered : Ordered ((machine files).apply {} fullUp)) : InNumberOrder files := by
  obtain ⟨rest, sublist, split, ran⟩ := fullUp_exec (kept_start files) valid
  rw [apply_of_ok _ ran] at ordered
  have sorted := (Paired.of_valid valid).increasing
  have whole : rest = upFiles files := by
    apply sublist.eq_of_length
    have lengths := congrArg List.length split
    simpa [versions] using lengths.symm
  subst whole
  intro first one second other less
  obtain ⟨earlier, _, apart⟩ := append_of_mem other
  have before : first.version ∈ earlier.map (·.version) := by
    rw [versions, apart, map_append, map_cons] at sorted
    obtain ⟨-, after, -⟩ := pairwise_append.mp sorted
    rw [apart] at one
    rcases mem_append.mp one with one | one
    · exact mem_map_of_mem one
    · rcases mem_cons.mp one with rfl | one
      · exact absurd less (lt_irrefl _)
      · have greater := (pairwise_cons.mp after).1 first.version (mem_map_of_mem one)
        exact absurd less greater.asymm
  rw [apart, foldl_append, foldl_cons] at ordered
  have moment := ordered _ (foldl_commitUp_journal
    (mem_append_right _ (mem_singleton.mpr rfl)))
  apply moment.2 first.version
  rw [foldl_commitUp_inForce]
  simpa using before

/-- For valid files the scripts in force are always those recorded as applied. The scripts run in
the order of the numbers, in every run that asks no rollback of a version that is rolled back
already, exactly when the order of the texts is the order of the numbers. A full run applies every
version exactly when none is rolled back. -/
theorem migrations_lawful_iff (files : List MigrationFile) (valid : validationErrors files = []) :
    (∀ calls, (machine files).Always Recorded {} calls) ∧
    ((∀ calls, (machine files).Meets AsksApplied {} calls →
      (machine files).Always Ordered {} calls) ↔ InNumberOrder files) ∧
    ∀ state, (machine files).Reachable {} state →
      ((∀ file ∈ upFiles files, file.version ∈ ((machine files).apply state fullUp).inForce) ↔
        ∀ row ∈ state.rows, row.status = .applied) := by
  refine ⟨?_, ⟨?_, ?_⟩, ?_⟩
  · intro calls
    exact (always_invariant (Kept.step valid) (kept_start files) calls).mono
      fun _ => Kept.recorded
  · intro always
    exact inNumberOrder_of_ordered valid (always [fullUp] ⟨fun _ => trivial, trivial⟩).final
  · intro inOrder calls asks
    have start : Kept files {} ∧ Ordered {} := ⟨kept_start files, by simp [Ordered]⟩
    exact (always_of_meets (Ordered.step valid inOrder) start asks).mono
      fun _ both => both.2
  · intro state reached
    obtain ⟨calls, rfl⟩ := reached
    have kept := run_invariant (Kept.step valid) (kept_start files) calls
    rw [← fullUp_inForce_iff kept valid]
    simp only [versions, forall_mem_map]

def filePair (version : Version) : List MigrationFile :=
  [{ version, description := "tables", direction := .up },
    { version, description := "tables", direction := .down }]

def version1 : Version := ⟨['1'], nofun, List.forall_mem_singleton.mpr rfl⟩
def version9 : Version := ⟨['9'], nofun, List.forall_mem_singleton.mpr rfl⟩
def version10 : Version := 
  ⟨['1', '0'], nofun, List.forall_mem_cons.mpr ⟨rfl, List.forall_mem_singleton.mpr rfl⟩⟩

theorem migrations_lawful_single :
    (∀ calls, (machine (filePair version1)).Always Recorded {} calls) ∧
    ((∀ calls, (machine (filePair version1)).Meets AsksApplied {} calls →
      (machine (filePair version1)).Always Ordered {} calls) ↔ InNumberOrder (filePair version1)) ∧
    ∀ state, (machine (filePair version1)).Reachable {} state →
      ((∀ file ∈ upFiles (filePair version1),
          file.version ∈ ((machine (filePair version1)).apply state fullUp).inForce) ↔
        ∀ row ∈ state.rows, row.status = .applied) :=
  migrations_lawful_iff (filePair version1) (by decide)

/-- A rollback of the last version whose script succeeds. -/
def downOnce : Call := .migrateDown none false fun _ => none

/-- A version that was rolled back is never applied again, its down script runs a second time, and
version 10 runs before version 9. -/
theorem rolled_back_stays_back :
    ¬ (∀ files, validationErrors files = [] → ∀ calls,
      ∀ file ∈ upFiles files,
        file.version ∈ ((machine files).run {} (calls ++ [downOnce, fullUp])).inForce) ∧
    ¬ (∀ calls, Ordered ((machine (filePair version1)).run {} calls)) ∧
    ¬ (∀ files, validationErrors files = [] → Ordered ((machine files).run {} [fullUp])) := by
  refine ⟨?_, ?_, ?_⟩
  · intro again
    have inForce := again (filePair version1) (by decide) [fullUp]
      { version := version1, description := "tables", direction := .up } (by decide)
    exact absurd inForce (by decide)
  · intro ordered
    have moment := ordered [fullUp, downOnce, downOnce]
      { direction := .down, version := version1, before := [], after := []
        rows := [{ version := version1, status := .rolledBack }] } (by decide)
    exact absurd moment.1 (by decide)
  · intro ordered
    have moment := ordered (filePair version9 ++ filePair version10) (by decide)
      { direction := .up, version := version9, before := [version10]
        after := [version10, version9]
        rows := [{ version := version10, status := .applied },
          { version := version9, status := .applied }] } (by decide)
    exact absurd (moment.2 version10 (by decide)) (by decide)

end SorobanPlayground.MigrationService
