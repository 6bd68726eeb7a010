import Mathlib.Algebra.Group.Nat.Defs
import Mathlib.Data.Char
import Mathlib.Data.List.Lex
import Mathlib.Data.List.Sort
import SorobanPlayground.Library.CallMachine

/-! # The migration service

Versions are digit strings that the service sorts and compares as text. A script and the change of
its row are one transaction; the state remembers each transaction with the scripts that were in
force before and after it.
-/

namespace SorobanPlayground.MigrationService

/-- A match of `(\d+)`. -/
structure Version where
  text : List Char
  digits : text ≠ [] ∧ ∀ char ∈ text, char.isDigit = true
  deriving DecidableEq

namespace Version

theorem text_injective : Function.Injective Version.text := by
  intro first second same
  cases first
  cases second
  cases same
  rfl

/-- Versions are compared as texts, by `localeCompare`, by `ORDER BY version` and by `>` alike. -/
instance : LinearOrder Version := LinearOrder.lift' Version.text text_injective

def number (version : Version) : Nat :=
  version.text.foldl (fun number digit => 10 * number + (digit.toNat - '0'.toNat)) 0

instance : ToString Version := ⟨fun version => String.ofList version.text⟩

/-- Keys of this form come first among the properties of an object, in increasing order. -/
def isArrayIndex (version : Version) : Bool :=
  (version.text == ['0'] || version.text.head? != some '0') && version.number < 2 ^ 32 - 1

end Version

inductive Direction where
  | up
  | down
  deriving DecidableEq, Repr

structure MigrationFile where
  version : Version
  description : String
  direction : Direction
  deriving DecidableEq

inductive Status where
  | applied
  | rolledBack
  deriving DecidableEq, Repr

/-- A row of `_schema_migrations`. -/
structure Row where
  version : Version
  status : Status
  deriving DecidableEq

/-- A committed transaction. -/
structure Moment where
  direction : Direction
  version : Version
  before : List Version
  after : List Version
  rows : List Row
  deriving DecidableEq

/-- The rows in the order of their insertion, the versions whose up scripts are in force, and the
transactions so far. -/
structure State where
  rows : List Row := []
  inForce : List Version := []
  journal : List Moment := []
  deriving DecidableEq

variable (files : List MigrationFile)

def filesOf (direction : Direction) : List MigrationFile :=
  files.filter (·.direction = direction)

/-- The keys of `versionCounts`, in the order of `Object.entries`. -/
def countedVersions : List Version :=
  let keys := ((filesOf files .up).map (·.version)).eraseDups
  (keys.filter (·.isArrayIndex)).insertionSort (fun first second => first.number ≤ second.number) ++
    keys.filter (!·.isArrayIndex)

def validationErrors : List String :=
  (((filesOf files .up).filter fun upFile =>
      (filesOf files .down).all (·.version ≠ upFile.version)).map fun upFile =>
        "Missing down migration for version " ++ toString upFile.version) ++
  (((filesOf files .down).filter fun downFile =>
      (filesOf files .up).all (·.version ≠ downFile.version)).map fun downFile =>
        "Missing up migration for version " ++ toString downFile.version) ++
  (((countedVersions files).filter fun version =>
      1 < (filesOf files .up).countP (·.version = version)).map fun version =>
        "Duplicate up migration for version " ++ toString version)

/-- The up files of `validateMigrationFiles`. -/
def upFiles : List MigrationFile :=
  (filesOf files .up).insertionSort fun first second => first.version ≤ second.version

/-- `ORDER BY version`. -/
def getAppliedMigrations (state : State) : List Row :=
  state.rows.insertionSort fun first second => first.version ≤ second.version

def getPendingMigrations (state : State) : Except String (List MigrationFile) :=
  if validationErrors files ≠ [] then
    .error ("Migration validation failed: " ++ ", ".intercalate (validationErrors files))
  else
    .ok ((upFiles files).filter fun file =>
      (getAppliedMigrations state).all (·.version ≠ file.version))

/-- An up script runs and its row is inserted. -/
def State.commitUp (state : State) (version : Version) : State :=
  let rows := state.rows ++ [{ version, status := .applied }]
  let inForce := state.inForce ++ [version]
  { rows, inForce
    journal := state.journal ++
      [{ direction := .up, version, before := state.inForce, after := inForce, rows }] }

/-- A down script runs and the row of its version is updated. -/
def State.commitDown (state : State) (version : Version) : State :=
  let rows := state.rows.map fun row =>
    if row.version = version then { row with status := .rolledBack } else row
  let inForce := state.inForce.filter (· ≠ version)
  { rows, inForce
    journal := state.journal ++
      [{ direction := .down, version, before := state.inForce, after := inForce, rows }] }

/-- The error that a script fails with, if it does. -/
abbrev Scripts := MigrationFile → Option String

inductive Result where
  | success (migration : MigrationFile) (dryRun : Bool)
  | failure (version : Version) (error : String)
  deriving DecidableEq

variable (scripts : Scripts) (dryRun : Bool)

def executeMigration (migrationFile : MigrationFile) (state : State) :
    Except String (Result × State) :=
  if dryRun then .ok (.success migrationFile true, state)
  else
    let failed := "Migration " ++ toString migrationFile.version ++ " failed: "
    match scripts migrationFile with
    | some error => .error (failed ++ error)
    | none =>
        if state.rows.any (·.version = migrationFile.version) then
          .error (failed ++ "UNIQUE constraint failed: _schema_migrations.version")
        else .ok (.success migrationFile false, state.commitUp migrationFile.version)

def rollbackMigration (migrationFile : MigrationFile) (state : State) :
    Except String (Result × State) :=
  match files.find? fun file =>
      file.version = migrationFile.version && file.direction = .down with
  | none => .error ("No down migration found for version " ++ toString migrationFile.version)
  | some downFile =>
      if dryRun then .ok (.success downFile true, state)
      else
        match scripts downFile with
        | some error =>
            .error ("Rollback for migration " ++ toString migrationFile.version ++ " failed: " ++
              error)
        | none => .ok (.success downFile false, state.commitDown migrationFile.version)

/-- The loop of `migrateUp`. A migration that is executed succeeds, so that its branch for a result
without success is never taken. -/
def applyEach (limit : Option Int) : List MigrationFile → Nat → State → List Result × State
  | [], _, state => ([], state)
  | migration :: rest, count, state =>
      if limit.any (· ≤ (count : Int)) then ([], state)
      else
        match executeMigration scripts dryRun migration state with
        | .error error => ([.failure migration.version error], state)
        | .ok (result, next) =>
            let later := applyEach limit rest (count + 1) next
            (result :: later.1, later.2)

def migrateUp (limit : Option Int) (state : State) : Except String (List Result × State) :=
  match getPendingMigrations files state with
  | .error error => .error error
  | .ok pending => .ok (applyEach scripts dryRun limit pending 0 state)

/-- `targetVersion` is empty or missing where only the last migration is rolled back. -/
def migrationsToRollback (targetVersion : Option (List Char)) (state : State) : List Row :=
  match targetVersion with
  | none | some [] => (getAppliedMigrations state).getLast?.toList
  | some target => ((getAppliedMigrations state).filter (target < ·.version.text)).reverse

def rollbackRow (appliedMigration : Row) (state : State) : Except String (Result × State) :=
  match files.find? fun file =>
      file.version = appliedMigration.version && file.direction = .up with
  | none => .error ("Migration file not found for version " ++ toString appliedMigration.version)
  | some migrationFile => rollbackMigration files scripts dryRun migrationFile state

/-- The loop of `migrateDown`. -/
def rollbackEach : List Row → State → List Result × State
  | [], state => ([], state)
  | appliedMigration :: rest, state =>
      match rollbackRow files scripts dryRun appliedMigration state with
      | .error error => ([.failure appliedMigration.version error], state)
      | .ok (result, next) =>
          let later := rollbackEach rest next
          (result :: later.1, later.2)

def migrateDown (targetVersion : Option (List Char)) (state : State) : List Result × State :=
  rollbackEach files scripts dryRun (migrationsToRollback targetVersion state) state

inductive Call where
  | migrateUp (dryRun : Bool) (limit : Option Int) (scripts : Scripts)
  | migrateDown (targetVersion : Option (List Char)) (dryRun : Bool) (scripts : Scripts)

/-- The service over one directory of files. -/
def machine (files : List MigrationFile) : CallMachine State Call String where
  exec state call :=
    match call with
    | .migrateUp dryRun limit scripts =>
        (migrateUp files scripts dryRun limit state).map Prod.snd
    | .migrateDown targetVersion dryRun scripts =>
        .ok (migrateDown files scripts dryRun targetVersion state).2

def appliedVersions (rows : List Row) : List Version :=
  (rows.filter (·.status = .applied)).map (·.version)

/-- At every moment the scripts in force are those recorded as applied. -/
structure Recorded (state : State) : Prop where
  now : ∀ version, version ∈ state.inForce ↔ version ∈ appliedVersions state.rows
  moments : ∀ moment ∈ state.journal, ∀ version,
    version ∈ moment.after ↔ version ∈ appliedVersions moment.rows

/-- An up script is of a version that is not in force and follows those that are; a down script is
of the last version in force. -/
def Moment.Ordered (moment : Moment) : Prop :=
  match moment.direction with
  | .up => moment.version ∉ moment.before ∧
      ∀ version ∈ moment.before, version.number < moment.version.number
  | .down => moment.version ∈ moment.before ∧
      ∀ version ∈ moment.before, version.number ≤ moment.version.number

def Ordered (state : State) : Prop := ∀ moment ∈ state.journal, moment.Ordered

def InNumberOrder (files : List MigrationFile) : Prop :=
  ∀ first ∈ upFiles files, ∀ second ∈ upFiles files, first.version < second.version →
    first.version.number < second.version.number

/-- No rollback is asked for a version that is rolled back already. -/
def AsksApplied (state : State) : Call → Prop
  | .migrateUp _ _ _ => True
  | .migrateDown targetVersion dryRun _ => dryRun = false →
      ∀ row ∈ migrationsToRollback targetVersion state, row.status = .applied

/-- An unlimited `migrateUp` whose scripts succeed. -/
def fullUp : Call := .migrateUp false none fun _ => none

end SorobanPlayground.MigrationService
