import NetPort.ObjectEffects
import NetPort.StepRuns

/-! `run-migrations.sh` over the migration files: what each file does to the schema, the baseline
that records versions without running them, and the loop that runs the others. -/
namespace Migrations

open ObjectEffects StepRuns

inductive Table where
  | users
  | servers
  | statistic
  | devices
  | deviceSessions
  | portAllocations
  | deviceTrafficSamples
  deriving DecidableEq, Repr

inductive Column where
  | preferredPort
  | autoConnectEnabled
  | totalBytesReceived
  | totalBytesSent
  | enableInputSsl
  | enableTunnelSsl
  deriving DecidableEq, Repr

inductive Constraint where
  | serversInputPortRange
  | serversOutputPortRange
  | validInternalPort
  | validPreferredPort
  | validAllocation
  deriving DecidableEq, Repr

inductive Index where
  | deviceTrafficSamplesDeviceTime
  | deviceTrafficSamplesSessionTime
  | devicesPreferredPort
  | usersLoginUnique
  deriving DecidableEq, Repr

inductive Function where
  | freeDevicePort
  | freeDevicePortPair
  | cleanupDeviceSessions
  | cleanupExpiredSessions
  | releaseDevicePortReservation
  | reserveDevicePortPair
  | notifyDeviceStatusChange
  deriving DecidableEq, Repr

inductive Object where
  | table (t : Table)
  | column (t : Table) (c : Column)
  | constraint (t : Table) (c : Constraint)
  | index (i : Index)
  | function (f : Function)
  deriving DecidableEq, Repr

def Object.isIndex : Object → Bool
  | index _ => true
  | _ => false

/-- The definitions that the sources have for one object, numbered in the order of the files; the
scripts that initialise a database have the first. -/
abbrev Text := ℕ

def texts : Object → List Text
  | .function .freeDevicePortPair => [0, 1]
  | _ => [0]

inductive Statement where
  /-- CREATE TABLE IF NOT EXISTS -/
  | createTable (t : Table) (references : List Table)
  /-- ADD COLUMN IF NOT EXISTS, one or more in a statement -/
  | addColumns (t : Table) (columns : List Column)
  /-- DROP CONSTRAINT IF EXISTS -/
  | dropConstraint (t : Table) (c : Constraint)
  | addConstraint (t : Table) (c : Constraint) (columns : List Column)
  /-- A DO block that adds those that `pg_constraint` does not have -/
  | addMissingConstraints (t : Table) (constraints : List Constraint)
  /-- CREATE INDEX IF NOT EXISTS -/
  | createIndex (i : Index) (t : Table) (columns : List Column)
  /-- CREATE OR REPLACE FUNCTION -/
  | createFunction (f : Function) (text : Text)
  /-- No object changes: rows, privileges, comments. -/
  | run (uses : List Object)
  deriving DecidableEq, Repr

def Statement.changes : Statement → List (Object × Effect Text)
  | createTable t _ => [(.table t, .ensure 0)]
  | addColumns t columns => columns.map fun c => (.column t c, .ensure 0)
  | dropConstraint t c => [(.constraint t c, .drop)]
  | addConstraint t c _ => [(.constraint t c, .set 0)]
  | addMissingConstraints t constraints => constraints.map fun c => (.constraint t c, .ensure 0)
  | createIndex i _ _ => [(.index i, .ensure 0)]
  | createFunction f text => [(.function f, .set text)]
  | run _ => []

def Statement.effect (statement : Statement) (o : Object) : Effect Text :=
  (statement.changes.lookup o).getD .keep

abbrev Schema := Object → Option Text

def Statement.uses : Statement → List Object
  | createTable _ references => references.map .table
  | addColumns t _ => [.table t]
  | dropConstraint t _ => [.table t]
  | addConstraint t _ columns => .table t :: columns.map (.column t)
  | addMissingConstraints t _ => [.table t]
  | createIndex _ t columns => .table t :: columns.map (.column t)
  | createFunction _ _ => []
  | run uses => uses

def Statement.executable (objects : Schema) (statement : Statement) : Bool :=
  statement.uses.all (fun o => (objects o).isSome) &&
    match statement with
    | addConstraint t c _ => (objects (.constraint t c)).isNone
    | _ => true

def Statement.execute (statement : Statement) (objects : Schema) : Schema :=
  fun o => (statement.effect o).apply (objects o)

open Statement in
/-- The statements of the files `001_…` to `012_…`. -/
def migration : ℕ → List Statement
  | 1 =>
    [createFunction .freeDevicePort 0,
      createFunction .freeDevicePortPair 0,
      createFunction .cleanupDeviceSessions 0,
      createFunction .cleanupExpiredSessions 0,
      run [.function .cleanupExpiredSessions, .table .deviceSessions, .table .portAllocations,
        .table .devices],
      run [.table .deviceSessions],
      run [.function .cleanupExpiredSessions, .table .deviceSessions, .table .portAllocations,
        .table .devices]]
  | 2 =>
    [run [.table .servers],
      run [.table .servers],
      addMissingConstraints .servers [.serversInputPortRange, .serversOutputPortRange]]
  | 3 =>
    [dropConstraint .devices .validInternalPort,
      addConstraint .devices .validInternalPort []]
  | 4 =>
    [createTable .deviceTrafficSamples [.devices, .deviceSessions],
      createIndex .deviceTrafficSamplesDeviceTime .deviceTrafficSamples [],
      createIndex .deviceTrafficSamplesSessionTime .deviceTrafficSamples [],
      run [.table .deviceTrafficSamples]]
  | 5 =>
    [addColumns .devices [.preferredPort],
      dropConstraint .devices .validPreferredPort,
      addConstraint .devices .validPreferredPort [.preferredPort],
      dropConstraint .portAllocations .validAllocation,
      addConstraint .portAllocations .validAllocation [],
      createIndex .devicesPreferredPort .devices [.preferredPort],
      createFunction .releaseDevicePortReservation 0,
      createFunction .reserveDevicePortPair 0,
      createFunction .freeDevicePortPair 1,
      run [.function .releaseDevicePortReservation],
      run [.function .reserveDevicePortPair]]
  | 6 =>
    [addColumns .users [.autoConnectEnabled],
      run [.table .users, .column .users .autoConnectEnabled]]
  | 7 => [createFunction .notifyDeviceStatusChange 0]
  -- the text of 001 again
  | 8 => [createFunction .cleanupExpiredSessions 0]
  | 9 => [run [.table .statistic]]
  | 10 =>
    [addColumns .servers [.totalBytesReceived, .totalBytesSent],
      addColumns .devices [.totalBytesReceived, .totalBytesSent],
      run [.table .servers, .table .statistic, .column .servers .totalBytesReceived,
        .column .servers .totalBytesSent],
      run [.table .devices, .table .deviceSessions, .column .devices .totalBytesReceived,
        .column .devices .totalBytesSent]]
  | 11 =>
    [run [.table .users, .table .devices, .table .servers],
      createIndex .usersLoginUnique .users []]
  | 12 =>
    [addColumns .devices [.enableInputSsl],
      addColumns .devices [.enableTunnelSsl],
      run [.column .devices .enableInputSsl],
      run [.column .devices .enableTunnelSsl]]
  | _ => []

def versions : List ℕ := [1, 2, 3, 4, 5, 6, 7, 8, 9, 10, 11, 12]

def baselineVersions : List ℕ := versions.filter (· != 8)

structure Database where
  objects : Schema
  /-- The versions in `schema_migrations`, if that table is there. -/
  migrations : Option (List ℕ)

def Database.recorded (db : Database) : List ℕ := db.migrations.getD []

/-- `baseline_existing_schema` does something. -/
def Database.baselineDue (db : Database) : Bool :=
  db.migrations == some [] && (db.objects (.table .users)).isSome

inductive Phase where
  | idle
  | baseline
  | loop (files : List ℕ)
  | file (version : ℕ) (statements : List Statement) (files : List ℕ)
  | done
  deriving DecidableEq, Repr

structure State where
  db : Database
  phase : Phase

/-- The script may stop anywhere: an interruption, or a statement that fails. -/
inductive Action where
  | launch
  | baseline (inserted : ℕ)
  | next
  | statement
  | record
  | stop
  deriving DecidableEq, Repr

def step (s : State) (a : Action) : Option State :=
  match s.phase, a with
  | .idle, .launch | .done, .launch =>
    some ⟨{ s.db with migrations := some s.db.recorded }, .baseline⟩
  | .baseline, .baseline n =>
    if s.db.baselineDue then
      some ⟨{ s.db with migrations := some (baselineVersions.take n) },
        if n < baselineVersions.length then .idle else .loop versions⟩
    else some { s with phase := .loop versions }
  | .loop [], .next => some { s with phase := .done }
  | .loop (v :: files), .next =>
    if v ∈ s.db.recorded then some { s with phase := .loop files }
    else some { s with phase := .file v (migration v) files }
  | .file v (statement :: statements) files, .statement =>
    if statement.executable s.db.objects then
      some ⟨{ s.db with objects := statement.execute s.db.objects }, .file v statements files⟩
    else none
  | .file v [] files, .record =>
    some ⟨{ s.db with migrations := some (s.db.recorded ++ [v]) }, .loop files⟩
  | .baseline, .stop | .loop _, .stop | .file _ _ _, .stop => some { s with phase := .idle }
  | _, _ => none

def system : System State Action where
  initial s := s.phase = .idle ∧ s.db.migrations = none ∧
    ∀ o text, s.db.objects o = some text → text ∈ texts o
  enabled s a := (step s a).isSome = true
  next s a := (step s a).getD s

instance (s : State) (a : Action) : Decidable (system.enabled s a) :=
  inferInstanceAs (Decidable ((step s a).isSome = true))

/-- The tables, columns, constraints and functions that the file defines. -/
def defines (v : ℕ) : List Object :=
  (((migration v).flatMap Statement.changes).filter
    fun change => change.2.text.isSome && !change.1.isIndex).map Prod.fst

def fileEffect (v : ℕ) (o : Object) : Effect Text := total (·.effect o) (migration v)

/-- The definition of the version itself and those that replace it. -/
def definitions (v : ℕ) (o : Object) : List Text :=
  (versions.filter (v ≤ ·)).filterMap fun w => (fileEffect w o).text

def Defined (objects : Schema) (v : ℕ) (o : Object) : Prop :=
  ∃ text ∈ definitions v o, objects o = some text

def Sound (db : Database) : Prop :=
  ∀ v ∈ db.recorded, ∀ o ∈ defines v, Defined db.objects v o

/-- Recording these versions promises nothing that the schema lacks: what a version defines is
there, or another version brings it that is still to be run. -/
def Covered (recorded : List ℕ) (objects : Schema) : Prop :=
  ∀ v ∈ recorded, ∀ o ∈ defines v, Defined objects v o ∨
    ∃ w ∈ versions, w ∉ recorded ∧ o ∈ defines w

/-- The baseline, if it does something, records versions whose effects are there. -/
def Careful (s : State) : Action → Prop
  | .baseline n => s.phase = .baseline → s.db.baselineDue = true →
      Covered (baselineVersions.take n) s.db.objects
  | _ => True

instance (objects : Schema) (v : ℕ) (o : Object) : Decidable (Defined objects v o) :=
  inferInstanceAs (Decidable (∃ text ∈ definitions v o, objects o = some text))

instance (db : Database) : Decidable (Sound db) :=
  inferInstanceAs (Decidable (∀ v ∈ db.recorded, ∀ o ∈ defines v, Defined db.objects v o))

instance (recorded : List ℕ) (objects : Schema) : Decidable (Covered recorded objects) :=
  inferInstanceAs (Decidable (∀ v ∈ recorded, ∀ o ∈ defines v, Defined objects v o ∨
    ∃ w ∈ versions, w ∉ recorded ∧ o ∈ defines w))

instance (s : State) : (a : Action) → Decidable (Careful s a)
  | .baseline n => inferInstanceAs (Decidable (s.phase = .baseline → s.db.baselineDue = true →
      Covered (baselineVersions.take n) s.db.objects))
  | .launch | .next | .statement | .record | .stop => isTrue trivial

variable {s t : State} {a : Action} {v w n : ℕ} {o : Object} {statement : Statement}
  {objects : Schema} {log : List (State × Action)}

/-- What a statement of a file does to a counted object, the file defines. -/
theorem change_mem_defines : ∀ v ∈ versions, ∀ statement ∈ migration v,
    ∀ change ∈ statement.changes, change.1.isIndex = false → change.1 ∈ defines v := by
  decide +kernel

theorem change_known : ∀ v ∈ versions, ∀ statement ∈ migration v,
    ∀ change ∈ statement.changes, ∀ text ∈ change.2.text, text ∈ texts change.1 := by
  decide +kernel

/-- Run after the version, or being 008, a file leaves all that both define as it should be. -/
theorem file_settles : ∀ v ∈ versions, ∀ w ∈ versions, v ≤ w ∨ w = 8 → ∀ o ∈ defines v,
    o ∈ defines w → (fileEffect w o).settles (texts o) (definitions v o) = true := by
  decide +kernel

theorem not_isIndex_of_mem (h : o ∈ defines v) : o.isIndex = false := by
  simp only [defines, List.mem_map, List.mem_filter, Bool.and_eq_true, Bool.not_eq_true'] at h
  obtain ⟨change, ⟨_, _, counted⟩, rfl⟩ := h
  exact counted

inductive Step : State → Action → State → Prop
  | launch {db : Database} {phase : Phase} :
      Step ⟨db, phase⟩ .launch ⟨{ db with migrations := some db.recorded }, .baseline⟩
  | inserted {db : Database} {n : ℕ} (due : db.baselineDue = true) :
      Step ⟨db, .baseline⟩ (.baseline n)
        ⟨{ db with migrations := some (baselineVersions.take n) },
          if n < baselineVersions.length then .idle else .loop versions⟩
  | noBaseline {db : Database} {n : ℕ} (due : ¬ db.baselineDue = true) :
      Step ⟨db, .baseline⟩ (.baseline n) ⟨db, .loop versions⟩
  | finish {db : Database} : Step ⟨db, .loop []⟩ .next ⟨db, .done⟩
  | skip {db : Database} {v : ℕ} {files : List ℕ} (recorded : v ∈ db.recorded) :
      Step ⟨db, .loop (v :: files)⟩ .next ⟨db, .loop files⟩
  | apply {db : Database} {v : ℕ} {files : List ℕ} (pending : v ∉ db.recorded) :
      Step ⟨db, .loop (v :: files)⟩ .next ⟨db, .file v (migration v) files⟩
  | statement {db : Database} {v : ℕ} {statement : Statement} {statements : List Statement}
      {files : List ℕ} :
      Step ⟨db, .file v (statement :: statements) files⟩ .statement
        ⟨{ db with objects := statement.execute db.objects }, .file v statements files⟩
  | record {db : Database} {v : ℕ} {files : List ℕ} :
      Step ⟨db, .file v [] files⟩ .record
        ⟨{ db with migrations := some (db.recorded ++ [v]) }, .loop files⟩
  | stop {db : Database} {phase : Phase} : Step ⟨db, phase⟩ .stop ⟨db, .idle⟩

theorem step_cases (h : system.enabled s a) : Step s a (system.next s a) := by
  obtain ⟨db, phase⟩ := s
  obtain ⟨t, ht⟩ := Option.isSome_iff_exists.1 h
  have found : system.next ⟨db, phase⟩ a = t := by simp [system, ht]
  rw [found]
  unfold step at ht
  split at ht
  case h_1 | h_2 =>
    cases ht
    exact .launch
  case h_3 phase _ n baseline =>
    cases baseline
    split at ht <;> cases ht
    · exact .inserted ‹_›
    · exact .noBaseline ‹_›
  case h_4 loop =>
    cases loop
    cases ht
    exact .finish
  case h_5 v files loop =>
    cases loop
    split at ht <;> cases ht
    · exact .skip ‹_›
    · exact .apply ‹_›
  case h_6 file =>
    cases file
    split at ht <;> cases ht
    exact .statement
  case h_7 file =>
    cases file
    cases ht
    exact .record
  case h_8 | h_9 | h_10 =>
    cases ht
    exact .stop
  case h_11 => cases ht

structure Pending (db : Database) (files : List ℕ) : Prop where
  known : ∀ v ∈ files, v ∈ versions
  sorted : files.Pairwise (· < ·)
  others : ∀ v ∈ versions, v ∈ files ∨ v ∈ db.recorded

def Executed (objects : Schema) (v : ℕ) (statements : List Statement) : Prop :=
  ∃ executed, migration v = executed ++ statements ∧ ∀ o, ∃ before : Option Text,
    (∀ text, before = some text → text ∈ texts o) ∧
      objects o = (total (·.effect o) executed).apply before

def Progress (db : Database) : Phase → Prop
  | .idle | .baseline => True
  | .loop files => Pending db files
  | .file v statements files =>
    v ∉ db.recorded ∧ Pending db (v :: files) ∧ Executed db.objects v statements
  | .done => Pending db []

structure Invariant (s : State) : Prop where
  texts : ∀ o text, s.db.objects o = some text → text ∈ texts o
  known : ∀ v ∈ s.db.recorded, v ∈ versions
  /-- No version is recorded before an earlier one, except before 008. -/
  ordered : ∀ v ∈ s.db.recorded, ∀ w ∈ versions, w < v → w = 8 ∨ w ∈ s.db.recorded
  progress : Progress s.db s.phase

theorem effect_eq (statement : Statement) (o : Object) :
    statement.effect o = .keep ∨ (o, statement.effect o) ∈ statement.changes := by
  simp only [Statement.effect]
  cases h : statement.changes.lookup o with
  | none => exact .inl rfl
  | some e =>
    obtain ⟨before, after, split, _⟩ := List.lookup_eq_some_iff.1 h
    right
    simp [split]

theorem effect_known (known : v ∈ versions) (mem : statement ∈ migration v) {text : Text}
    (h : (statement.effect o).text = some text) : text ∈ texts o := by
  rcases effect_eq statement o with keep | change
  · rw [keep] at h
    cases h
  · exact change_known v known statement mem _ change text h

theorem execute_other (known : v ∈ versions) (mem : statement ∈ migration v)
    (counted : o.isIndex = false) (other : o ∉ defines v) :
    statement.execute objects o = objects o := by
  rcases effect_eq statement o with keep | change
  · simp [Statement.execute, keep, Effect.apply]
  · exact absurd (change_mem_defines v known statement mem _ change counted) other

theorem Executed.mem {statements : List Statement}
    (h : Executed objects v (statement :: statements)) : statement ∈ migration v := by
  obtain ⟨executed, split, _⟩ := h
  simp [split]

theorem Executed.step {statements : List Statement}
    (h : Executed objects v (statement :: statements)) :
    Executed (statement.execute objects) v statements := by
  obtain ⟨executed, split, run⟩ := h
  refine ⟨executed ++ [statement], by simp [split], ?_⟩
  intro o
  obtain ⟨before, known, same⟩ := run o
  refine ⟨before, known, ?_⟩
  rw [total_append_singleton, Effect.apply_andThen, ← same]
  rfl

theorem pending_versions {db : Database} : Pending db versions :=
  ⟨fun _ h => h, by decide, fun _ h => .inl h⟩

theorem Pending.skip {db : Database} {files : List ℕ} (h : Pending db (v :: files))
    (recorded : v ∈ db.recorded) : Pending db files := by
  refine ⟨?_, h.sorted.tail, ?_⟩
  · intro w mem
    exact h.known w (List.mem_cons_of_mem _ mem)
  · intro w known
    rcases h.others w known with mem | done
    · rcases List.mem_cons.1 mem with rfl | later
      · exact .inr recorded
      · exact .inl later
    · exact .inr done

theorem Pending.recorded {db db' : Database} {files : List ℕ} (h : Pending db (v :: files))
    (same : db'.recorded = db.recorded ++ [v]) : Pending db' files := by
  have more : Pending db' (v :: files) := by
    refine ⟨h.known, h.sorted, ?_⟩
    intro w known
    rw [same]
    exact (h.others w known).imp_right (List.mem_append_left _)
  exact more.skip (by simp [same])

theorem Pending.earlier {db : Database} {files : List ℕ} (h : Pending db (v :: files))
    (known : w ∈ versions) (lt : w < v) : w ∈ db.recorded := by
  rcases h.others w known with mem | done
  · rcases List.mem_cons.1 mem with rfl | later
    · omega
    · have := List.rel_of_pairwise_cons h.sorted later
      omega
  · exact done

theorem Invariant.start (h : system.initial s) : Invariant s := by
  obtain ⟨idle, none, texts⟩ := h
  have empty : s.db.recorded = [] := by simp [Database.recorded, none]
  refine ⟨texts, ?_, ?_, ?_⟩
  · simp [empty]
  · simp [empty]
  · rw [idle]
    trivial

theorem baselineVersions_length : baselineVersions.length = 11 := by decide

theorem baseline_ordered : ∀ n, ∀ v ∈ baselineVersions.take n, v ∈ versions ∧
    ∀ w ∈ versions, w < v → w = 8 ∨ w ∈ baselineVersions.take n := by
  have short : ∀ n ≤ 11, ∀ v ∈ baselineVersions.take n, v ∈ versions ∧
      ∀ w ∈ versions, w < v → w = 8 ∨ w ∈ baselineVersions.take n := by decide
  intro n
  by_cases few : n ≤ 11
  · exact short n few
  · have all : baselineVersions.take n = baselineVersions.take 11 := by
      have length := baselineVersions_length
      rw [List.take_of_length_le (by omega), List.take_of_length_le (by omega)]
    rw [all]
    exact short 11 (by omega)

theorem Invariant.step (h : Invariant s) (enabled : system.enabled s a) :
    Invariant (system.next s a) := by
  obtain ⟨texts, known, ordered, progress⟩ := h
  have moved := step_cases enabled
  generalize system.next s a = t at moved ⊢
  cases moved with
  | launch => exact ⟨texts, known, ordered, trivial⟩
  | @inserted db n due =>
    refine ⟨texts, ?_, ?_, ?_⟩
    · intro v recorded
      exact (baseline_ordered n v recorded).1
    · intro v recorded
      exact (baseline_ordered n v recorded).2
    · by_cases few : n < baselineVersions.length
      · simp [few, Progress]
      · simp only [few, if_false]
        exact pending_versions
  | noBaseline => exact ⟨texts, known, ordered, pending_versions⟩
  | finish => exact ⟨texts, known, ordered, progress⟩
  | skip recorded => exact ⟨texts, known, ordered, progress.skip recorded⟩
  | apply pending =>
    refine ⟨texts, known, ordered, pending, progress, [], rfl, ?_⟩
    intro o
    exact ⟨_, texts o, rfl⟩
  | statement =>
    obtain ⟨pending, files, executed⟩ := progress
    refine ⟨?_, known, ordered, pending, ⟨files.known, files.sorted, files.others⟩, executed.step⟩
    intro o text found
    rcases Effect.apply_eq_some found with old | new
    · exact texts o text old
    · exact effect_known (files.known _ (by simp)) executed.mem new
  | @record db v files =>
    obtain ⟨pending, files, executed⟩ := progress
    refine ⟨texts, ?_, ?_, files.recorded rfl⟩
    · intro w recorded
      rcases List.mem_append.1 recorded with old | new
      · exact known w old
      · rw [List.mem_singleton.1 new]
        exact files.known v (by simp)
    · intro u recorded w knownW lt
      rcases List.mem_append.1 recorded with old | new
      · exact (ordered u old w knownW lt).imp_right (List.mem_append_left _)
      · rw [List.mem_singleton.1 new] at lt
        exact .inr (List.mem_append_left _ (files.earlier knownW lt))
  | stop => exact ⟨texts, known, ordered, trivial⟩

theorem Defined.of_settles {e : Effect Text} {before : Option Text}
    (settles : e.settles (texts o) (definitions v o) = true)
    (known : ∀ text, before = some text → text ∈ texts o) (now : objects o = e.apply before) :
    Defined objects v o := by
  obtain ⟨text, allowed, found⟩ := Effect.exists_apply_of_settles settles known
  exact ⟨text, allowed, now.trans found⟩

/-- Statements of a pending file change only what that file still brings. -/
theorem covered_execute {recorded : List ℕ} (pending : w ∉ recorded) (known : w ∈ versions)
    (mem : statement ∈ migration w) :
    Covered recorded (statement.execute objects) ↔ Covered recorded objects := by
  have same : ∀ v o, o ∈ defines v → o ∉ defines w →
      (Defined (statement.execute objects) v o ↔ Defined objects v o) := by
    intro v o defined other
    have kept : statement.execute objects o = objects o :=
      execute_other known mem (not_isIndex_of_mem defined) other
    simp only [Defined, kept]
  have either : ∀ v o, o ∈ defines v →
      ((Defined (statement.execute objects) v o ∨ ∃ u ∈ versions, u ∉ recorded ∧ o ∈ defines u) ↔
        (Defined objects v o ∨ ∃ u ∈ versions, u ∉ recorded ∧ o ∈ defines u)) := by
    intro v o defined
    by_cases own : o ∈ defines w
    · have brought : ∃ u ∈ versions, u ∉ recorded ∧ o ∈ defines u := ⟨w, known, pending, own⟩
      simp only [brought, or_true]
    · rw [same v o defined own]
  constructor
  · intro covered v recordedV o defined
    exact (either v o defined).1 (covered v recordedV o defined)
  · intro covered v recordedV o defined
    exact (either v o defined).2 (covered v recordedV o defined)

/-- A file that has been run to its end leaves what it defines as every version so far wants it. -/
theorem covered_record {recorded : List ℕ} (known : w ∈ versions)
    (earlier : ∀ v ∈ recorded, v ∈ versions ∧ (v ≤ w ∨ w = 8))
    (executed : Executed objects w []) :
    Covered (recorded ++ [w]) objects ↔ Covered recorded objects := by
  obtain ⟨statements, split, run⟩ := executed
  rw [List.append_nil] at split
  have settled : ∀ v ∈ versions, v ≤ w ∨ w = 8 → ∀ o ∈ defines v, o ∈ defines w →
      Defined objects v o := by
    intro v knownV order o defined own
    obtain ⟨before, knownText, now⟩ := run o
    rw [← split] at now
    exact .of_settles (file_settles v knownV w known order o defined own) knownText now
  constructor
  · intro covered v recordedV o defined
    have promised := covered v (List.mem_append_left _ recordedV) o defined
    rcases promised with found | ⟨u, knownU, rest, own⟩
    · exact .inl found
    · exact .inr ⟨u, knownU, fun old => rest (List.mem_append_left _ old), own⟩
  · intro covered v recordedV o defined
    rcases List.mem_append.1 recordedV with old | new
    · rcases covered v old o defined with found | ⟨u, knownU, rest, own⟩
      · exact .inl found
      · by_cases same : u = w
        · rw [same] at own
          exact .inl (settled v (earlier v old).1 (earlier v old).2 o defined own)
        · exact .inr ⟨u, knownU, by simp [rest, same], own⟩
    · rw [List.mem_singleton.1 new] at defined ⊢
      exact .inl (settled w known (.inl (Nat.le_refl w)) o defined defined)

/-- Only the baseline can break what the record promises, and nothing mends it. -/
theorem covered_next (h : Invariant s) (enabled : system.enabled s a) :
    Covered (system.next s a).db.recorded (system.next s a).db.objects ↔
      Covered s.db.recorded s.db.objects ∧ Careful s a := by
  obtain ⟨texts, known, ordered, progress⟩ := h
  have moved := step_cases enabled
  generalize system.next s a = t at moved ⊢
  cases moved with
  | launch => exact (and_iff_left trivial).symm
  | @inserted db n due =>
    have none : db.recorded = [] := by
      simp only [Database.baselineDue, Bool.and_eq_true, beq_iff_eq] at due
      simp [Database.recorded, due.1]
    have before : Covered db.recorded db.objects := by
      rw [none]
      exact fun v mem => absurd mem nofun
    have careful : Careful ⟨db, .baseline⟩ (.baseline n) ↔
        Covered (baselineVersions.take n) db.objects := by
      simp [Careful, due]
    rw [and_iff_right before, careful]
    rfl
  | @noBaseline db n due =>
    have careful : Careful ⟨db, .baseline⟩ (.baseline n) := fun _ taken => absurd taken due
    rw [and_iff_left careful]
  | finish | skip | apply | stop => exact (and_iff_left trivial).symm
  | statement =>
    obtain ⟨pending, files, executed⟩ := progress
    have knownW := files.known _ (List.mem_cons_self ..)
    exact (covered_execute pending knownW executed.mem).trans (and_iff_left trivial).symm
  | @record db w files =>
    obtain ⟨pending, files, executed⟩ := progress
    have knownW := files.known w (List.mem_cons_self ..)
    have earlier : ∀ v ∈ db.recorded, v ∈ versions ∧ (v ≤ w ∨ w = 8) := by
      intro v recorded
      refine ⟨known v recorded, ?_⟩
      by_cases later : w < v
      · exact .inr ((ordered v recorded w knownW later).resolve_right pending)
      · exact .inl (by omega)
    exact (covered_record knownW earlier executed).trans (and_iff_left trivial).symm

theorem covered_iff_sound (h : Invariant s) (done : s.phase = .done) :
    Covered s.db.recorded s.db.objects ↔ Sound s.db := by
  have progress := h.progress
  rw [done] at progress
  have all : ∀ w ∈ versions, w ∈ s.db.recorded := by
    intro w known
    exact (progress.others w known).resolve_left nofun
  constructor
  · intro covered v recorded o defined
    rcases covered v recorded o defined with found | ⟨w, known, pending, _⟩
    · exact found
    · exact absurd (all w known) pending
  · intro sound v recorded o defined
    exact .inl (sound v recorded o defined)

/-- After the script has succeeded, at the end of any number of runs of which the earlier ones may
have stopped anywhere, the recorded versions have their effects exactly when the baseline, if one
of the runs took it, recorded only versions whose effects were there or still to come. -/
theorem recorded_effects_iff (run : system.Run log s) (done : s.phase = .done) :
    Sound s.db ↔ ∀ e ∈ log, Careful e.1 e.2 := by
  have start : ∀ s, system.initial s → Invariant s ∧ Covered s.db.recorded s.db.objects := by
    intro s initial
    have empty : s.db.recorded = [] := by simp [Database.recorded, initial.2.1]
    refine ⟨.start initial, ?_⟩
    rw [empty]
    exact fun v mem => absurd mem nofun
  have keep : ∀ s a, Invariant s → system.enabled s a → Invariant (system.next s a) :=
    fun _ _ inv enabled => inv.step enabled
  have exactly := fun s a (inv : Invariant s) (enabled : system.enabled s a) =>
    covered_next inv enabled
  have inv := run.always (fun s initial => (start s initial).1) keep
  rw [← covered_iff_sound inv done]
  exact run.iff_careful start keep exactly

def schema (objects : List Object) : Schema := fun o => if o ∈ objects then some 0 else none

/-- What `init_db.sql` and `init_device_db.sql` create, of what a migration uses or defines. -/
def initObjects : List Object :=
  [.table .users, .table .servers, .table .statistic, .table .devices, .table .deviceSessions,
    .table .portAllocations, .column .users .autoConnectEnabled,
    .column .servers .totalBytesReceived, .column .servers .totalBytesSent,
    .column .devices .preferredPort, .column .devices .totalBytesReceived,
    .column .devices .totalBytesSent, .column .devices .enableInputSsl,
    .column .devices .enableTunnelSsl, .constraint .servers .serversInputPortRange,
    .constraint .servers .serversOutputPortRange, .constraint .devices .validInternalPort,
    .constraint .devices .validPreferredPort, .constraint .portAllocations .validAllocation,
    .index .devicesPreferredPort, .function .freeDevicePort, .function .freeDevicePortPair,
    .function .cleanupDeviceSessions, .function .cleanupExpiredSessions]

def fresh : State := ⟨⟨schema initObjects, none⟩, .idle⟩

def deployed : State :=
  ⟨⟨fun o => if o = .function .freeDevicePortPair then some 1
      else schema (initObjects ++ versions.flatMap defines) o, none⟩, .idle⟩

theorem schema_texts {objects : List Object} : ∀ o text, schema objects o = some text →
    text ∈ texts o := by
  intro o text found
  simp only [schema] at found
  split at found
  · cases found
    unfold texts
    split <;> decide
  · cases found

theorem fresh_initial : system.initial fresh := ⟨rfl, rfl, schema_texts⟩

theorem deployed_initial : system.initial deployed := by
  refine ⟨rfl, rfl, ?_⟩
  intro o text found
  by_cases pair : o = .function .freeDevicePortPair
  · subst pair
    simp only [deployed, if_true] at found
    cases found
    decide
  · simp only [deployed, if_neg pair] at found
    exact schema_texts o text found

def baselinedRun : List Action :=
  [Action.launch, .baseline 11] ++ List.replicate 8 Action.next ++ [Action.statement, .record] ++
    List.replicate 5 Action.next

theorem deployed_sound : ∃ log s, system.Run log s ∧ s.phase = .done ∧
    s.db.recorded = [1, 2, 3, 4, 5, 6, 7, 9, 10, 11, 12, 8] ∧ Sound s.db := by
  obtain ⟨log, s, run, found⟩ := (System.Run.start deployed_initial).follow_any baselinedRun
    (fun r => decide ((r.2.phase = .done ∧
      r.2.db.recorded = [1, 2, 3, 4, 5, 6, 7, 9, 10, 11, 12, 8]) ∧
      ∀ e ∈ r.1, Careful e.1 e.2)) (by decide +kernel)
  obtain ⟨⟨done, recorded⟩, careful⟩ := of_decide_eq_true found
  exact ⟨log, s, run, done, recorded, (recorded_effects_iff run done).2 careful⟩

/-- A new installation: 004 and 005 are recorded, and neither the table of the samples nor the
function that pins a pair exists. -/
theorem fresh_unsound : ∃ log s, system.Run log s ∧ s.phase = .done ∧
    4 ∈ s.db.recorded ∧ s.db.objects (.table .deviceTrafficSamples) = none ∧
    5 ∈ s.db.recorded ∧ s.db.objects (.function .reserveDevicePortPair) = none ∧
    ¬ Sound s.db := by
  obtain ⟨log, s, run, found⟩ := (System.Run.start fresh_initial).follow_any baselinedRun
    (fun r => decide (r.2.phase = .done ∧ 4 ∈ r.2.db.recorded ∧
      r.2.db.objects (.table .deviceTrafficSamples) = none ∧ 5 ∈ r.2.db.recorded ∧
      r.2.db.objects (.function .reserveDevicePortPair) = none ∧ ¬ Sound r.2.db))
    (by decide +kernel)
  exact ⟨log, s, run, of_decide_eq_true found⟩

end Migrations
