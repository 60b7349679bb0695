import Iems.Carbon.PeriodCounts
import Mathlib.Data.List.Find

/-!
A scheduler cycle over one session. After a failed statement or flush the session refuses all further work
until it is rolled back.
-/
namespace Iems.Carbon
open Lib Iems.Core

/-- The database work of one generation, in order. -/
inductive Statement where
  | plantId | aggregate | schema (i : Fin 11) | schemaCommit | plantIdAgain | existing | commit | refresh
  deriving DecidableEq

inductive GenerateError where
  | raised (e : CarbonError)
  | database
  | pendingRollback

structure ReportSession where
  db : CarbonDb
  refuses : Bool := false

def ReportSession.rollback (s : ReportSession) : ReportSession := { s with refuses := false }

/-- One request for a report, and the statements that the database fails in it. -/
structure Attempt where
  body : GenerateRequest
  faults : Statement → Bool

def execute (faults : Statement → Bool) (s : ReportSession) (stmt : Statement) :
    Except GenerateError Unit × ReportSession :=
  if s.refuses then (.error .pendingRollback, s)
  else if faults stmt then (.error .database, { s with refuses := true })
  else (.ok (), s)

def executeAll (faults : Statement → Bool) (s : ReportSession) :
    List Statement → Except GenerateError Unit × ReportSession
  | [] => (.ok (), s)
  | stmt :: rest =>
    match execute faults s stmt with
    | (.error e, s) => (.error e, s)
    | (.ok (), s) => executeAll faults s rest

def schemaStatements : List Statement := (List.finRange 11).map .schema

/-- A failed `ALTER TABLE` is rolled back and the rest left out; the commit has no handler. -/
def ensureE10Schema (faults : Statement → Bool) (s : ReportSession) : Except GenerateError Unit × ReportSession :=
  match executeAll faults s schemaStatements with
  | (.error _, s) => (.ok (), s.rollback)
  | (.ok (), s) => execute faults s .schemaCommit

def isLocked (existing : Option (Nat × CarbonReport)) : Bool := existing.any fun row => row.2.status = .locked

def generated (ctx : GenerateContext) (body : GenerateRequest) (p : Prepared) (id : Nat) (db : CarbonDb) :
    GeneratedReport where
  reportId := id
  report := db.reports.find? id
  breakdown := p.breakdown
  plantCode := body.plantCode
  aggregates := p.aggregates
  factorsVersion := (factorsFor ctx.factors ctx.cfg body.plantCode).version

/-- From the schema update on. A locked report is returned before anything is flushed. -/
def persistPrepared (ctx : GenerateContext) (a : Attempt) (p : Prepared) (s : ReportSession) :
    Except GenerateError (Option GeneratedReport) × ReportSession :=
  match ensureE10Schema a.faults s with
  | (.error e, s) => (.error e, s)
  | (.ok (), s) =>
    match executeAll a.faults s [.plantIdAgain, .existing] with
    | (.error e, s) => (.error e, s)
    | (.ok (), s) =>
      match generateCommit a.body p s.db with
      | (.error e, _) => (.error (.raised e), { s with refuses := true })
      | (.ok id, committed) =>
        if isLocked p.existing then (.ok (some (generated ctx a.body p id committed)), s)
        else
          match execute a.faults s .commit with
          | (.error e, s) => (.error e, s)
          | (.ok (), s) =>
            match execute a.faults { s with db := committed } .refresh with
            | (.error e, s) => (.error e, s)
            | (.ok (), s) => (.ok (some (generated ctx a.body p id s.db)), s)

/-- `generate_and_persist_report` over a session that other generations used before. -/
def generateOn (ctx : GenerateContext) (a : Attempt) (s : ReportSession) :
    Except GenerateError (Option GeneratedReport) × ReportSession :=
  match a.body.window with
  | none => (.error (.raised .dateRange), s)
  | some _ =>
    match execute a.faults s .plantId with
    | (.error e, s) => (.error e, s)
    | (.ok (), s) =>
      match s.db.plants.get? a.body.plantCode with
      | none => (.error (.raised (.valueError ("Unknown plant_code: " ++ a.body.plantCode))), s)
      | some _ =>
        match execute a.faults s .aggregate with
        | (.error e, s) => (.error e, s)
        | (.ok (), s) =>
          match prepareReport ctx a.body s.db with
          | .error e => (.error (.raised e), s)
          | .ok none => (.ok none, s)
          | .ok (some p) => persistPrepared ctx a p s

structure CycleCounts where
  daily : Nat := 0
  monthly : Nat := 0
  yearly : Nat := 0
  errors : Nat := 0

def CycleCounts.count (counts : CycleCounts) : PeriodType → CycleCounts
  | .daily => { counts with daily := counts.daily + 1 }
  | .monthly => { counts with monthly := counts.monthly + 1 }
  | .yearly => { counts with yearly := counts.yearly + 1 }

def CycleCounts.tally (counts : CycleCounts) (periodType : PeriodType) :
    Except GenerateError (Option GeneratedReport) → CycleCounts
  | .error _ => { counts with errors := counts.errors + 1 }
  | .ok none => counts
  | .ok (some _) => counts.count periodType

/-- The loop of the cycle: an error is counted and logged, and the session is used on. -/
def runAttempts (ctx : GenerateContext) : List Attempt → ReportSession →
    List (Except GenerateError (Option GeneratedReport)) × ReportSession
  | [], s => ([], s)
  | a :: rest, s =>
    let (outcome, s) := generateOn ctx a s
    let (outcomes, s) := runAttempts ctx rest s
    (outcome :: outcomes, s)

/-- The counts that `run_once` returns. -/
def cycleCounts (ctx : GenerateContext) (attempts : List Attempt) (s : ReportSession) : CycleCounts :=
  (attempts.zip (runAttempts ctx attempts s).1).foldl
    (fun counts slot => counts.tally slot.1.body.periodType slot.2) {}

/-- The attempts of one cycle; each reads the clock anew. -/
def cycleAttempts (cfg : Settings) (clock : ℕ → Datetime) (faults : ℕ → Statement → Bool) : List Attempt :=
  (schedule cfg).zipIdx.map fun slot =>
    ⟨scheduledBody cfg slot.1.1 slot.1.2 (clock slot.2), faults slot.2⟩

/-! ### One generation -/

def hasData (ctx : GenerateContext) (body : GenerateRequest) (db : CarbonDb) : Bool :=
  match prepareReport ctx body db with
  | .ok (some _) => true
  | _ => false

def persistStatements (faults : Statement → Bool) (p : Prepared) : List Statement :=
  (if schemaStatements.any faults then [] else [.schemaCommit]) ++ [.plantIdAgain, .existing] ++
    if isLocked p.existing then [] else [.commit, .refresh]

/-- The statements whose failure the generation does not survive, as far as its data takes it. -/
def reachedStatements (ctx : GenerateContext) (a : Attempt) (db : CarbonDb) : List Statement :=
  match a.body.window with
  | none => []
  | some _ =>
    match db.plants.get? a.body.plantCode with
    | none => [.plantId]
    | some _ =>
      match prepareReport ctx a.body db with
      | .ok (some p) => [.plantId, .aggregate] ++ persistStatements a.faults p
      | _ => [.plantId, .aggregate]

/-- The database fails a statement of the generation itself. -/
def failsOn (ctx : GenerateContext) (a : Attempt) (db : CarbonDb) : Bool :=
  (reachedStatements ctx a db).any a.faults

theorem execute_refused {faults : Statement → Bool} {s : ReportSession} (refused : s.refuses = true) (stmt : Statement) :
    execute faults s stmt = (.error .pendingRollback, s) := by
  unfold execute
  rw [refused]
  rfl

section
variable {faults : Statement → Bool} (db : CarbonDb)

theorem execute_failed {stmt : Statement} (failed : faults stmt = true) :
    execute faults ⟨db, false⟩ stmt = (.error .database, ⟨db, true⟩) := by
  unfold execute
  rw [failed]
  rfl

theorem execute_passed {stmt : Statement} (passed : faults stmt = false) :
    execute faults ⟨db, false⟩ stmt = (.ok (), ⟨db, false⟩) := by
  unfold execute
  rw [passed]
  rfl

theorem executeAll_failed {stmts : List Statement} (failed : stmts.any faults = true) :
    executeAll faults ⟨db, false⟩ stmts = (.error .database, ⟨db, true⟩) := by
  induction stmts with
  | nil => exact nomatch failed
  | cons stmt rest ih =>
    unfold executeAll
    rw [List.any_cons] at failed
    cases first : faults stmt with
    | true => rw [execute_failed db first]
    | false =>
      rw [execute_passed db first]
      rw [first, Bool.false_or] at failed
      exact ih failed

theorem executeAll_passed {stmts : List Statement} (passed : stmts.any faults = false) :
    executeAll faults ⟨db, false⟩ stmts = (.ok (), ⟨db, false⟩) := by
  induction stmts with
  | nil => rfl
  | cons stmt rest ih =>
    unfold executeAll
    rw [List.any_cons, Bool.or_eq_false_iff] at passed
    rw [execute_passed db passed.1]
    exact ih passed.2

/-- A schema statement that fails leaves the session as it was. -/
theorem ensureE10Schema_open :
    ensureE10Schema faults ⟨db, false⟩ =
      executeAll faults ⟨db, false⟩ (if schemaStatements.any faults then [] else [.schemaCommit]) := by
  unfold ensureE10Schema
  cases altered : schemaStatements.any faults with
  | true =>
    rw [executeAll_failed db altered]
    rfl
  | false =>
    rw [executeAll_passed db altered]
    show execute faults ⟨db, false⟩ .schemaCommit = executeAll faults ⟨db, false⟩ [.schemaCommit]
    unfold executeAll
    cases committed : faults .schemaCommit with
    | true => rw [execute_failed db committed]
    | false =>
      rw [execute_passed db committed]
      rfl

end

theorem generateOn_refused (ctx : GenerateContext) (a : Attempt) {s : ReportSession} (refused : s.refuses = true) :
    ∃ e, generateOn ctx a s = (.error e, s) := by
  unfold generateOn
  cases a.body.window with
  | none => exact ⟨_, rfl⟩
  | some window =>
    dsimp only
    rw [execute_refused refused]
    exact ⟨_, rfl⟩

/-- The commit of a prepared report meets no other report under its key. -/
theorem generateCommit_ok {ctx : GenerateContext} {body : GenerateRequest} {db : CarbonDb} {p : Prepared}
    (prepared : prepareReport ctx body db = .ok (some p)) :
    ∃ id committed, generateCommit body p db = (.ok id, committed) ∧ (isLocked p.existing = true → committed = db) := by
  obtain ⟨_, _, lookup⟩ := prepareReport_ok prepared
  unfold generateCommit
  cases existing : p.existing with
  | none =>
    rw [existing] at lookup
    rw [← lookup]
    exact ⟨_, _, rfl, nofun⟩
  | some row =>
    dsimp only
    split
    · exact ⟨_, _, rfl, fun _ => rfl⟩
    · rename_i unlocked
      refine ⟨_, _, rfl, fun locked => absurd ?_ unlocked⟩
      simpa [isLocked] using locked

theorem persistPrepared_open (ctx : GenerateContext) (a : Attempt) {db committed : CarbonDb} {p : Prepared} {id : Nat}
    (commit : generateCommit a.body p db = (.ok id, committed)) (kept : isLocked p.existing = true → committed = db) :
    ((persistStatements a.faults p).any a.faults = true → ∃ later, (later = db ∨ later = committed) ∧
      persistPrepared ctx a p ⟨db, false⟩ = (.error .database, ⟨later, true⟩)) ∧
    ((persistStatements a.faults p).any a.faults = false →
      persistPrepared ctx a p ⟨db, false⟩ = (.ok (some (generated ctx a.body p id committed)), ⟨committed, false⟩)) := by
  unfold persistPrepared persistStatements
  rw [ensureE10Schema_open, List.any_append, List.any_append]
  cases schema : (if schemaStatements.any a.faults then [] else [Statement.schemaCommit]).any a.faults with
  | true =>
    rw [executeAll_failed db schema]
    exact ⟨fun _ => ⟨db, .inl rfl, rfl⟩, nofun⟩
  | false =>
    rw [executeAll_passed db schema]
    dsimp only
    cases reads : ([.plantIdAgain, .existing] : List Statement).any a.faults with
    | true =>
      rw [executeAll_failed db reads]
      exact ⟨fun _ => ⟨db, .inl rfl, rfl⟩, nofun⟩
    | false =>
      rw [executeAll_passed db reads]
      dsimp only
      rw [commit]
      dsimp only
      cases locked : isLocked p.existing with
      | true =>
        rw [kept locked]
        exact ⟨nofun, fun _ => rfl⟩
      | false =>
        cases flushed : a.faults .commit with
        | true =>
          rw [execute_failed db flushed]
          exact ⟨fun _ => ⟨db, .inl rfl, rfl⟩, fun passed => by simp [flushed] at passed⟩
        | false =>
          rw [execute_passed db flushed]
          dsimp only
          cases refreshed : a.faults .refresh with
          | true =>
            rw [execute_failed committed refreshed]
            exact ⟨fun _ => ⟨committed, .inr rfl, rfl⟩, fun passed => by simp [refreshed] at passed⟩
          | false =>
            rw [execute_passed committed refreshed]
            exact ⟨fun failed => by simp [flushed, refreshed] at failed, fun _ => rfl⟩

/-- The first two reads of a generation whose period and plant exist. -/
theorem generateOn_reads (ctx : GenerateContext) (a : Attempt) {db : CarbonDb} {window : PeriodWindow} {plantId : Nat}
    (bounds : a.body.window = some window) (known : db.plants.get? a.body.plantCode = some plantId) :
    generateOn ctx a ⟨db, false⟩ =
      match executeAll a.faults ⟨db, false⟩ [.plantId, .aggregate] with
      | (.error e, s) => (.error e, s)
      | (.ok (), s) =>
        match prepareReport ctx a.body s.db with
        | .error e => (.error (.raised e), s)
        | .ok none => (.ok none, s)
        | .ok (some p) => persistPrepared ctx a p s := by
  unfold generateOn
  rw [bounds]
  dsimp only
  unfold executeAll
  cases read : a.faults .plantId with
  | true => rw [execute_failed db read]
  | false =>
    rw [execute_passed db read]
    dsimp only
    rw [known]
    dsimp only
    unfold executeAll
    cases summed : a.faults .aggregate with
    | true => rw [execute_failed db summed]
    | false =>
      rw [execute_passed db summed]
      rfl

/-- On a session that takes work, a generation fails as a whole or is the generation on the database alone. -/
theorem generateOn_open (ctx : GenerateContext) (a : Attempt) (db : CarbonDb) :
    (failsOn ctx a db = true → ∃ later, (later = db ∨ later = (generateAndPersistReport ctx a.body db).2) ∧
      generateOn ctx a ⟨db, false⟩ = (.error .database, ⟨later, true⟩)) ∧
    (failsOn ctx a db = false → generateOn ctx a ⟨db, false⟩ =
      ((generateAndPersistReport ctx a.body db).1.mapError .raised, ⟨(generateAndPersistReport ctx a.body db).2, false⟩)) := by
  unfold failsOn reachedStatements generateAndPersistReport
  cases bounds : a.body.window with
  | none =>
    have raised : prepareReport ctx a.body db = .error .dateRange := by
      unfold prepareReport
      rw [bounds]
    unfold generateOn
    rw [bounds, raised]
    exact ⟨nofun, fun _ => rfl⟩
  | some window =>
    dsimp only
    cases known : db.plants.get? a.body.plantCode with
    | none =>
      have raised : prepareReport ctx a.body db = .error (.valueError ("Unknown plant_code: " ++ a.body.plantCode)) := by
        unfold prepareReport
        rw [bounds, known]
      unfold generateOn
      rw [bounds, raised]
      dsimp only
      cases read : a.faults .plantId with
      | true =>
        rw [execute_failed db read]
        exact ⟨fun _ => ⟨db, .inl rfl, rfl⟩, fun passed => by simp [read] at passed⟩
      | false =>
        rw [execute_passed db read]
        dsimp only
        rw [known]
        exact ⟨fun failed => by simp [read] at failed, fun _ => rfl⟩
    | some plantId =>
      rw [generateOn_reads ctx a bounds known]
      dsimp only
      cases reads : ([.plantId, .aggregate] : List Statement).any a.faults with
      | true =>
        rw [executeAll_failed db reads]
        refine ⟨fun _ => ⟨db, .inl rfl, rfl⟩, fun passed => ?_⟩
        split at passed
        · rw [List.any_append, reads] at passed
          exact nomatch passed
        · exact nomatch reads.symm.trans passed
      | false =>
        rw [executeAll_passed db reads]
        dsimp only
        cases prepared : prepareReport ctx a.body db with
        | error e => exact ⟨fun failed => absurd (reads.symm.trans failed) nofun, fun _ => rfl⟩
        | ok found =>
          cases found with
          | none => exact ⟨fun failed => absurd (reads.symm.trans failed) nofun, fun _ => rfl⟩
          | some p =>
            obtain ⟨id, committed, commit, kept⟩ := generateCommit_ok prepared
            dsimp only
            rw [commit, List.any_append, reads, Bool.false_or]
            exact persistPrepared_open ctx a commit kept

/-! ### What the earlier generations of a cycle change for the later ones -/

/-- The readings and plants stay, no report is locked or opened, and a stored report keeps its key. -/
structure Steady (db next : CarbonDb) : Prop where
  plants : next.plants = db.plants
  readings : next.readings = db.readings
  locked : ∀ key, isLocked (findReport next key) = isLocked (findReport db key)
  kept : ∀ id report, db.reports.find? id = some report →
    ∃ later, next.reports.find? id = some later ∧ later.key = report.key

theorem Steady.refl (db : CarbonDb) : Steady db db :=
  ⟨rfl, rfl, fun _ => rfl, fun _ report found => ⟨report, found, rfl⟩⟩

theorem Steady.trans {db next last : CarbonDb} (first : Steady db next) (second : Steady next last) :
    Steady db last := by
  refine ⟨second.plants.trans first.plants, second.readings.trans first.readings,
    fun key => (second.locked key).trans (first.locked key), ?_⟩
  intro id report found
  obtain ⟨later, present, key⟩ := first.kept id report found
  obtain ⟨final, stored, same⟩ := second.kept id later present
  exact ⟨final, stored, same.trans key⟩

theorem isLocked_insert {db : CarbonDb} {report : CarbonReport} (open_ : report.status ≠ .locked)
    (key : Nat × Datetime × PeriodType) :
    isLocked (findReport { db with reports := db.reports.insert report } key) = isLocked (findReport db key) := by
  have rows : findReport { db with reports := db.reports.insert report } key =
      (findReport db key).or (([(db.reports.nextId, report)] : List (Nat × CarbonReport)).find? fun row => row.2.key = key) :=
    List.find?_append
  rw [rows]
  cases findReport db key with
  | some row => rfl
  | none =>
    rw [Option.none_or, List.find?_singleton]
    split
    · simpa [isLocked] using open_
    · rfl

theorem isLocked_regenerated {db : CarbonDb} {id : Nat} {report edited : CarbonReport}
    (found : db.reports.find? id = some report) (sameKey : edited.key = report.key) (sameStatus : edited.status = report.status)
    (key : Nat × Datetime × PeriodType) :
    isLocked (findReport (saveReport db id report edited) key) = isLocked (findReport db key) := by
  -- each row keeps its key and status: the edited one by assumption, the others unchanged
  have each : ∀ row ∈ db.reports.rows, ∀ kept, kept = (if row.1 = id then (row.1, flush report edited row.2) else row) →
      kept.2.key = row.2.key ∧ kept.2.status = row.2.status := by
    rintro ⟨other, current⟩ member kept rfl
    split
    · rename_i here
      dsimp only at here
      rw [here] at member
      cases (Table.mem_rows.mp member).symm.trans found
      rw [flush_current]
      exact ⟨sameKey, sameStatus⟩
    · exact ⟨rfl, rfl⟩
  have rows : findReport (saveReport db id report edited) key = (findReport db key).map fun row =>
      if row.1 = id then (row.1, flush report edited row.2) else row := by
    unfold findReport saveReport Table.update
    rw [List.find?_map]
    congr 1
    apply List.find?_congr
    intro row member
    simp only [Function.comp, (each row member _ rfl).1]
  rw [rows]
  unfold findReport
  cases here : db.reports.rows.find? fun row => decide (row.2.key = key) with
  | none => rfl
  | some row =>
    have status := (each row (List.mem_of_find?_eq_some here) _ rfl).2
    simp only [isLocked, Option.map_some, Option.any_some, status]

theorem generate_steady (ctx : GenerateContext) (body : GenerateRequest) (db : CarbonDb) :
    Steady db (generateAndPersistReport ctx body db).2 := by
  have readings : (generateAndPersistReport ctx body db).2.readings = db.readings :=
    @exec_keeps_readings (.generate ctx body) (fun _ => nofun) db
  have change := generateAndPersistReport_step ctx body db
  generalize (generateAndPersistReport ctx body db).2 = next at readings change
  cases change with
  | quiet _ _ plants reports =>
    refine ⟨plants, readings, fun key => ?_, fun id report found => ⟨report, by rw [reports, found], rfl⟩⟩
    unfold findReport
    rw [reports]
  | created _ _ p =>
    refine ⟨rfl, rfl, isLocked_insert nofun, fun id report found => ⟨report, ?_, rfl⟩⟩
    show (db.reports.insert (newReport body p)).find? id = some report
    rw [Table.find?_insert, if_neg (Nat.ne_of_lt (Table.find?_lt found)), found]
  | regenerated _ _ p id report prepared existing unlocked =>
    obtain ⟨found, _⟩ := prepareReport_existing prepared existing
    refine ⟨rfl, rfl, isLocked_regenerated found rfl rfl, fun other row present => ?_⟩
    rw [find?_saveReport_loaded found]
    split
    · rename_i here
      rw [here] at present
      cases present.symm.trans found
      exact ⟨_, rfl, rfl⟩
    · exact ⟨row, present, rfl⟩
  | moved _ t request report transition => exact nomatch transition

theorem prepareReport_steady {db next : CarbonDb} (steady : Steady db next) (ctx : GenerateContext) (body : GenerateRequest) :
    prepareReport ctx body next = (prepareReport ctx body db).map (Option.map fun p =>
      { p with existing := findReport next (p.plantId, p.window.start, body.periodType) }) := by
  unfold prepareReport
  rw [steady.plants, steady.readings]
  cases body.window with
  | none => rfl
  | some window =>
    dsimp only
    cases db.plants.get? body.plantCode with
    | none => rfl
    | some plantId =>
      dsimp only
      cases aggregateSensorPeriod db.plants db.readings body.plantCode window.start.instant window.end_.instant with
      | error e => rfl
      | ok totals => cases totals <;> rfl

theorem hasData_steady {db next : CarbonDb} (steady : Steady db next) (ctx : GenerateContext) (body : GenerateRequest) :
    hasData ctx body next = hasData ctx body db := by
  unfold hasData
  rw [prepareReport_steady steady]
  cases prepareReport ctx body db with
  | error e => rfl
  | ok found => cases found <;> rfl

theorem failsOn_steady {db next : CarbonDb} (steady : Steady db next) (ctx : GenerateContext) (a : Attempt) :
    failsOn ctx a next = failsOn ctx a db := by
  unfold failsOn reachedStatements
  rw [prepareReport_steady steady, steady.plants]
  cases prepared : prepareReport ctx a.body db with
  | error e => rfl
  | ok found =>
    cases found with
    | none => rfl
    | some p =>
      obtain ⟨_, _, lookup⟩ := prepareReport_ok prepared
      have locked := steady.locked (p.plantId, p.window.start, a.body.periodType)
      rw [← lookup] at locked
      dsimp only [Except.map, Option.map_some]
      unfold persistStatements
      rw [locked]

/-! ### The cycle -/

/-- The report was generated, and it is stored in the end. -/
def Persisted (a : Attempt) (last : CarbonDb) (outcome : Except GenerateError (Option GeneratedReport)) : Prop :=
  ∃ done report plantId window, outcome = .ok (some done) ∧ last.reports.find? done.reportId = some report ∧
    last.plants.get? a.body.plantCode = some plantId ∧ a.body.window = some window ∧
    report.key = (plantId, window.start, a.body.periodType)

/-- Every attempt that has data and whose own statements pass gets its report. -/
def SparesOthers (ctx : GenerateContext) (attempts : List Attempt) (db : CarbonDb) : Prop :=
  let done := runAttempts ctx attempts ⟨db, false⟩
  List.Forall₂ (fun a outcome => hasData ctx a.body db = true → failsOn ctx a db = false →
    Persisted a done.2.db outcome) attempts done.1

theorem generateOn_steady (ctx : GenerateContext) (a : Attempt) (s : ReportSession) :
    Steady s.db (generateOn ctx a s).2.db := by
  obtain ⟨db, refuses⟩ := s
  cases refuses with
  | true =>
    obtain ⟨e, refused⟩ := @generateOn_refused ctx a ⟨db, true⟩ rfl
    rw [refused]
    exact .refl db
  | false =>
    obtain ⟨failed, passed⟩ := generateOn_open ctx a db
    cases fails : failsOn ctx a db with
    | true =>
      obtain ⟨later, reached, outcome⟩ := failed fails
      rw [outcome]
      rcases reached with rfl | rfl
      · exact .refl _
      · exact generate_steady ctx a.body db
    | false =>
      rw [passed fails]
      exact generate_steady ctx a.body db

theorem runAttempts_steady (ctx : GenerateContext) (attempts : List Attempt) (s : ReportSession) :
    Steady s.db (runAttempts ctx attempts s).2.db := by
  induction attempts generalizing s with
  | nil => exact .refl s.db
  | cons a rest ih => exact (generateOn_steady ctx a s).trans (ih _)

/-- Once the session refuses work, every later attempt of the cycle fails. -/
theorem runAttempts_refused (ctx : GenerateContext) (attempts : List Attempt) {s : ReportSession}
    (refused : s.refuses = true) :
    List.Forall₂ (fun _ outcome => ∃ e, outcome = .error e) attempts (runAttempts ctx attempts s).1 := by
  induction attempts generalizing s with
  | nil => exact .nil
  | cons a rest ih =>
    obtain ⟨e, outcome⟩ := generateOn_refused ctx a refused
    unfold runAttempts
    rw [outcome]
    exact .cons ⟨e, rfl⟩ (ih refused)

theorem foldl_tally_errors {slots : List (Attempt × Except GenerateError (Option GeneratedReport))}
    (failed : ∀ slot ∈ slots, ∃ e, slot.2 = .error e) (counts : CycleCounts) :
    slots.foldl (fun counts slot => counts.tally slot.1.body.periodType slot.2) counts =
      { counts with errors := counts.errors + slots.length } := by
  induction slots generalizing counts with
  | nil => rfl
  | cons slot rest ih =>
    obtain ⟨e, outcome⟩ := failed slot List.mem_cons_self
    rw [List.foldl_cons, ih fun other among => failed other (List.mem_cons_of_mem _ among), outcome, List.length_cons]
    simp only [CycleCounts.tally, CycleCounts.mk.injEq, true_and]
    omega

/-- A cycle on a session that refuses work counts nothing but errors. -/
theorem cycleCounts_refused (ctx : GenerateContext) (attempts : List Attempt) {s : ReportSession}
    (refused : s.refuses = true) : cycleCounts ctx attempts s = { errors := attempts.length } := by
  have failed := runAttempts_refused ctx attempts refused
  have errors : ∀ slot ∈ attempts.zip (runAttempts ctx attempts s).1, ∃ e, slot.2 = .error e :=
    fun slot member => List.forall₂_zip failed member
  unfold cycleCounts
  rw [foldl_tally_errors errors, List.length_zip, ← failed.length_eq, Nat.min_self, Nat.zero_add]

theorem generate_persists {ctx : GenerateContext} {a : Attempt} {db last : CarbonDb} (data : hasData ctx a.body db = true)
    (steady : Steady (generateAndPersistReport ctx a.body db).2 last) :
    Persisted a last ((generateAndPersistReport ctx a.body db).1.mapError .raised) := by
  have known := (generate_steady ctx a.body db).trans steady
  unfold hasData at data
  split at data
  · rename_i p prepared
    obtain ⟨bounds, plant, lookup⟩ := prepareReport_ok prepared
    rw [← known.plants] at plant
    have stored : ∃ id committed report, generateCommit a.body p db = (.ok id, committed) ∧
        committed.reports.find? id = some report ∧ report.key = (p.plantId, p.window.start, a.body.periodType) := by
      unfold generateCommit
      cases existing : p.existing with
      | none =>
        rw [existing] at lookup
        rw [← lookup]
        exact ⟨_, _, newReport a.body p, rfl, by rw [Table.find?_insert, if_pos rfl], rfl⟩
      | some row =>
        obtain ⟨id, report⟩ := row
        obtain ⟨found, key⟩ := prepareReport_existing prepared existing
        dsimp only
        split
        · exact ⟨_, _, report, rfl, found, key⟩
        · exact ⟨_, _, regenerateEdit p.figures report, rfl, by rw [find?_saveReport_loaded found, if_pos rfl], key⟩
    obtain ⟨id, committed, report, commit, found, key⟩ := stored
    unfold generateAndPersistReport at steady ⊢
    rw [prepared] at steady ⊢
    dsimp only at steady ⊢
    rw [commit] at steady ⊢
    obtain ⟨later, present, same⟩ := steady.kept id report found
    exact ⟨_, later, p.plantId, p.window, rfl, present, plant, bounds, same.trans key⟩
  · exact nomatch data

/-- Behind a failed attempt no report is generated. -/
theorem sparesOthers_failed {ctx : GenerateContext} {a : Attempt} {db : CarbonDb} (rest : List Attempt)
    (fails : failsOn ctx a db = true) : SparesOthers ctx (a :: rest) db ↔
      ∀ b ∈ rest, hasData ctx b.body db = true → failsOn ctx b db = true := by
  obtain ⟨later, _, outcome⟩ := (generateOn_open ctx a db).1 fails
  unfold SparesOthers runAttempts
  rw [outcome]
  dsimp only
  rw [List.forall₂_cons]
  have none_ : ∀ {last : CarbonDb} {attempts : List Attempt} {outcomes : List (Except GenerateError (Option GeneratedReport))},
      List.Forall₂ (fun _ outcome => ∃ e, outcome = .error e) attempts outcomes →
      (List.Forall₂ (fun b outcome => hasData ctx b.body db = true → failsOn ctx b db = false → Persisted b last outcome)
        attempts outcomes ↔ ∀ b ∈ attempts, hasData ctx b.body db = true → failsOn ctx b db = true) := by
    intro last attempts outcomes errors
    induction errors with
    | nil => simp
    | cons error _ ih =>
      obtain ⟨e, rfl⟩ := error
      rw [List.forall₂_cons, List.forall_mem_cons, ih]
      refine and_congr_left fun _ => forall_congr' fun _ => ?_
      constructor
      · intro spared
        rw [← Bool.not_eq_false]
        intro passed
        obtain ⟨_, _, _, _, same, _⟩ := spared passed
        exact nomatch same
      · intro failed passed
        exact absurd (failed.symm.trans passed) nofun
  rw [none_ (runAttempts_refused ctx rest rfl)]
  exact and_iff_right fun _ passed => absurd (fails.symm.trans passed) nofun

theorem sparesOthers_passed {ctx : GenerateContext} {a : Attempt} {db : CarbonDb} (rest : List Attempt)
    (passes : failsOn ctx a db = false) : SparesOthers ctx (a :: rest) db ↔
      SparesOthers ctx rest (generateAndPersistReport ctx a.body db).2 := by
  have outcome := (generateOn_open ctx a db).2 passes
  have steady := generate_steady ctx a.body db
  have later := runAttempts_steady ctx rest ⟨(generateAndPersistReport ctx a.body db).2, false⟩
  unfold SparesOthers
  rw [runAttempts, outcome]
  dsimp only
  rw [List.forall₂_cons]
  simp only [hasData_steady steady, failsOn_steady steady]
  exact and_iff_right fun data _ => generate_persists data later

/-- The others are spared exactly where no attempt fails before one that has data and would pass. -/
theorem sparesOthers_iff (ctx : GenerateContext) (attempts : List Attempt) (db : CarbonDb) :
    SparesOthers ctx attempts db ↔ attempts.Pairwise fun a b =>
      failsOn ctx a db = true → hasData ctx b.body db = true → failsOn ctx b db = true := by
  induction attempts generalizing db with
  | nil => exact ⟨fun _ => .nil, fun _ => .nil⟩
  | cons a rest ih =>
    rw [List.pairwise_cons]
    cases fails : failsOn ctx a db with
    | true =>
      rw [sparesOthers_failed rest fails]
      constructor
      · intro all
        refine ⟨fun b member _ => all b member, List.pairwise_iff_getElem.mpr ?_⟩
        intro i j _ bound _ _
        exact all _ (List.getElem_mem bound)
      · rintro ⟨first, _⟩ b member
        exact first b member rfl
    | false =>
      have steady := generate_steady ctx a.body db
      rw [sparesOthers_passed rest fails, ih]
      simp only [hasData_steady steady, failsOn_steady steady]
      exact (and_iff_right fun _ _ failed => nomatch failed).symm

/-- Without failures the shared session is not seen: the attempts are the requests one after another. -/
theorem runAttempts_quiet (ctx : GenerateContext) (attempts : List Attempt) (db : CarbonDb)
    (quiet : ∀ a ∈ attempts, failsOn ctx a db = false) :
    (runAttempts ctx attempts ⟨db, false⟩).2 =
      ⟨run exec db (attempts.map fun a => .generate ctx a.body), false⟩ := by
  induction attempts generalizing db with
  | nil => rfl
  | cons a rest ih =>
    have steady := generate_steady ctx a.body db
    have passes := quiet a List.mem_cons_self
    rw [runAttempts, (generateOn_open ctx a db).2 passes]
    refine ih _ fun b member => ?_
    rw [failsOn_steady steady]
    exact quiet b (List.mem_cons_of_mem _ member)

theorem cycle_spares_iff (ctx : GenerateContext) (clock : ℕ → Datetime) (faults : ℕ → Statement → Bool) (db : CarbonDb) :
    SparesOthers ctx (cycleAttempts ctx.cfg clock faults) db ↔
      (cycleAttempts ctx.cfg clock faults).Pairwise fun a b =>
        failsOn ctx a db = true → hasData ctx b.body db = true → failsOn ctx b db = true :=
  sparesOthers_iff ctx _ db

/-- The aggregate query of the first report times out. -/
def firstTimesOut (i : ℕ) (stmt : Statement) : Bool := i = 0 && stmt = .aggregate

def oneSample : CarbonDb := .start olefinPlants [olefinSample sampleDay.instant 10]

theorem first_failure_stops_cycle : ¬ ∀ (ctx : GenerateContext) (clock : ℕ → Datetime)
    (faults : ℕ → Statement → Bool) (db : CarbonDb), SparesOthers ctx (cycleAttempts ctx.cfg clock faults) db := by
  intro always
  have spared := (sparesOthers_iff _ _ _).mp (always sampleFactors (fun _ => sampleDay) firstTimesOut oneSample)
  have second := List.pairwise_iff_getElem.mp spared 0 1 (by decide +kernel) (by decide +kernel) Nat.zero_lt_one
    (by decide +kernel) (by decide +kernel)
  exact absurd second (by decide +kernel)

end Iems.Carbon
