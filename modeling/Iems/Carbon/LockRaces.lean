import Iems.Carbon.AssuranceTrail

/-! Generations that run while a report is being locked: which runs keep its figures once locked. -/
namespace Iems.Carbon
open Lib Lib.Sessions

inductive ReportRequest where
  | readings (stored : List SensorReading)
  | generate (ctx : GenerateContext) (body : GenerateRequest)
  | lock (body : AssuranceRequest)

inductive Loaded where
  | sensors
  | prepared (p : Prepared)
  | report (row : CarbonReport)

/-- The two steps of each request. The sensor rows and the stored report that a generation reads do
not depend on each other, so its reads count as one step. -/
def reportProtocol : Protocol ReportRequest CarbonDb Loaded Empty where
  read
    | .readings _, _ => some .sensors
    | .generate ctx body, db =>
      match prepareReport ctx body db with
      | .ok (some p) => some (.prepared p)
      | _ => none
    | .lock body, db => (transitionCheck lockTransition body db).toOption.map .report
  effects _ _ := []
  commit
    | .readings stored, .sensors, db => { db with readings := stored }
    | .generate _ body, .prepared p, db => (generateCommit body p db).2
    | .lock body, .report row, db => transitionCommit lockTransition body row db
    | _, _, db => db

def ReportRequest.op : ReportRequest → CarbonOp
  | .readings stored => .readings stored
  | .generate ctx body => .generate ctx body
  | .lock body => .lock body

theorem reportProtocol_alone (r : ReportRequest) (db : CarbonDb) :
    reportProtocol.alone r db = exec db r.op := by
  cases r with
  | readings stored => rfl
  | generate ctx body =>
    simp only [Protocol.alone, reportProtocol, ReportRequest.op, exec, generateAndPersistReport]
    rcases prepareReport ctx body db with e | _ | p
    · rfl
    · rfl
    · dsimp only
      rcases generateCommit body p db with ⟨_ | _, _⟩ <;> rfl
  | lock body =>
    simp only [Protocol.alone, reportProtocol, ReportRequest.op, exec, lockReport, runTransition]
    cases transitionCheck lockTransition body db <;> rfl

/-! ### Locked rows -/

def reportStatus (db : CarbonDb) (id : Nat) : Option AssuranceStatus :=
  (db.reports.find? id).map (·.status)

/-- The session computed figures for a copy of the report that it loaded unlocked. -/
def loadedUnlocked (id : Nat) : Loaded → Bool
  | .prepared p => p.existing.any fun row => row.1 = id ∧ row.2.status ≠ .locked
  | _ => false

/-- No copy loaded unlocked is committed onto a locked report. -/
def Fresh (id : Nat) (_ : ReportRequest) (seen : Loaded) (db : CarbonDb) : Prop :=
  loadedUnlocked id seen = true → reportStatus db id ≠ some .locked

instance (id : Nat) (r : ReportRequest) (seen : Loaded) (db : CarbonDb) : Decidable (Fresh id r seen db) :=
  inferInstanceAs (Decidable (_ → _))

def LockedAt (id : Nat) (figures : ReportFigures) (db : CarbonDb) : Prop :=
  ∃ report, db.reports.find? id = some report ∧ report.status = .locked ∧ report.figures = figures

section
variable {db : CarbonDb} {id : Nat} {figures : ReportFigures}

theorem generateCommit_keeps {body : GenerateRequest} {p : Prepared}
    (fresh : loadedUnlocked id (.prepared p) = true → reportStatus db id ≠ some .locked)
    (held : LockedAt id figures db) : LockedAt id figures (generateCommit body p db).2 := by
  obtain ⟨report, found, locked, same⟩ := held
  have status : reportStatus db id = some .locked := by
    unfold reportStatus
    rw [found, Option.map_some, locked]
  unfold generateCommit
  split
  · rename_i target loaded existing
    split
    · exact ⟨report, found, locked, same⟩
    · rename_i unlocked
      have other : id ≠ target := by
        rintro rfl
        refine fresh ?_ status
        simp [loadedUnlocked, existing, unlocked]
      refine ⟨report, ?_, locked, same⟩
      rw [find?_saveReport, if_neg other]
      exact found
  · split
    · exact ⟨report, found, locked, same⟩
    · have old : id ≠ db.reports.nextId := by
        have below := Table.find?_lt found
        omega
      refine ⟨report, ?_, locked, same⟩
      show (db.reports.insert _).find? id = some report
      rw [Table.find?_insert, if_neg old]
      exact found

/-- The `UPDATE` of a lock leaves the figures of whatever row it meets. -/
theorem flush_lock (body : AssuranceRequest) {loaded current : CarbonReport}
    (locked : current.status = .locked) :
    (flush loaded (transitionEdit lockTransition body loaded) current).status = .locked ∧
      (flush loaded (transitionEdit lockTransition body loaded) current).figures = current.figures := by
  constructor
  · unfold CarbonReport.status at locked ⊢
    have edited : (transitionEdit lockTransition body loaded).assuranceStatus = some .locked := rfl
    simp only [flush, edited, column]
    split
    · exact locked
    · rfl
  · simp [CarbonReport.figures, flush, transitionEdit, lockTransition]

theorem lockCommit_keeps (body : AssuranceRequest) (loaded : CarbonReport)
    (held : LockedAt id figures db) :
    LockedAt id figures (transitionCommit lockTransition body loaded db) := by
  obtain ⟨report, found, locked, same⟩ := held
  have row : (transitionCommit lockTransition body loaded db).reports.find? id =
      if id = body.reportId then
        (db.reports.find? id).map (flush loaded (transitionEdit lockTransition body loaded))
      else db.reports.find? id :=
    find?_saveReport _ _ _ _ _
  unfold LockedAt
  rw [row, found, Option.map_some]
  split
  · obtain ⟨status, kept⟩ := @flush_lock body loaded report locked
    exact ⟨_, rfl, status, kept.trans same⟩
  · exact ⟨report, rfl, locked, same⟩

theorem commit_keeps (r : ReportRequest) (seen : Loaded) (fresh : Fresh id r seen db)
    (held : LockedAt id figures db) : LockedAt id figures (reportProtocol.commit r seen db) := by
  cases r <;> cases seen <;> try exact held
  case generate ctx body p => exact generateCommit_keeps fresh held
  case lock body row => exact lockCommit_keeps body row held

end

/-! ### Runs -/

/-- A run in which no generation commits a copy it loaded unlocked onto the locked report. -/
abbrev FreshRun (id : Nat) (db : CarbonDb) (actions : List (Action ReportRequest)) : Prop :=
  Meets (step reportProtocol) (Permitted (fun _ => True) (Fresh id)) { db := db } actions

/-- In such a run a report that is locked stays locked with the same figures. -/
theorem fresh_run_keeps_locked_figures (db : CarbonDb) (id : Nat) (before after : List (Action ReportRequest))
    (report : CarbonReport) (fresh : FreshRun id db (before ++ after))
    (found : (run (step reportProtocol) { db := db } before).db.reports.find? id = some report)
    (locked : report.status = .locked) :
    ∃ later, (run (step reportProtocol) { db := db } (before ++ after)).db.reports.find? id = some later ∧
      later.status = .locked ∧ later.figures = report.figures := by
  obtain ⟨earlier, rest⟩ := meets_append.mp fresh
  have start : LockedAt id report.figures (run (step reportProtocol) { db := db } before).db :=
    ⟨report, found, locked, rfl⟩
  rw [run_append]
  exact admitted_run (fun r seen _ db _ _ allowed held => commit_keeps r seen allowed held)
    (opened_run (opened_start _ _ db) earlier) rest start

/-- An approved report whose sensor rows changed since its last generation. -/
def sampleRestated : CarbonDb :=
  run exec (.start olefinPlants []) (sampleReview ++ [.readings [olefinSample sampleDay.instant 20]])

def lockThenGenerate : List (Action ReportRequest) :=
  [.read (.lock sampleLock), .commit 0, .read (.generate sampleFactors sampleGenerate), .commit 1]

theorem fresh_run_of_sample :
    ∃ report later,
      (run (step reportProtocol) { db := sampleRestated } (lockThenGenerate.take 2)).db.reports.find? 1 =
        some report ∧
      (run (step reportProtocol) { db := sampleRestated } lockThenGenerate).db.reports.find? 1 = some later ∧
      later.figures = report.figures := by
  have status : reportStatus
      (run (step reportProtocol) { db := sampleRestated } (lockThenGenerate.take 2)).db 1 = some .locked := by
    decide +kernel
  obtain ⟨report, found, locked⟩ := Option.map_eq_some_iff.mp status
  have fresh : FreshRun 1 sampleRestated (lockThenGenerate.take 2 ++ lockThenGenerate.drop 2) := by
    refine ⟨⟨fun _ _ => trivial, trivial⟩, ⟨fun _ _ => trivial, ?_⟩, ⟨fun _ _ => trivial, trivial⟩,
      ⟨fun _ _ => trivial, ?_⟩, trivial⟩ <;>
      exact admitted_of_check (by decide +kernel)
  obtain ⟨later, present, _, same⟩ :=
    fresh_run_keeps_locked_figures sampleRestated 1 _ _ report fresh found locked
  exact ⟨report, later, found, present, same⟩

/-- A generation that read the approved report commits after the lock. -/
def staleGenerate : List (Action ReportRequest) :=
  [.read (.generate sampleFactors sampleGenerate), .read (.lock sampleLock), .commit 1, .commit 0]

theorem stale_generate_changes_locked :
    let locked := run (step reportProtocol) { db := sampleRestated } (staleGenerate.take 3)
    let last := run (step reportProtocol) { db := sampleRestated } staleGenerate
    reportStatus locked.db 1 = some .locked ∧ reportStatus last.db 1 = some .locked ∧
      (locked.db.reports.find? 1).map (·.scope1Kgco2) = some 480216 ∧
      (last.db.reports.find? 1).map (·.scope1Kgco2) = some 960216 := by
  decide +kernel

end Iems.Carbon
