import Iems.Carbon.Assurance
import Iems.Carbon.Market
import Iems.Lib.Runs

/-! Whole requests on the carbon reports, and what one of them can do to a report and its trail. -/
namespace Iems.Carbon
open Lib

/-- A request run alone; `readings` is whatever ingestion and retention leave in the sensor table. -/
inductive CarbonOp where
  | readings (stored : List SensorReading)
  | generate (ctx : GenerateContext) (body : GenerateRequest)
  | submit (body : AssuranceRequest)
  | approve (body : AssuranceRequest)
  | lock (body : AssuranceRequest)
  | list (plantCode : Option String) (periodType : Option PeriodType) (limit : Nat)
  | sync (ctx : SyncContext) (plantCode : Option String) (forceUnlocked : Bool)

def exec (db : CarbonDb) : CarbonOp → CarbonDb
  | .readings stored => { db with readings := stored }
  | .generate ctx body => (generateAndPersistReport ctx body db).2
  | .submit body => (submitReport body db).2
  | .approve body => (approveReport body db).2
  | .lock body => (lockReport body db).2
  | .list _ _ _ => db
  | .sync ctx plantCode forceUnlocked => (syncCarbonMarket ctx plantCode forceUnlocked db).2

def CarbonOp.transition : CarbonOp → Option (Transition × AssuranceRequest)
  | .submit body => some (submitTransition, body)
  | .approve body => some (approveTransition, body)
  | .lock body => some (lockTransition, body)
  | _ => none

/-- The requests of one pass of the report scheduler. -/
def runOnce (ctx : GenerateContext) (now : Datetime) : List CarbonOp :=
  ctx.cfg.unitCodeList.flatMap fun plantCode =>
    [PeriodType.daily, .monthly, .yearly].map fun periodType =>
      .generate ctx
        { plantCode := plantCode
          periodType := periodType
          completedOnly := ctx.cfg.carbonReportCompletedOnly
          now := now }

/-! ### What one request does to the store -/

/-- The stored reports and the trail are untouched, or one report is inserted, recomputed or moved. -/
inductive StoreStep (db : CarbonDb) : CarbonOp → CarbonDb → Prop where
  | quiet (op : CarbonOp) (next : CarbonDb) (plants : next.plants = db.plants)
      (reports : next.reports = db.reports) (events : next.assuranceEvents = db.assuranceEvents) :
      StoreStep db op next
  | created (ctx : GenerateContext) (body : GenerateRequest) (p : Prepared)
      (prepared : prepareReport ctx body db = .ok (some p)) (absent : p.existing = none) :
      StoreStep db (.generate ctx body) { db with reports := db.reports.insert (newReport body p) }
  | regenerated (ctx : GenerateContext) (body : GenerateRequest) (p : Prepared) (id : Nat)
      (report : CarbonReport) (prepared : prepareReport ctx body db = .ok (some p))
      (existing : p.existing = some (id, report)) (unlocked : report.status ≠ .locked) :
      StoreStep db (.generate ctx body) (saveReport db id report (regenerateEdit p.figures report))
  | moved (op : CarbonOp) (t : Transition) (body : AssuranceRequest) (report : CarbonReport)
      (request : op.transition = some (t, body)) (passed : transitionCheck t body db = .ok report) :
      StoreStep db op (transitionCommit t body report db)

theorem prepareReport_ok {ctx : GenerateContext} {body : GenerateRequest} {db : CarbonDb}
    {p : Prepared} (prepared : prepareReport ctx body db = .ok (some p)) :
    body.window = some p.window ∧ db.plants.get? body.plantCode = some p.plantId ∧
      p.existing = findReport db (p.plantId, p.window.start, body.periodType) := by
  unfold prepareReport at prepared
  split at prepared
  · cases prepared
  · rename_i window bounds
    split at prepared
    · cases prepared
    · rename_i plantId known
      split at prepared
      · cases prepared
      · cases prepared
      · cases prepared
        exact ⟨bounds, known, rfl⟩

/-- The stored report that a generation works on is the one of its plant, period and type. -/
theorem prepareReport_existing {ctx : GenerateContext} {body : GenerateRequest} {db : CarbonDb} {p : Prepared}
    {id : Nat} {report : CarbonReport} (prepared : prepareReport ctx body db = .ok (some p))
    (existing : p.existing = some (id, report)) :
    db.reports.find? id = some report ∧ report.key = (p.plantId, p.window.start, body.periodType) := by
  obtain ⟨_, _, lookup⟩ := prepareReport_ok prepared
  exact findReport_some (lookup.symm.trans existing)

theorem generateAndPersistReport_step (ctx : GenerateContext) (body : GenerateRequest) (db : CarbonDb) :
    StoreStep db (.generate ctx body) (generateAndPersistReport ctx body db).2 := by
  unfold generateAndPersistReport
  split
  · exact .quiet _ db rfl rfl rfl
  · exact .quiet _ db rfl rfl rfl
  · rename_i p prepared
    have committed : StoreStep db (.generate ctx body) (generateCommit body p db).2 := by
      unfold generateCommit
      split
      · rename_i id report existing
        split
        · exact .quiet _ db rfl rfl rfl
        · rename_i unlocked
          exact .regenerated ctx body p id report prepared existing unlocked
      · rename_i absent
        split
        · exact .quiet _ db rfl rfl rfl
        · exact .created ctx body p prepared absent
    split <;> rename_i commit <;> rw [commit] at committed <;> exact committed

theorem runTransition_step {op : CarbonOp} {t : Transition} {body : AssuranceRequest}
    (request : op.transition = some (t, body)) (db : CarbonDb) :
    StoreStep db op (runTransition t body db).2 := by
  unfold runTransition
  split
  · exact .quiet _ db rfl rfl rfl
  · rename_i report passed
    exact .moved op t body report request passed

theorem exec_step (db : CarbonDb) (op : CarbonOp) : StoreStep db op (exec db op) := by
  cases op with
  | readings stored => exact .quiet _ _ rfl rfl rfl
  | generate ctx body => exact generateAndPersistReport_step ctx body db
  | submit body => exact runTransition_step rfl db
  | approve body => exact runTransition_step rfl db
  | lock body => exact runTransition_step rfl db
  | list plantCode periodType limit => exact .quiet _ _ rfl rfl rfl
  | sync ctx plantCode forceUnlocked => exact .quiet _ _ rfl rfl rfl

theorem exec_plants (db : CarbonDb) (op : CarbonOp) : (exec db op).plants = db.plants := by
  have change := exec_step db op
  generalize exec db op = next at change
  cases change with
  | quiet _ _ plants => exact plants
  | created => rfl
  | regenerated => rfl
  | moved => rfl

theorem run_plants (db : CarbonDb) (ops : List CarbonOp) : (run exec db ops).plants = db.plants := by
  have keep : ∀ s op, s.plants = db.plants → (exec s op).plants = db.plants :=
    fun s op same => (exec_plants s op).trans same
  exact run_invariant keep rfl

/-! ### What one request does to one report -/

def Recomputes (plants : Dict String Nat) (body : GenerateRequest) (report : CarbonReport) : Prop :=
  plants.get? body.plantCode = some report.plantId ∧
    body.window.map (·.start) = some report.periodStart ∧ body.periodType = report.periodType

/-- One request's change of one report, with the events it appends to its trail. -/
inductive ReportStep (db : CarbonDb) (id : Nat) : CarbonOp → Option CarbonReport →
    Option CarbonReport → List AssuranceEvent → Prop where
  | same (op : CarbonOp) (report : Option CarbonReport) : ReportStep db id op report report []
  | created (ctx : GenerateContext) (body : GenerateRequest) (p : Prepared) :
      ReportStep db id (.generate ctx body) none (some (newReport body p)) []
  | regenerated (ctx : GenerateContext) (body : GenerateRequest) (p : Prepared) (report : CarbonReport)
      (prepared : prepareReport ctx body db = .ok (some p)) (own : Recomputes db.plants body report)
      (unlocked : report.status ≠ .locked) :
      ReportStep db id (.generate ctx body) (some report) (some (regenerateEdit p.figures report)) []
  | moved (op : CarbonOp) (t : Transition) (body : AssuranceRequest) (report : CarbonReport)
      (request : op.transition = some (t, body)) (own : body.reportId = id)
      (allowed : report.status ∈ t.allowed) :
      ReportStep db id op (some report) (some (transitionEdit t body report)) [transitionEvent t body]

theorem find?_saveReport_loaded {db : CarbonDb} {id : Nat} {loaded : CarbonReport}
    (found : db.reports.find? id = some loaded) (edited : CarbonReport) (other : Nat) :
    (saveReport db id loaded edited).reports.find? other =
      if other = id then some edited else db.reports.find? other := by
  rw [find?_saveReport]
  split
  · rename_i here
    rw [here, found, Option.map_some, flush_current]
  · rfl

theorem transitionCommit_find? {t : Transition} {body : AssuranceRequest} {db : CarbonDb} {report : CarbonReport}
    (found : db.reports.find? body.reportId = some report) (other : Nat) :
    (transitionCommit t body report db).reports.find? other =
      if other = body.reportId then some (transitionEdit t body report) else db.reports.find? other :=
  find?_saveReport_loaded found (transitionEdit t body report) other

theorem transitionCommit_trail (t : Transition) (body : AssuranceRequest) (report : CarbonReport) (db : CarbonDb)
    (id : Nat) : assuranceTrail (transitionCommit t body report db) id =
      assuranceTrail db id ++ if body.reportId = id then [transitionEvent t body] else [] :=
  assuranceTrail_append (saveReport db body.reportId report (transitionEdit t body report)) (transitionEvent t body) id

theorem exec_report (db : CarbonDb) (op : CarbonOp) (id : Nat) : ∃ events,
    assuranceTrail (exec db op) id = assuranceTrail db id ++ events ∧
      ReportStep db id op (db.reports.find? id) ((exec db op).reports.find? id) events := by
  have change := exec_step db op
  generalize exec db op = next at change ⊢
  cases change with
  | quiet _ _ plants reports events =>
    refine ⟨[], ?_, ?_⟩
    · unfold assuranceTrail
      rw [events, List.append_nil]
    · rw [reports]
      exact .same op _
  | created ctx body p =>
    refine ⟨[], (List.append_nil _).symm, ?_⟩
    have row : ({ db with reports := db.reports.insert (newReport body p) } : CarbonDb).reports.find? id =
        if id = db.reports.nextId then some (newReport body p) else db.reports.find? id :=
      Table.find?_insert _ _ _
    rw [row]
    split
    · rename_i fresh
      rw [fresh, Table.find?_nextId]
      exact .created ctx body p
    · exact .same _ _
  | regenerated ctx body p target report prepared existing unlocked =>
    obtain ⟨bounds, known, _⟩ := prepareReport_ok prepared
    obtain ⟨found, key⟩ := prepareReport_existing prepared existing
    refine ⟨[], (List.append_nil _).symm, ?_⟩
    rw [find?_saveReport_loaded found]
    split
    · rename_i here
      rw [here, found]
      obtain ⟨plant, start, type⟩ : report.plantId = p.plantId ∧ report.periodStart = p.window.start ∧
          report.periodType = body.periodType := by simpa [CarbonReport.key] using key
      refine .regenerated ctx body p report prepared ⟨?_, ?_, type.symm⟩ unlocked
      · rw [known, plant]
      · rw [bounds, Option.map_some, start]
    · exact .same _ _
  | moved _ t body report request passed =>
    obtain ⟨found, allowed⟩ := transitionCheck_ok passed
    refine ⟨_, transitionCommit_trail t body report db id, ?_⟩
    rw [transitionCommit_find? found]
    by_cases here : id = body.reportId
    · rw [if_pos here, if_pos here.symm, here, found]
      exact .moved op t body report request rfl allowed
    · rw [if_neg here, if_neg (Ne.symm here)]
      exact .same _ _

end Iems.Carbon
