import Iems.Api.AssurancePath
import Iems.Api.MemoryPath

/-! The ids of the two stores: which records the id test of the routes sends to the store that made them. -/
namespace Iems.Api
open Lib Iems.Optimization Iems.Demo

structure IdServer where
  recs : RecServer
  reports : CarbonServer

def IdServer.start (plants : Dict String Nat) (readings : List Carbon.SensorReading) : IdServer :=
  ⟨⟨.empty, .empty⟩, ⟨.empty, .start plants readings⟩⟩

/-- What happens to the stores: requests of the database and of the memory, requests of the routes, and ids that the
database draws for rows it rolls back. -/
inductive IdAction where
  | recDb (op : RecOp)
  | recMemory (now : Int) (adviceItems : List SetpointAdvice) (simulations : Dict String AdviceSimulation)
  | recRoute (id : Nat) (request : RouteRequest)
  | recDrawn
  | reportDb (op : Carbon.CarbonOp)
  | reportMemory (env : GenerateEnv) (plantCode : String) (periodType : Carbon.PeriodType) (completedOnly : Bool)
  | reportRoute (id : Nat) (request : ReportRequest)
  | reportDrawn

def RecServer.drawn (server : RecServer) : RecServer :=
  { server with db := { server.db with recommendations := server.db.recommendations.draw } }

def CarbonServer.drawn (server : CarbonServer) : CarbonServer :=
  { server with db := { server.db with reports := server.db.reports.draw } }

def IdServer.step (w : IdServer) : IdAction → IdServer
  | .recDb op => { w with recs := { w.recs with db := exec w.recs.db op } }
  | .recMemory now adviceItems simulations =>
    { w with recs := { w.recs with memory := w.recs.memory.persist now adviceItems simulations } }
  | .recRoute id request => { w with recs := (handle w.recs id request).2 }
  | .recDrawn => { w with recs := w.recs.drawn }
  | .reportDb op => { w with reports := { w.reports with db := Carbon.exec w.reports.db op } }
  | .reportMemory env plantCode periodType completedOnly =>
    let made := generateMemoryReport env.ctx env.now env.demo plantCode periodType completedOnly w.reports.memory
    { w with reports := { w.reports with memory := made.2 } }
  | .reportRoute id request => { w with reports := served id w.reports request }
  | .reportDrawn => { w with reports := w.reports.drawn }

/-- An id test sends the ids of either store to it, and no id names a record in both. -/
structure RoutedBy (toMemory : Nat → Bool) (inDb inMemory : Nat → Prop) : Prop where
  db : ∀ id, inDb id → toMemory id = false
  memory : ∀ id, inMemory id → toMemory id = true
  once : ∀ id, ¬(inDb id ∧ inMemory id)

def RecServer.InDb (server : RecServer) (id : Nat) : Prop := getRecommendation server.db id ≠ none

def RecServer.InMemory (server : RecServer) (id : Nat) : Prop := server.memory.Holds id

def CarbonServer.InDb (server : CarbonServer) (id : Nat) : Prop := server.db.reports.find? id ≠ none

def CarbonServer.InMemory (server : CarbonServer) (id : Nat) : Prop := server.memory.Holds id

structure Routed (w : IdServer) : Prop where
  recs : RoutedBy isMemoryId w.recs.InDb w.recs.InMemory
  reports : RoutedBy isMemoryReportId w.reports.InDb w.reports.InMemory

/-! ### The ids that a step hands out in the database -/

def newRecs : IdAction → Nat
  | .recDb (.persist _ adviceItems _) => adviceItems.length
  | _ => 0

/-- A generation inserts a report when its period has data and no report yet. -/
def inserted (ctx : Carbon.GenerateContext) (body : Carbon.GenerateRequest) (db : Carbon.CarbonDb) : Nat :=
  match Carbon.prepareReport ctx body db with
  | .ok (some p) => if p.existing.isNone then 1 else 0
  | _ => 0

def newReports (w : IdServer) : IdAction → Nat
  | .reportDb (.generate ctx body) => inserted ctx body w.reports.db
  | .reportRoute _ (.regenerate env plantCode periodType completedOnly) =>
    inserted env.ctx (env.request plantCode periodType completedOnly) (env.found w.reports.db)
  | _ => 0

/-- The serial counters reach no id of the memory with the rows that the step inserts. -/
def LeavesRoom (w : IdServer) (action : IdAction) : Prop :=
  (newRecs action = 0 ∨ w.recs.db.recommendations.nextId + newRecs action ≤ idBase) ∧
    (newReports w action = 0 ∨ w.reports.db.reports.nextId + newReports w action ≤ reportIdBase)

theorem mem_new {first count id : Nat} : id ∈ List.range' first count ↔ first ≤ id ∧ id < first + count := by
  rw [List.mem_range'_1]

/-! ### Recommendations -/

section
variable {id : Nat}

theorem persist_ids (now : Int) (adviceItems : List SetpointAdvice) (simulations : Dict String AdviceSimulation)
    (db : RecStore) (id : Nat) :
    getRecommendation (persistRecommendations now adviceItems simulations db).2 id ≠ none ↔
      getRecommendation db id ≠ none ∨ id ∈ List.range' db.recommendations.nextId adviceItems.length := by
  have ids := Table.ids_insertAll db.recommendations (adviceItems.map (newRecommendation now simulations))
  rw [List.length_map] at ids
  have made : (persistRecommendations now adviceItems simulations db).1.lookup id ≠ none ↔
      id ∈ List.range' db.recommendations.nextId adviceItems.length := by
    rw [lookup_ne_none_iff, ← ids]
    rfl
  rw [getRecommendation_persist, ← made]
  simp only [ne_eq, Option.or_eq_none_iff, not_and_or]

/-- Only a batch of advice makes new rows. -/
theorem exec_ids (db : RecStore) (op : RecOp) (id : Nat) : getRecommendation (exec db op) id ≠ none ↔
    getRecommendation db id ≠ none ∨ id ∈ List.range' db.recommendations.nextId (newRecs (.recDb op)) := by
  cases op with
  | persist now adviceItems simulations => exact persist_ids now adviceItems simulations db id
  | _ =>
    obtain ⟨_, _, step⟩ := exec_moves db _ id
    generalize getRecommendation (exec db _) id = after at step
    generalize getRecommendation db id = before at step
    cases step <;> simp [newRecs]

theorem handleDb_exec (db : RecStore) (id : Nat) (request : RouteRequest) :
    ∃ op, newRecs (.recDb op) = 0 ∧ (handleDb db id request).2 = exec db op := by
  cases request with
  | feedback decision operator comment now => exact ⟨.feedback ⟨id, decision, operator, comment, now⟩, rfl, rfl⟩
  | simulate ctx model => exact ⟨.simulate ctx id model, rfl, rfl⟩
  | approve actor comment now =>
    refine ⟨.approve ⟨id, actor, comment, now⟩, rfl, ?_⟩
    unfold handleDb exec
    dsimp only
    split <;> rename_i ended <;> rw [ended]
  | apply ctx actor dryRun now => exact ⟨.apply ctx ⟨id, actor, dryRun, now⟩, rfl, rfl⟩
  | impact ctx live actor => exact ⟨.impact ctx ⟨id, actor⟩, rfl, rfl⟩

theorem changeStatus_extends (memory : MemoryRecStore) (id : Nat) (status : RecStatus) (actor : String)
    (comment : Option String) (extra : List Extra) (out : MemoryRecommendation → RouteOut) :
    memory.Extends (changeStatus memory id status actor comment extra out).2 := by
  have changed := memory.setStatus_extends id status actor comment extra
  unfold changeStatus
  dsimp only
  split <;> exact changed

theorem handleMemory_extends (memory : MemoryRecStore) (id : Nat) (request : RouteRequest) :
    memory.Extends (handleMemory memory id request).2 := by
  cases held : memory.get id with
  | none =>
    unfold handleMemory
    rw [held]
    exact .refl _ _
  | some rec =>
    rw [handleMemory_held held]
    cases request with
    | feedback decision operator comment now =>
      dsimp only [memoryFeedback]
      split
      · exact .refl _ _
      · split
        · exact .refl _ _
        · exact changeStatus_extends _ _ _ _ _ _ _
    | simulate ctx model =>
      dsimp only [memorySimulate]
      split
      · exact .refl _ _
      · refine ⟨le_rfl, fun other present => Or.inl ?_⟩
        rcases Dict.present_set present with rfl | old
        · simp [MemoryRecStore.Holds, held]
        · exact old
    | approve actor comment now =>
      dsimp only [memoryApprove]
      split
      · exact .refl _ _
      · exact changeStatus_extends _ _ _ _ _ _ _
    | apply ctx actor dryRun now =>
      dsimp only [memoryApply]
      split
      · exact .refl _ _
      · exact changeStatus_extends _ _ _ _ _ _ _
    | impact ctx live actor =>
      dsimp only [memoryImpact]
      split
      · exact .refl _ _
      · exact changeStatus_extends _ _ _ _ _ _ _

theorem handle_extends (server : RecServer) (id : Nat) (request : RouteRequest) :
    server.memory.Extends (handle server id request).2.memory := by
  unfold handle
  split
  · exact handleMemory_extends server.memory id request
  · exact .refl _ _

theorem handle_ids (server : RecServer) (id : Nat) (request : RouteRequest) (other : Nat) :
    (handle server id request).2.InDb other ↔ server.InDb other := by
  unfold handle
  split
  · exact Iff.rfl
  · obtain ⟨op, quiet, same⟩ := handleDb_exec server.db id request
    have ids := exec_ids server.db op other
    rw [quiet, ← same] at ids
    simpa [RecServer.InDb] using ids

end

/-! ### Reports -/

section
open Carbon (CarbonDb CarbonReport)

theorem insert_ids (reports : Table CarbonReport) (report : CarbonReport) (id : Nat) :
    (reports.insert report).find? id ≠ none ↔ reports.find? id ≠ none ∨ id ∈ List.range' reports.nextId 1 := by
  rw [Table.find?_insert, List.range'_one, List.mem_singleton]
  split
  · rename_i fresh
    simp [fresh]
  · rename_i old
    simp [old]

theorem saveReport_ids (db : CarbonDb) (reportId : Nat) (loaded edited : CarbonReport) (id : Nat) :
    (Carbon.saveReport db reportId loaded edited).reports.find? id ≠ none ↔ db.reports.find? id ≠ none := by
  rw [Carbon.find?_saveReport]
  split <;> simp

theorem generate_ids (ctx : Carbon.GenerateContext) (body : Carbon.GenerateRequest) (db : CarbonDb) (id : Nat) :
    (Carbon.generateAndPersistReport ctx body db).2.reports.find? id ≠ none ↔
      db.reports.find? id ≠ none ∨ id ∈ List.range' db.reports.nextId (inserted ctx body db) := by
  unfold Carbon.generateAndPersistReport inserted
  cases prepared : Carbon.prepareReport ctx body db with
  | error raised => simp
  | ok outcome =>
    cases outcome with
    | none => simp
    | some p =>
      obtain ⟨_, _, lookup⟩ := Carbon.prepareReport_ok prepared
      have committed : (Carbon.generateCommit body p db).2.reports.find? id ≠ none ↔
          db.reports.find? id ≠ none ∨
            id ∈ List.range' db.reports.nextId (if p.existing.isNone then 1 else 0) := by
        unfold Carbon.generateCommit
        cases existing : p.existing with
        | some found =>
          dsimp only
          split
          · simp
          · simpa using saveReport_ids db found.1 found.2 _ id
        | none =>
          rw [← lookup, existing]
          exact insert_ids db.reports _ id
      dsimp only
      split <;> rename_i ended <;> rw [ended] at committed <;> exact committed

theorem carbonExec_ids (w : IdServer) (op : Carbon.CarbonOp) (id : Nat) :
    (Carbon.exec w.reports.db op).reports.find? id ≠ none ↔
      w.reports.db.reports.find? id ≠ none ∨
        id ∈ List.range' w.reports.db.reports.nextId (newReports w (.reportDb op)) := by
  cases op with
  | generate ctx body => exact generate_ids ctx body w.reports.db id
  | _ =>
    obtain ⟨_, _, step⟩ := Carbon.exec_report w.reports.db _ id
    generalize (Carbon.exec w.reports.db _).reports.find? id = after at step
    generalize w.reports.db.reports.find? id = before at step
    cases step <;> simp [newReports]

theorem runTransition_ids (t : Carbon.Transition) (body : Carbon.AssuranceRequest) (db : CarbonDb) (id : Nat) :
    (Carbon.runTransition t body db).2.reports.find? id ≠ none ↔ db.reports.find? id ≠ none := by
  unfold Carbon.runTransition
  split
  · exact Iff.rfl
  · exact saveReport_ids db body.reportId _ _ id

theorem assurance_extends (status : MemoryAssurance) (t : Carbon.Transition) (server : CarbonServer)
    (body : Carbon.AssuranceRequest) : server.memory.Extends (assurance status t server body).2.memory := by
  unfold assurance
  split
  · have stored : (memoryAssurance server.memory status body).2 =
        (server.memory.setAssurance body.reportId status body.actor).2 := by
      unfold memoryAssurance
      split <;> rename_i ended <;> rw [ended]
    dsimp only
    rw [stored]
    exact server.memory.setAssurance_extends _ _ _
  · exact .refl _ _

theorem dbAssurance_db (db : CarbonDb) (t : Carbon.Transition) (body : Carbon.AssuranceRequest) :
    (dbAssurance db t body).2 = (Carbon.runTransition t body db).2 := by
  unfold dbAssurance
  split
  · rename_i ended
    rw [ended]
  · rename_i ended
    rw [ended]
    dsimp only
    split <;> rfl

theorem assurance_ids (status : MemoryAssurance) (t : Carbon.Transition) (server : CarbonServer)
    (body : Carbon.AssuranceRequest) (id : Nat) : (assurance status t server body).2.InDb id ↔ server.InDb id := by
  unfold assurance
  split
  · exact Iff.rfl
  · unfold CarbonServer.InDb
    dsimp only
    rw [dbAssurance_db]
    exact runTransition_ids t body server.db id

theorem served_ids (w : IdServer) (reportId : Nat) (request : ReportRequest) :
    w.reports.memory.Extends (served reportId w.reports request).memory ∧
      ∀ id, (served reportId w.reports request).InDb id ↔ w.reports.InDb id ∨
        id ∈ List.range' w.reports.db.reports.nextId (newReports w (.reportRoute reportId request)) := by
  cases change : request.change reportId with
  | none =>
    cases request with
    | regenerate env plantCode periodType completedOnly =>
      refine ⟨generateReport_extends env plantCode periodType completedOnly w.reports, fun id => ?_⟩
      unfold CarbonServer.InDb
      show (generateReport env plantCode periodType completedOnly w.reports).2.db.reports.find? id ≠ none ↔ _
      rw [generateReport_db]
      exact generate_ids env.ctx (env.request plantCode periodType completedOnly) (env.found w.reports.db) id
    | _ => cases change
  | some found =>
    obtain ⟨t, body⟩ := found
    have quiet : newReports w (.reportRoute reportId request) = 0 := by
      cases request <;> cases change <;> rfl
    unfold served
    rw [serve_change change, quiet]
    refine ⟨assurance_extends (memoryStage t.target) t w.reports body, fun id => ?_⟩
    simpa using assurance_ids (memoryStage t.target) t w.reports body id

end

/-! ### Runs -/

/-- What a step does to the ids: the memories number on, the database gains the ids that it draws. -/
structure StepIds (w next : IdServer) (recs reports : Nat) : Prop where
  recMemory : w.recs.memory.Extends next.recs.memory
  reportMemory : w.reports.memory.Extends next.reports.memory
  recDb : ∀ id, next.recs.InDb id ↔ w.recs.InDb id ∨ id ∈ List.range' w.recs.db.recommendations.nextId recs
  reportDb : ∀ id, next.reports.InDb id ↔ w.reports.InDb id ∨ id ∈ List.range' w.reports.db.reports.nextId reports

theorem stepIds (w : IdServer) (action : IdAction) : StepIds w (w.step action) (newRecs action) (newReports w action) := by
  have sameRecs : ∀ id, w.recs.InDb id ↔ w.recs.InDb id ∨ id ∈ List.range' w.recs.db.recommendations.nextId 0 := by
    simp
  have sameReports : ∀ id, w.reports.InDb id ↔ w.reports.InDb id ∨ id ∈ List.range' w.reports.db.reports.nextId 0 := by
    simp
  cases action with
  | recDb op => exact ⟨.refl _ _, .refl _ _, exec_ids w.recs.db op, sameReports⟩
  | recMemory now adviceItems simulations =>
    exact ⟨w.recs.memory.persist_extends now adviceItems simulations, .refl _ _, sameRecs, sameReports⟩
  | recRoute id request =>
    exact ⟨handle_extends w.recs id request, .refl _ _,
      fun other => (handle_ids w.recs id request other).trans (sameRecs other), sameReports⟩
  | recDrawn => exact ⟨.refl _ _, .refl _ _, sameRecs, sameReports⟩
  | reportDb op => exact ⟨.refl _ _, .refl _ _, sameRecs, carbonExec_ids w op⟩
  | reportMemory env plantCode periodType completedOnly =>
    exact ⟨.refl _ _, generateMemoryReport_extends env.ctx env.now env.demo plantCode periodType completedOnly _,
      sameRecs, sameReports⟩
  | reportRoute id request =>
    obtain ⟨memory, ids⟩ := served_ids w id request
    exact ⟨.refl _ _, memory, sameRecs, ids⟩
  | reportDrawn => exact ⟨.refl _ _, .refl _ _, sameRecs, sameReports⟩

/-- Both memories hand out their ids from their bases on. -/
structure AboveBases (w : IdServer) : Prop where
  recs : idBase ≤ w.recs.memory.nextId ∧ ∀ id, w.recs.InMemory id → idBase ≤ id
  reports : reportIdBase ≤ w.reports.memory.nextId ∧ ∀ id, w.reports.InMemory id → reportIdBase ≤ id

theorem aboveBases_step (w : IdServer) (action : IdAction) (above : AboveBases w) : AboveBases (w.step action) :=
  ⟨(stepIds w action).recMemory.above above.recs, (stepIds w action).reportMemory.above above.reports⟩

/-- Above its base the memory is routed right, so the routing turns on the ids of the database. -/
theorem routedBy_iff {base : Nat} {inDb inMemory : Nat → Prop} (above : ∀ id, inMemory id → base ≤ id) :
    RoutedBy (fun id => base ≤ id) inDb inMemory ↔ ∀ id, inDb id → id < base := by
  constructor
  · intro routed id present
    simpa using routed.db id present
  · intro below
    exact
      { db := fun id present => by simpa using below id present
        memory := fun id present => by simpa using above id present
        once := fun id both => absurd (below id both.1) (not_lt.mpr (above id both.2)) }

theorem below_range {base first count : Nat} {before after : Nat → Prop} (below : ∀ id, before id → id < base)
    (grown : ∀ id, after id ↔ before id ∨ id ∈ List.range' first count) :
    (∀ id, after id → id < base) ↔ count = 0 ∨ first + count ≤ base := by
  constructor
  · intro all
    by_contra full
    have last := all (first + count - 1) ((grown _).mpr (Or.inr (mem_new.mpr (by omega))))
    omega
  · rintro room id present
    rcases (grown id).mp present with old | fresh
    · exact below id old
    · have bounds := mem_new.mp fresh
      omega

/-- The id test routes right all along a run exactly when the serial counters of the database give no row of the run
an id of the memory. -/
theorem routed_iff (plants : Dict String Nat) (readings : List Carbon.SensorReading) (actions : List IdAction) :
    (∀ w ∈ visited IdServer.step (.start plants readings) actions, Routed w) ↔
      Meets IdServer.step LeavesRoom (.start plants readings) actions := by
  refine visited_iff_meets aboveBases_step ?_ ?_ ?_
  · intro w action above routed
    have after := aboveBases_step w action above
    have both : Routed (w.step action) ↔
        (∀ id, (w.step action).recs.InDb id → id < idBase) ∧
          ∀ id, (w.step action).reports.InDb id → id < reportIdBase :=
      ⟨fun routed => ⟨(routedBy_iff after.recs.2).mp routed.recs, (routedBy_iff after.reports.2).mp routed.reports⟩,
        fun below => ⟨(routedBy_iff after.recs.2).mpr below.1, (routedBy_iff after.reports.2).mpr below.2⟩⟩
    rw [both, below_range ((routedBy_iff above.recs.2).mp routed.recs) (stepIds w action).recDb,
      below_range ((routedBy_iff above.reports.2).mp routed.reports) (stepIds w action).reportDb]
    rfl
  · exact ⟨⟨le_rfl, fun id held => absurd (Dict.get?_empty id) held⟩,
      le_rfl, fun id held => absurd (Dict.get?_empty id) held⟩
  · exact
      { recs :=
          { db := fun id present => absurd rfl present
            memory := fun id held => absurd (Dict.get?_empty id) held
            once := fun id both => absurd rfl both.1 }
        reports :=
          { db := fun id present => absurd rfl present
            memory := fun id held => absurd (Dict.get?_empty id) held
            once := fun id both => absurd rfl both.1 } }

/-- The queueing of one advice, as the scheduler does it cycle after cycle. -/
def queueOne : IdAction := .recDb (.persist 0 [sampleAdvice] .empty)

theorem queued_nextId (count : Nat) :
    (run IdServer.step (.start .empty []) (List.replicate count queueOne)).recs.db.recommendations.nextId = count + 1 := by
  induction count with
  | zero => rfl
  | succ count ih =>
    rw [List.replicate_succ', run_snoc]
    generalize run IdServer.step (.start .empty []) (List.replicate count queueOne) = w at ih ⊢
    have one := Table.nextId_insertAll w.recs.db.recommendations [newRecommendation 0 .empty sampleAdvice]
    rw [ih] at one
    exact one

/-- The row that takes the id 900000 is looked for in the memory. -/
theorem queued_unreachable : ¬ ∀ (plants : Dict String Nat) (readings : List Carbon.SensorReading)
    (actions : List IdAction), ∀ w ∈ visited IdServer.step (.start plants readings) actions, Routed w := by
  intro routed
  have last := (routed .empty [] (List.replicate 899999 queueOne ++ [queueOne]) _ (run_mem_visited _ _)).recs.db idBase
  rw [run_snoc] at last
  have stored : (run IdServer.step (.start .empty []) (List.replicate 899999 queueOne)).recs.db.recommendations.nextId =
      idBase := queued_nextId 899999
  generalize run IdServer.step (.start .empty []) (List.replicate 899999 queueOne) = w at last stored
  have drawn : (w.step queueOne).recs.InDb idBase := by
    refine (exec_ids w.recs.db (.persist 0 [sampleAdvice] .empty) idBase).mpr (Or.inr ?_)
    rw [stored]
    exact mem_new.mpr ⟨le_rfl, Nat.lt_succ_self _⟩
  exact absurd (last drawn) (by decide)

end Iems.Api
