import Iems.Api.CarbonReads
import Iems.Api.Queueing

/-! The listings of recommendations and reports: what is listed, and that the routes of a listed record find it as it is
listed. -/
namespace Iems.Api
open Lib Iems.Core Iems.Optimization Iems.Demo

/-- The rows of the database; where it gives none back, those of the memory. -/
def getRecommendations (cfg : Settings) (reachable : Bool) (plantCode status : Option String) (limit : PageLimit 200)
    (server : RecServer) : List SetpointAdviceOut :=
  let rows := if reachable then listRecommendations server.db plantCode status limit.rows else []
  if rows = [] ∧ cfg.allowDemoMemory then (server.memory.list plantCode status limit.rows).map memoryRowToAdvice
  else rows.map fun row => rowToAdvice row.1 row.2

/-- The recommendation as its routes find it. -/
def shownRec (id : Nat) (server : RecServer) : Option SetpointAdviceOut :=
  if isMemoryId id then (server.memory.get id).map memoryRowToAdvice
  else (getRecommendation server.db id).map (rowToAdvice id)

/-- A query parameter that lets a value through: it is missing, empty, or the value. -/
def Passes (filter : Option String) (value : String) : Prop := filter.getD "" = "" ∨ filter = some value

instance (filter : Option String) (value : String) : Decidable (Passes filter value) := inferInstanceAs (Decidable (_ ∨ _))

/-! ### The records of the memories carry the ids that they are found under -/

def NumberedRecs (memory : MemoryRecStore) : Prop := memory.recs.Keyed MemoryRecommendation.id

def NumberedReports (memory : MemoryReportStore) : Prop := memory.reports.Keyed MemoryCarbonReport.id

section
variable {memory : MemoryRecStore} {id : Nat}

theorem numbered_persist (now : Int) (adviceItems : List SetpointAdvice) (simulations : Dict String AdviceSimulation)
    (numbered : NumberedRecs memory) : NumberedRecs (memory.persist now adviceItems simulations) := by
  unfold MemoryRecStore.persist
  induction adviceItems generalizing memory with
  | nil => exact numbered
  | cons advice rest ih =>
    refine ih ?_
    unfold NumberedRecs MemoryRecStore.persistOne
    rw [MemoryRecStore.appendAuditUnlocked_recs]
    exact Dict.Keyed.set numbered rfl

theorem setattrs_id (rec : MemoryRecommendation) (extra : List Extra) : (extra.foldl Extra.setattr rec).id = rec.id := by
  induction extra generalizing rec with
  | nil => rfl
  | cons first rest ih => exact (ih (first.setattr rec)).trans (by cases first <;> rfl)

theorem numbered_changeStatus (numbered : NumberedRecs memory) (status : RecStatus) (actor : String)
    (comment : Option String) (extra : List Extra) (out : MemoryRecommendation → RouteOut) :
    NumberedRecs (changeStatus memory id status actor comment extra out).2 := by
  have stored : (changeStatus memory id status actor comment extra out).2 =
      (memory.setStatus id status actor comment extra).1 := by
    unfold changeStatus
    dsimp only
    split <;> rfl
  rw [stored]
  unfold MemoryRecStore.setStatus
  split
  · exact numbered
  · rename_i rec found
    have edited : (memory.recs.set id (extra.foldl Extra.setattr { rec with status := status })).Keyed
        MemoryRecommendation.id := Dict.Keyed.set numbered ((setattrs_id _ extra).trans (numbered id rec found))
    unfold NumberedRecs
    dsimp only
    split <;> rwa [MemoryRecStore.appendAuditUnlocked_recs]

theorem numbered_handleMemory (numbered : NumberedRecs memory) (id : Nat) (request : RouteRequest) :
    NumberedRecs (handleMemory memory id request).2 := by
  cases held : memory.get id with
  | none =>
    unfold handleMemory
    rw [held]
    exact numbered
  | some rec =>
    rw [handleMemory_held held]
    cases request with
    | feedback decision operator comment now =>
      dsimp only [memoryFeedback]
      split
      · exact numbered
      · split
        · exact numbered
        · exact numbered_changeStatus numbered _ _ _ _ _
    | simulate ctx model =>
      dsimp only [memorySimulate]
      split
      · exact numbered
      · exact Dict.Keyed.set numbered (numbered id rec held)
    | approve actor comment now =>
      dsimp only [memoryApprove]
      split
      · exact numbered
      · exact numbered_changeStatus numbered _ _ _ _ _
    | apply ctx actor dryRun now =>
      dsimp only [memoryApply]
      split
      · exact numbered
      · exact numbered_changeStatus numbered _ _ _ _ _
    | impact ctx live actor =>
      dsimp only [memoryImpact]
      split
      · exact numbered
      · exact numbered_changeStatus numbered _ _ _ _ _

theorem numbered_handle {server : RecServer} (numbered : NumberedRecs server.memory) (id : Nat) (request : RouteRequest) :
    NumberedRecs (handle server id request).2.memory := by
  unfold handle
  split
  · exact numbered_handleMemory numbered id request
  · exact numbered

end

section
variable {memory : MemoryReportStore}

theorem numbered_upsert (numbered : NumberedReports memory) (report : MemoryCarbonReport) :
    NumberedReports (memory.upsert report).2 := by
  unfold MemoryReportStore.upsert
  split
  · rename_i key existing found
    split
    · exact numbered
    · have own : (existing.refreshed report).id = key := numbered key existing (MemoryReportStore.sameReport_get found)
      exact Dict.Keyed.set numbered own
  · split
    · exact Dict.Keyed.set numbered rfl
    · exact Dict.Keyed.set numbered rfl

theorem numbered_generate (numbered : NumberedReports memory) (env : GenerateEnv) (plantCode : String)
    (periodType : Carbon.PeriodType) (completedOnly : Bool) :
    NumberedReports (generateMemoryReport env.ctx env.now env.demo plantCode periodType completedOnly memory).2 := by
  rcases generateMemoryReport_store env.ctx env.now env.demo plantCode periodType completedOnly memory with
    same | ⟨report, _, stored⟩
  · rwa [same]
  · rw [stored]
    exact numbered_upsert numbered report

theorem numbered_assurance {server : CarbonServer} (numbered : NumberedReports server.memory) (status : MemoryAssurance)
    (t : Carbon.Transition) (body : Carbon.AssuranceRequest) : NumberedReports (assurance status t server body).2.memory := by
  unfold assurance
  split
  · have stored : (memoryAssurance server.memory status body).2 =
        (server.memory.setAssurance body.reportId status body.actor).2 := by
      unfold memoryAssurance
      split <;> rename_i ended <;> rw [ended]
    dsimp only
    rw [stored]
    unfold MemoryReportStore.setAssurance
    split
    · exact numbered
    · rename_i report found
      refine Dict.Keyed.set numbered ?_
      rw [← numbered body.reportId report found]
      cases status <;> rfl
  · exact numbered

theorem numbered_served {server : CarbonServer} (numbered : NumberedReports server.memory) (reportId : Nat)
    (request : ReportRequest) : NumberedReports (served reportId server request).memory := by
  cases request with
  | submit actor comment now => exact numbered_assurance numbered .submitted _ _
  | approve actor comment now => exact numbered_assurance numbered .approved _ _
  | lock actor comment now => exact numbered_assurance numbered .locked _ _
  | regenerate env plantCode periodType completedOnly =>
    show NumberedReports (generateReport env plantCode periodType completedOnly server).2.memory
    unfold generateReport
    split
    · exact numbered
    · split
      · exact numbered_generate numbered env plantCode periodType completedOnly
      · exact numbered

end

/-- Both memories of a server. -/
def Numbered (w : IdServer) : Prop := NumberedRecs w.recs.memory ∧ NumberedReports w.reports.memory

theorem numbered_step (w : IdServer) (action : IdAction) (numbered : Numbered w) : Numbered (w.step action) := by
  obtain ⟨recs, reports⟩ := numbered
  cases action with
  | recDb op => exact ⟨recs, reports⟩
  | recMemory now adviceItems simulations => exact ⟨numbered_persist now adviceItems simulations recs, reports⟩
  | recRoute id request => exact ⟨numbered_handle recs id request, reports⟩
  | recDrawn => exact ⟨recs, reports⟩
  | reportDb op => exact ⟨recs, reports⟩
  | reportMemory env plantCode periodType completedOnly =>
    exact ⟨recs, numbered_generate reports env plantCode periodType completedOnly⟩
  | reportRoute id request => exact ⟨recs, numbered_served reports id request⟩
  | reportDrawn => exact ⟨recs, reports⟩

theorem numbered_run (plants : Dict String Nat) (readings : List Carbon.SensorReading) (actions : List IdAction) :
    Numbered (run IdServer.step (.start plants readings) actions) :=
  run_invariant numbered_step ⟨Dict.Keyed.empty _, Dict.Keyed.empty _⟩

theorem aboveBases_run (plants : Dict String Nat) (readings : List Carbon.SensorReading) (actions : List IdAction) :
    AboveBases (run IdServer.step (.start plants readings) actions) := by
  refine run_invariant aboveBases_step ⟨⟨le_rfl, ?_⟩, le_rfl, ?_⟩ <;> exact fun id held => absurd (Dict.get?_empty id) held

/-! ### Listed recommendations -/

section
variable {server : RecServer} {cfg : Settings} {reachable : Bool} {plantCode status : Option String} {limit : Nat}

def PassesBoth (plantCode status : Option String) (code : String) (state : RecStatus) : Prop :=
  Passes plantCode code ∧ Passes status state.text

instance (plantCode status : Option String) (code : String) (state : RecStatus) :
    Decidable (PassesBoth plantCode status code state) := inferInstanceAs (Decidable (_ ∧ _))

theorem mem_listRecommendations {row : Nat × OptimizationRecommendation}
    (listed : row ∈ listRecommendations server.db plantCode status limit) :
    getRecommendation server.db row.1 = some row.2 ∧ PassesBoth plantCode status row.2.plantCode row.2.status := by
  obtain ⟨stored, wanted⟩ := List.mem_filter.mp (mem_orderBy.mp (List.mem_of_mem_take listed))
  exact ⟨Table.mem_rows.mp stored, of_decide_eq_true wanted⟩

theorem memoryList_eq (memory : MemoryRecStore) (plantCode status : Option String) (limit : Nat) :
    memory.list plantCode status limit = (orderBy (fun rec => -rec.createdAt)
      (memory.recs.values.filter fun rec => PassesBoth plantCode status rec.plantCode rec.status)).take limit := by
  unfold MemoryRecStore.list
  dsimp only
  rw [List.filter_filter, filter_orderBy]
  congr 3
  funext rec
  exact (Bool.and_comm _ _).trans (Bool.decide_and _ _).symm

theorem mem_memoryList {rec : MemoryRecommendation} (numbered : NumberedRecs server.memory)
    (listed : rec ∈ server.memory.list plantCode status limit) :
    server.memory.get rec.id = some rec ∧ PassesBoth plantCode status rec.plantCode rec.status := by
  rw [memoryList_eq] at listed
  obtain ⟨stored, wanted⟩ := List.mem_filter.mp (mem_orderBy.mp (List.mem_of_mem_take listed))
  obtain ⟨key, found⟩ := (Dict.mem_values _).mp stored
  refine ⟨?_, of_decide_eq_true wanted⟩
  rw [numbered key rec found]
  exact found

theorem shownRec_db {id : Nat} {row : OptimizationRecommendation} (below : id < idBase)
    (found : getRecommendation server.db id = some row) : shownRec id server = some (rowToAdvice id row) := by
  unfold shownRec
  rw [if_neg (by simpa [isMemoryId] using below), found, Option.map_some]

theorem shownRec_memory {id : Nat} {rec : MemoryRecommendation} (above : idBase ≤ id)
    (found : server.memory.get id = some rec) : shownRec id server = some (memoryRowToAdvice rec) := by
  unfold shownRec
  rw [if_pos (by simpa [isMemoryId] using above), found, Option.map_some]

theorem mem_getRecommendations {limit : PageLimit 200} {out : SetpointAdviceOut}
    (listed : out ∈ getRecommendations cfg reachable plantCode status limit server) :
    (∃ row ∈ listRecommendations server.db plantCode status limit.rows, rowToAdvice row.1 row.2 = out) ∨
      ∃ rec ∈ server.memory.list plantCode status limit.rows, memoryRowToAdvice rec = out := by
  have stored : ∀ row ∈ if reachable then listRecommendations server.db plantCode status limit.rows else [],
      row ∈ listRecommendations server.db plantCode status limit.rows := by
    intro row member
    split at member
    · exact member
    · cases member
  unfold getRecommendations at listed
  generalize (if reachable then listRecommendations server.db plantCode status limit.rows else []) = rows at listed stored
  dsimp only at listed
  split at listed
  · exact .inr (List.mem_map.mp listed)
  · obtain ⟨row, member, same⟩ := List.mem_map.mp listed
    exact .inl ⟨row, stored row member, same⟩

/-- What a listing of recommendations shows: each record as its own routes show it, of the plant and status asked for; and
every record of the store that answers for which the limit leaves room. -/
structure ListsRecs (cfg : Settings) (reachable : Bool) (plantCode status : Option String) (limit : PageLimit 200)
    (server : RecServer) : Prop where
  held : server.db.recommendations.nextId ≤ idBase →
    ∀ out ∈ getRecommendations cfg reachable plantCode status limit server, shownRec out.id server = some out
  passes : ∀ out ∈ getRecommendations cfg reachable plantCode status limit server,
    PassesBoth plantCode status out.advice.plantCode out.status
  stored : reachable = true → ∀ id row, getRecommendation server.db id = some row →
    PassesBoth plantCode status row.plantCode row.status →
    (server.db.recommendations.rows.countP fun other =>
      PassesBoth plantCode status other.2.plantCode other.2.status ∧ row.createdAt ≤ other.2.createdAt) ≤ limit.rows →
    rowToAdvice id row ∈ getRecommendations cfg reachable plantCode status limit server
  remembered : cfg.allowDemoMemory = true →
    (reachable = true → ∀ id row, getRecommendation server.db id = some row →
      ¬PassesBoth plantCode status row.plantCode row.status) →
    ∀ id rec, server.memory.get id = some rec → PassesBoth plantCode status rec.plantCode rec.status →
    (server.memory.recs.values.countP fun other =>
      PassesBoth plantCode status other.plantCode other.status ∧ rec.createdAt ≤ other.createdAt) ≤ limit.rows →
    memoryRowToAdvice rec ∈ getRecommendations cfg reachable plantCode status limit server

theorem few_filter {α : Type} {rows : List α} {keep : α → Prop} [DecidablePred keep] {time : α → Int} {x : α}
    (few : (rows.countP fun other => keep other ∧ time x ≤ time other) ≤ limit) :
    (rows.filter fun other => keep other).countP (fun other => decide (-time other ≤ -time x)) ≤ limit := by
  rw [List.countP_filter]
  refine (List.countP_mono_left fun other _ both => ?_).trans few
  simp only [Bool.and_eq_true, decide_eq_true_eq, neg_le_neg_iff] at both ⊢
  exact both.symm

theorem listsRecs (numbered : NumberedRecs server.memory) (above : ∀ id, server.InMemory id → idBase ≤ id)
    (limit : PageLimit 200) : ListsRecs cfg reachable plantCode status limit server := by
  refine ⟨fun room out listed => ?_, fun out listed => ?_, fun reached id row found wanted few => ?_,
    fun allowed nothing id rec found wanted few => ?_⟩
  · rcases mem_getRecommendations listed with ⟨row, member, rfl⟩ | ⟨rec, member, rfl⟩
    · have found := (mem_listRecommendations member).1
      exact shownRec_db ((Table.find?_lt found).trans_le room) found
    · have found := (mem_memoryList numbered member).1
      exact shownRec_memory (above rec.id (by simp [RecServer.InMemory, MemoryRecStore.Holds, found])) found
  · rcases mem_getRecommendations listed with ⟨row, member, rfl⟩ | ⟨rec, member, rfl⟩
    · exact (mem_listRecommendations member).2
    · exact (mem_memoryList numbered member).2
  · have listed : (id, row) ∈ listRecommendations server.db plantCode status limit.rows := by
      refine mem_take_orderBy (List.mem_filter.mpr ⟨Table.mem_rows.mpr found, decide_eq_true wanted⟩) ?_
      exact few_filter few
    unfold getRecommendations
    dsimp only
    rw [if_pos reached, if_neg fun both => List.ne_nil_of_mem listed both.1]
    exact List.mem_map.mpr ⟨(id, row), listed, rfl⟩
  · have none_ : (if reachable then listRecommendations server.db plantCode status limit.rows else []) = [] := by
      split
      · rename_i reached
        refine List.eq_nil_iff_forall_not_mem.mpr fun row member => ?_
        obtain ⟨stored, wantedRow⟩ := mem_listRecommendations member
        exact nothing reached row.1 row.2 stored wantedRow
      · rfl
    have listed : rec ∈ server.memory.list plantCode status limit.rows := by
      rw [memoryList_eq]
      have stored : rec ∈ server.memory.recs.values := (Dict.mem_values _).mpr ⟨id, found⟩
      exact mem_take_orderBy (List.mem_filter.mpr ⟨stored, decide_eq_true wanted⟩) (few_filter few)
    unfold getRecommendations
    dsimp only
    rw [if_pos ⟨none_, allowed⟩]
    exact List.mem_map.mpr ⟨rec, listed, rfl⟩

end

/-! ### Listed reports -/

section
open Carbon (CarbonDb CarbonReport PeriodType)
variable {server : CarbonServer} {plantCode : Option String} {periodType : Option PeriodType}

def ReportPasses (plantCode : Option String) (periodType : Option PeriodType) (code : String) (period : PeriodType) : Prop :=
  (plantCode.getD "" = "" ∨ plantCode = some code) ∧ (periodType = none ∨ periodType = some period)

theorem mem_storedReports {env : ReadEnv} {limit : Nat} {db : CarbonDb} {row : Nat × CarbonReport × String}
    (listed : row ∈ storedReports env plantCode periodType limit db) :
    row.1 < db.reports.nextId ∧ Carbon.getReport db row.1 = some row.2 ∧
      ReportPasses plantCode periodType row.2.2 row.2.1.periodType := by
  unfold storedReports at listed
  split at listed
  · obtain ⟨joined, wanted⟩ := List.mem_filter.mp (List.mem_mergeSort.mp (List.mem_of_mem_take listed))
    have found := mem_joinedReports joined
    refine ⟨Table.find?_lt (getReport_find? found), found, ?_⟩
    simpa only [ReportPasses, decide_eq_true_eq] using wanted
  · cases listed

theorem demoReports_found {env : GenerateEnv} {limit : Nat} {memory : MemoryReportStore} (positive : 1 ≤ limit)
    (numbered : NumberedReports memory)
    (above : reportIdBase ≤ memory.nextId ∧ ∀ id, memory.Holds id → reportIdBase ≤ id) {rows : List MemoryCarbonReport}
    (answered : (demoReports env plantCode periodType limit memory).1 = .ok rows) :
    ∀ report ∈ rows, reportIdBase ≤ report.id ∧
      (demoReports env plantCode periodType limit memory).2.get report.id = some report ∧
      ReportPasses plantCode periodType report.plantCode report.periodType := by
  have remembered : ∀ report ∈ memory.list plantCode periodType limit, reportIdBase ≤ report.id ∧
      memory.get report.id = some report ∧ ReportPasses plantCode periodType report.plantCode report.periodType := by
    intro report listed
    obtain ⟨stored, wanted⟩ := mem_list listed
    obtain ⟨key, found⟩ := (Dict.mem_values _).mp stored
    rw [numbered key report found]
    refine ⟨above.2 key (by simp [MemoryReportStore.Holds, MemoryReportStore.get, found]), found, ?_⟩
    simpa only [ReportPasses, asked, decide_eq_true_eq] using wanted
  unfold demoReports at answered ⊢
  cases listed : memory.list plantCode periodType limit with
  | cons first rest =>
    rw [listed] at answered remembered
    cases answered
    exact remembered
  | nil =>
    rw [listed] at answered
    cases known : Services.namedCode plantCode with
    | none =>
      rw [known] at answered
      cases answered
      intro report member
      cases member
    | some code =>
      rw [known] at answered
      obtain ⟨rfl, _⟩ := Option.filter_eq_some_iff.mp known
      dsimp only at answered ⊢
      have own := numbered_generate numbered env code (periodType.getD .daily) false
      rcases generateMemoryReport_new positive listed env.ctx env.now env.demo false with
        failed | ⟨made, plant, period, _, stored⟩
      · rw [failed] at answered
        cases answered
      · rw [stored] at answered own ⊢
        cases answered
        intro report member
        cases List.mem_singleton.mp member
        have found : (memory.reports.set memory.nextId made).get? memory.nextId = some made := Dict.get?_set_self _ _ _
        have passes : ReportPasses (some code) periodType made.plantCode made.periodType := by
          rw [plant, period]
          cases periodType <;> simp [ReportPasses]
        rw [own memory.nextId made found]
        exact ⟨above.1, found, passes⟩

/-- Each listed report is one that was asked for, and the routes of a single report find it under its id as it is
listed. -/
theorem listed_shown {env : ReadEnv} {limit : PageLimit 500} {rows : List CarbonReportOut}
    (numbered : NumberedReports server.memory)
    (above : reportIdBase ≤ server.memory.nextId ∧ ∀ id, server.InMemory id → reportIdBase ≤ id)
    (answered : (getReports env plantCode periodType limit server).1 = .ok rows) :
    ∀ out ∈ rows, ReportPasses plantCode periodType out.plantCode out.periodType ∧
      (server.db.reports.nextId ≤ reportIdBase →
        shown out.id (getReports env plantCode periodType limit server).2 = some out) := by
  unfold getReports at answered ⊢
  cases stored : storedReports env plantCode periodType limit.rows server.db with
  | cons first rest =>
    rw [stored] at answered
    cases answered
    intro out listed
    obtain ⟨row, member, rfl⟩ := List.mem_map.mp listed
    obtain ⟨below, found, passes⟩ := mem_storedReports (stored ▸ member)
    refine ⟨passes, fun room => ?_⟩
    show shown row.1 server = _
    unfold shown
    rw [if_neg (by simpa [isMemoryReportId] using below.trans_le room), found]
    rfl
  | nil =>
    rw [stored] at answered
    dsimp only at answered ⊢
    by_cases allowed : env.generate.ctx.cfg.allowDemoMemory = true
    · rw [if_pos allowed] at answered ⊢
      dsimp only at answered ⊢
      cases made : (demoReports env.generate plantCode periodType limit.rows server.memory).1 with
      | error raised =>
        rw [made] at answered
        cases answered
      | ok reports =>
        rw [made] at answered
        cases answered
        intro out listed
        obtain ⟨report, member, rfl⟩ := List.mem_map.mp listed
        obtain ⟨own, found, passes⟩ := demoReports_found limit.positive numbered above made report member
        refine ⟨passes, fun _ => ?_⟩
        show shown report.id _ = _
        unfold shown
        rw [if_pos (by simpa [isMemoryReportId] using own), found]
        rfl
    · rw [if_neg allowed] at answered
      cases answered
      exact fun out listed => nomatch listed

end

/-- In every reachable state both listings show records that were asked for, as their own routes find them while the
database numbers its rows below the ids of the memories, and a listing of recommendations shows all that it has room
for. -/
theorem listed_as_held (plants : Dict String Nat) (readings : List Carbon.SensorReading) (actions : List IdAction) :
    let w := run IdServer.step (.start plants readings) actions
    (∀ cfg reachable plantCode status limit, ListsRecs cfg reachable plantCode status limit w.recs) ∧
      ∀ env plantCode periodType limit rows, (getReports env plantCode periodType limit w.reports).1 = .ok rows →
        ∀ out ∈ rows, ReportPasses plantCode periodType out.plantCode out.periodType ∧
          (w.reports.db.reports.nextId ≤ reportIdBase →
            shown out.id (getReports env plantCode periodType limit w.reports).2 = some out) := by
  intro w
  have numbered : Numbered w := numbered_run plants readings actions
  have above : AboveBases w := aboveBases_run plants readings actions
  exact ⟨fun _ _ _ _ limit => listsRecs numbered.1 above.recs.2 limit,
    fun _ _ _ _ _ answered => listed_shown numbered.2 above.reports answered⟩

end Iems.Api
