import Iems.Api.Reports
import Iems.Carbon.AssuranceTrail

/-! The assurance of a report in memory against the assurance of the same report in the database. -/
namespace Iems.Api
open Lib Iems.Carbon Iems.Demo

/-- The name that the memory path has for a status. -/
def memoryStage : AssuranceStatus → MemoryAssurance
  | .draft => .draft
  | .inReview => .submitted
  | .approved => .approved
  | .locked => .locked

def ReportRequest.change (reportId : Nat) : ReportRequest → Option (Transition × AssuranceRequest)
  | .submit actor comment now => some (submitTransition, { reportId, actor, comment, now })
  | .approve actor comment now => some (approveTransition, { reportId, actor, comment, now })
  | .lock actor comment now => some (lockTransition, { reportId, actor, comment, now })
  | .regenerate _ _ _ _ => none

/-! ### The data that a generation needs -/

def DbHasData (plants : Dict String Nat) (env : GenerateEnv) (plantCode : String) (periodType : PeriodType)
    (completedOnly : Bool) : Prop :=
  ∃ window plantId, periodWindow periodType env.now completedOnly = some window ∧
    plants.get? plantCode = some plantId ∧
      readingsIn env.readings plantId window.start.instant window.end_.instant ≠ []

def DemoHasData (env : GenerateEnv) (periodType : PeriodType) (completedOnly : Bool) : Prop :=
  env.ctx.cfg.allowDemoMemory = true ∧ ∃ window, periodWindow periodType env.now completedOnly = some window ∧
    (env.demo.history env.now.instant (windowMinutes window)).isSome = true

def YieldsReport (plants : Dict String Nat) (env : GenerateEnv) (plantCode : String) (periodType : PeriodType)
    (completedOnly : Bool) : Prop :=
  DbHasData plants env plantCode periodType completedOnly ∨ DemoHasData env periodType completedOnly

section
variable {env : GenerateEnv} {plantCode : String} {periodType : PeriodType} {completedOnly : Bool} {db : CarbonDb}

theorem prepareReport_isSome_iff (ctx : GenerateContext) (body : GenerateRequest) (db : CarbonDb) :
    (∃ p, prepareReport ctx body db = .ok (some p)) ↔
      ∃ window plantId, body.window = some window ∧ db.plants.get? body.plantCode = some plantId ∧
        readingsIn db.readings plantId window.start.instant window.end_.instant ≠ [] := by
  unfold prepareReport
  cases bounds : body.window with
  | none => simp
  | some window =>
    cases known : db.plants.get? body.plantCode with
    | none => simp
    | some plantId =>
      by_cases empty : readingsIn db.readings plantId window.start.instant window.end_.instant = []
      · simp [aggregateSensorPeriod, known, empty]
      · simp [aggregateSensorPeriod, known, empty]

theorem generateCommit_stored {body : GenerateRequest} {p : Prepared} {ctx : GenerateContext}
    (prepared : prepareReport ctx body db = .ok (some p)) :
    ∃ id report, (generateCommit body p db).1 = .ok id ∧ (generateCommit body p db).2.reports.find? id = some report := by
  obtain ⟨_, _, lookup⟩ := prepareReport_ok prepared
  unfold generateCommit
  split
  · rename_i id report existing
    obtain ⟨found, _⟩ := prepareReport_existing prepared existing
    split
    · exact ⟨id, report, rfl, found⟩
    · refine ⟨id, regenerateEdit p.figures report, rfl, ?_⟩
      show (saveReport db id report (regenerateEdit p.figures report)).reports.find? id = _
      rw [find?_saveReport_loaded found, if_pos rfl]
  · rename_i absent
    rw [← lookup, absent]
    refine ⟨db.reports.nextId, newReport body p, rfl, ?_⟩
    exact (Table.find?_insert _ _ _).trans (if_pos rfl)

theorem generatedInDb_isSome_iff :
    (generatedInDb env plantCode periodType completedOnly db).1.isSome = true ↔
      DbHasData db.plants env plantCode periodType completedOnly := by
  have data := prepareReport_isSome_iff env.ctx (env.request plantCode periodType completedOnly) (env.found db)
  unfold DbHasData
  refine Iff.trans ?_ data
  unfold generatedInDb generateAndPersistReport
  cases prepared : prepareReport env.ctx (env.request plantCode periodType completedOnly) (env.found db) with
  | error raised => simp
  | ok outcome =>
    cases outcome with
    | none => simp
    | some p =>
      obtain ⟨id, report, answered, stored⟩ := generateCommit_stored prepared
      cases committed : generateCommit (env.request plantCode periodType completedOnly) p (env.found db) with
      | mk outcome next =>
        rw [committed] at answered stored
        cases answered
        simp [committed, stored]

theorem generateReport_isSome_iff (server : CarbonServer) :
    (generateReport env plantCode periodType completedOnly server).1.isSome = true ↔
      YieldsReport server.db.plants env plantCode periodType completedOnly := by
  unfold YieldsReport
  rw [← generatedInDb_isSome_iff]
  unfold generateReport DemoHasData
  split
  · rename_i out next made
    simp [made]
  · rename_i next missing
    rw [missing]
    split
    · rename_i allowed
      simp [allowed, generateMemoryReport_isSome]
    · rename_i forbidden
      simp [forbidden]

end

/-! ### What a request does to the report it is about -/

/-- The status after a request that is let through. -/
def statusAfter (before : AssuranceStatus) : ReportRequest → AssuranceStatus
  | .submit _ _ _ => .inReview
  | .approve _ _ _ => .approved
  | .lock _ _ _ => .locked
  | .regenerate _ _ _ _ => before

/-- What the workflow lets through, and a generation that yields a report under both plant tables or under neither. -/
def LegalAt (here there : Dict String Nat) (before : AssuranceStatus) : ReportRequest → Prop
  | .submit _ _ _ => before = .draft ∨ before = .inReview
  | .approve _ _ _ => before = .inReview
  | .lock _ _ _ => before = .approved
  | .regenerate env plantCode periodType completedOnly =>
    YieldsReport here env plantCode periodType completedOnly ↔ YieldsReport there env plantCode periodType completedOnly

section
variable {reportId : Nat} {request : ReportRequest} {t : Transition} {body : AssuranceRequest} {server : CarbonServer}

theorem change_target (changes : request.change reportId = some (t, body)) (before : AssuranceStatus) :
    statusAfter before request = t.target ∧ body.reportId = reportId := by
  cases request <;> cases changes <;> exact ⟨rfl, rfl⟩

theorem change_legal (changes : request.change reportId = some (t, body)) (here there : Dict String Nat)
    (before : AssuranceStatus) : LegalAt here there before request ↔ before ∈ t.allowed := by
  cases request <;> cases changes <;> simp [LegalAt, submitTransition, approveTransition, lockTransition]

theorem serve_change (changes : request.change reportId = some (t, body)) (server : CarbonServer) :
    serve reportId server request =
      ((assurance (memoryStage t.target) t server body).1.toOption, (assurance (memoryStage t.target) t server body).2) := by
  cases request <;> cases changes <;> rfl

theorem assurance_memory (inMemory : isMemoryReportId body.reportId = true) {report : MemoryCarbonReport}
    (held : server.memory.get body.reportId = some report) (status : MemoryAssurance) :
    assurance status t server body = (.ok (memoryReportOut (report.signed status body.actor)),
      { server with memory := (server.memory.setAssurance body.reportId status body.actor).2 }) := by
  unfold assurance memoryAssurance
  rw [if_pos inMemory, MemoryReportStore.setAssurance_held held]

theorem getReport_find? {db : CarbonDb} {id : Nat} {report : CarbonReport} {plantCode : String}
    (found : getReport db id = some (report, plantCode)) : db.reports.find? id = some report := by
  obtain ⟨row, present, joined⟩ := Option.bind_eq_some_iff.mp found
  obtain ⟨_, _, same⟩ := Option.map_eq_some_iff.mp joined
  cases same
  exact present

/-- A report that changes without moving to another plant is still joined with its plant. -/
theorem getReport_changed {db next : CarbonDb} {id : Nat} {report changed : CarbonReport} {plantCode : String}
    (found : getReport db id = some (report, plantCode)) (plants : next.plants = db.plants)
    (stored : next.reports.find? id = some changed) (plant : changed.plantId = report.plantId) :
    getReport next id = some (changed, plantCode) := by
  obtain ⟨row, present, joined⟩ := Option.bind_eq_some_iff.mp found
  obtain ⟨entry, first, same⟩ := Option.map_eq_some_iff.mp joined
  cases same
  unfold getReport
  rw [stored, Option.bind_some, plants, plant, first, Option.map_some]

theorem transitionEdit_kept (changes : request.change reportId = some (t, body)) (report : CarbonReport) :
    (transitionEdit t body report).plantId = report.plantId ∧ (transitionEdit t body report).status = t.target := by
  cases request <;> cases changes <;> exact ⟨rfl, rfl⟩

theorem assurance_db (stored : isMemoryReportId reportId = false) (changes : request.change reportId = some (t, body))
    {report : CarbonReport} {plantCode : String} (found : getReport server.db reportId = some (report, plantCode)) :
    (report.status ∈ t.allowed ∧ grants reportId server request = true ∧
        getReport (served reportId server request).db reportId = some (transitionEdit t body report, plantCode)) ∨
      (report.status ∉ t.allowed ∧ grants reportId server request = false ∧ served reportId server request = server) := by
  have own := (change_target changes .draft).2
  unfold grants served
  rw [serve_change changes]
  unfold assurance dbAssurance runTransition transitionCheck
  rw [own, stored, found]
  by_cases allowed : report.status ∈ t.allowed
  · have joined : getReport (transitionCommit t body report server.db) reportId =
        some (transitionEdit t body report, plantCode) := by
      subst own
      refine getReport_changed found rfl ?_ (transitionEdit_kept changes report).1
      rw [transitionCommit_find? (getReport_find? found), if_pos rfl]
    refine Or.inl ⟨allowed, ?_, ?_⟩ <;> simp [allowed, joined, Except.toOption]
  · refine Or.inr ⟨allowed, ?_, ?_⟩ <;> simp [allowed, Except.toOption]

end

/-! ### What a generation does to a report -/

section
variable {reportId : Nat} {server : CarbonServer}

theorem generateReport_db (env : GenerateEnv) (plantCode : String) (periodType : PeriodType) (completedOnly : Bool)
    (server : CarbonServer) : (generateReport env plantCode periodType completedOnly server).2.db =
      exec (env.found server.db) (.generate env.ctx (env.request plantCode periodType completedOnly)) := by
  have committed : (generatedInDb env plantCode periodType completedOnly server.db).2 =
      (generateAndPersistReport env.ctx (env.request plantCode periodType completedOnly) (env.found server.db)).2 := by
    unfold generatedInDb
    split <;> rename_i ended <;> simp only [ended]
  refine Eq.trans ?_ committed
  unfold generateReport
  split <;> rename_i ended
  · rw [ended]
  · split <;> rw [ended]

theorem generateReport_memory (env : GenerateEnv) (plantCode : String) (periodType : PeriodType) (completedOnly : Bool)
    (server : CarbonServer) : (generateReport env plantCode periodType completedOnly server).2.memory = server.memory ∨
      (generateReport env plantCode periodType completedOnly server).2.memory =
        (generateMemoryReport env.ctx env.now env.demo plantCode periodType completedOnly server.memory).2 := by
  unfold generateReport
  split
  · exact Or.inl rfl
  · split
    · exact Or.inr rfl
    · exact Or.inl rfl

theorem generateReport_dbKept {report : CarbonReport} {plant : String}
    (found : getReport server.db reportId = some (report, plant)) (env : GenerateEnv) (plantCode : String)
    (periodType : PeriodType) (completedOnly : Bool) :
    ∃ next, getReport (generateReport env plantCode periodType completedOnly server).2.db reportId = some (next, plant) ∧
      next.status = report.status ∧ (report.status = .locked → next = report) := by
  rw [generateReport_db]
  obtain ⟨events, _, step⟩ := exec_report (env.found server.db)
    (.generate env.ctx (env.request plantCode periodType completedOnly)) reportId
  have plants := exec_plants (env.found server.db) (.generate env.ctx (env.request plantCode periodType completedOnly))
  generalize exec (env.found server.db) (.generate env.ctx (env.request plantCode periodType completedOnly)) = after
    at step plants ⊢
  have before : (env.found server.db).reports.find? reportId = some report := getReport_find? found
  rw [before] at step
  generalize stored : after.reports.find? reportId = row at step
  cases step with
  | same => exact ⟨report, getReport_changed found plants stored rfl, rfl, fun _ => rfl⟩
  | regenerated ctx body p report prepared own unlocked =>
    exact ⟨regenerateEdit p.figures report, getReport_changed found plants stored rfl, rfl,
      fun locked => absurd locked unlocked⟩
  | moved op t body report request own allowed => cases request

theorem generateReport_extends (env : GenerateEnv) (plantCode : String) (periodType : PeriodType) (completedOnly : Bool)
    (server : CarbonServer) :
    server.memory.Extends (generateReport env plantCode periodType completedOnly server).2.memory := by
  rcases generateReport_memory env plantCode periodType completedOnly server with same | made
  · rw [same]
    exact .refl _ _
  · rw [made]
    exact generateMemoryReport_extends env.ctx env.now env.demo plantCode periodType completedOnly server.memory

theorem generateReport_memoryKept {report : MemoryCarbonReport} (fresh : server.memory.Fresh)
    (held : server.memory.get reportId = some report) (env : GenerateEnv) (plantCode : String)
    (periodType : PeriodType) (completedOnly : Bool) :
    ∃ next, (generateReport env plantCode periodType completedOnly server).2.memory.get reportId = some next ∧
      next.assuranceStatus = report.assuranceStatus ∧ (report.assuranceStatus = .locked → next = report) := by
  rcases generateReport_memory env plantCode periodType completedOnly server with same | made
  · rw [same]
    exact ⟨report, held, rfl, fun _ => rfl⟩
  · rw [made]
    rcases generateMemoryReport_store env.ctx env.now env.demo plantCode periodType completedOnly server.memory with
      same | ⟨generated, unnumbered, upserted⟩
    · rw [same]
      exact ⟨report, held, rfl, fun _ => rfl⟩
    · rw [upserted]
      rcases MemoryReportStore.upsert_held fresh unnumbered held with kept | ⟨unlocked, edited⟩
      · exact ⟨report, kept, rfl, fun _ => rfl⟩
      · exact ⟨_, edited, rfl, fun locked => absurd locked unlocked⟩

end

/-! ### The two paths in step -/

section
variable {memoryId dbId : Nat} {here there : Dict String Nat}

/-- The report stands at one status in both stores, under the name that each has for it. -/
structure InStep (memoryId dbId : Nat) (here there : Dict String Nat) (status : AssuranceStatus) (s t : CarbonServer) :
    Prop where
  fresh : s.memory.Fresh
  held : ∃ report, s.memory.get memoryId = some report ∧ report.assuranceStatus = memoryStage status
  stored : ∃ report plantCode, getReport t.db dbId = some (report, plantCode) ∧ report.status = status
  here : s.db.plants = here
  there : t.db.plants = there

theorem serve_plants (reportId : Nat) (server : CarbonServer) (request : ReportRequest) :
    (served reportId server request).db.plants = server.db.plants := by
  cases change : request.change reportId with
  | none =>
    cases request with
    | regenerate env plantCode periodType completedOnly =>
      show (generateReport env plantCode periodType completedOnly server).2.db.plants = _
      rw [generateReport_db]
      exact exec_plants (env.found server.db) _
    | _ => cases change
  | some found =>
    obtain ⟨t, body⟩ := found
    unfold served
    rw [serve_change change]
    unfold assurance
    split
    · rfl
    · unfold dbAssurance runTransition
      cases checked : transitionCheck t body server.db with
      | error raised => rfl
      | ok report =>
        dsimp only
        split <;> rfl

theorem shown_memory (inMemory : isMemoryReportId memoryId = true) (server : CarbonServer) :
    shown memoryId server = (server.memory.get memoryId).map memoryReportOut := if_pos inMemory

theorem shown_db (stored : isMemoryReportId dbId = false) (server : CarbonServer) :
    shown dbId server = (getReport server.db dbId).map fun found => reportOut dbId found.1 found.2 := by
  unfold shown
  rw [stored]
  rfl

theorem change_other {reportId : Nat} {request : ReportRequest} {move : Transition} {body : AssuranceRequest}
    (changes : request.change reportId = some (move, body)) (other : Nat) :
    ∃ there, request.change other = some (move, there) := by
  cases request <;> cases changes <;> exact ⟨_, rfl⟩

theorem served_memory (inMemory : isMemoryReportId memoryId = true) {server : CarbonServer}
    {report : MemoryCarbonReport} (held : server.memory.get memoryId = some report) {request : ReportRequest}
    {move : Transition} {body : AssuranceRequest} (changes : request.change memoryId = some (move, body)) :
    grants memoryId server request = true ∧
      (served memoryId server request).memory =
        (server.memory.setAssurance memoryId (memoryStage move.target) body.actor).2 := by
  have own := (change_target changes .draft).2
  subst own
  unfold grants served
  rw [serve_change changes, assurance_memory inMemory held]
  exact ⟨rfl, rfl⟩

theorem inStep_change (inMemory : isMemoryReportId memoryId = true) (inDb : isMemoryReportId dbId = false)
    {status : AssuranceStatus} {s t : CarbonServer} (start : InStep memoryId dbId here there status s t)
    {request : ReportRequest} {move : Transition} {body : AssuranceRequest}
    (changes : request.change memoryId = some (move, body)) :
    grants memoryId s request = true ∧ (grants dbId t request = true ↔ LegalAt here there status request) ∧
      (LegalAt here there status request → InStep memoryId dbId here there (statusAfter status request)
        (served memoryId s request) (served dbId t request)) := by
  obtain ⟨report, held, _⟩ := start.held
  obtain ⟨row, plantCode, found, stands⟩ := start.stored
  obtain ⟨granted, signed⟩ := served_memory inMemory held changes
  obtain ⟨there_, sameMove⟩ := change_other changes dbId
  rw [(change_target changes status).1, change_legal changes here there status, ← stands]
  rcases assurance_db inDb sameMove found with ⟨allowed, accepted, joined⟩ | ⟨barred, refused, _⟩
  · refine ⟨granted, iff_of_true accepted allowed, fun _ => ?_⟩
    exact
      { fresh := by
          rw [signed]
          exact (s.memory.setAssurance_extends _ _ _).below start.fresh
        held := by
          rw [signed, MemoryReportStore.setAssurance_held held]
          exact ⟨_, Dict.get?_set_self _ _ _, signed_status _ _ _⟩
        stored := ⟨_, plantCode, joined, (transitionEdit_kept sameMove row).2⟩
        here := (serve_plants memoryId s request).trans start.here
        there := (serve_plants dbId t request).trans start.there }
  · refine ⟨granted, iff_of_false (by simp [refused]) barred, fun allowed => absurd allowed barred⟩

theorem inStep_regenerate {status : AssuranceStatus} {s t : CarbonServer}
    (start : InStep memoryId dbId here there status s t) (env : GenerateEnv) (plantCode : String)
    (periodType : PeriodType) (completedOnly : Bool) :
    InStep memoryId dbId here there status (served memoryId s (.regenerate env plantCode periodType completedOnly))
      (served dbId t (.regenerate env plantCode periodType completedOnly)) := by
  obtain ⟨report, held, stage⟩ := start.held
  obtain ⟨row, plant, found, stands⟩ := start.stored
  obtain ⟨kept, heldAfter, sameStage, _⟩ :=
    generateReport_memoryKept start.fresh held env plantCode periodType completedOnly
  obtain ⟨next, foundAfter, sameStatus, _⟩ := generateReport_dbKept found env plantCode periodType completedOnly
  exact
    { fresh := (generateReport_extends env plantCode periodType completedOnly s).below start.fresh
      held := ⟨kept, heldAfter, sameStage.trans stage⟩
      stored := ⟨next, plant, foundAfter, sameStatus.trans stands⟩
      here := (serve_plants memoryId s _).trans start.here
      there := (serve_plants dbId t _).trans start.there }

theorem paths_lockstep (here there : Dict String Nat) (inMemory : isMemoryReportId memoryId = true)
    (inDb : isMemoryReportId dbId = false) :
    Lockstep (served memoryId) (served dbId) (grants memoryId) (grants dbId) statusAfter (LegalAt here there)
      (InStep memoryId dbId here there) where
  keep := by
    intro status s t request start legal
    cases change : request.change memoryId with
    | none =>
      cases request with
      | regenerate env plantCode periodType completedOnly =>
        have yields : YieldsReport s.db.plants env plantCode periodType completedOnly ↔
            YieldsReport t.db.plants env plantCode periodType completedOnly := by
          rw [start.here, start.there]
          exact legal
        refine ⟨?_, inStep_regenerate start env plantCode periodType completedOnly⟩
        rw [Bool.eq_iff_iff]
        exact (generateReport_isSome_iff s).trans (yields.trans (generateReport_isSome_iff t).symm)
      | _ => cases change
    | some found =>
      obtain ⟨granted, accepted, kept⟩ := inStep_change inMemory inDb start change
      exact ⟨granted.trans (accepted.mpr legal).symm, kept legal⟩
  differ := by
    intro status s t request start illegal same
    cases change : request.change memoryId with
    | none =>
      cases request with
      | regenerate env plantCode periodType completedOnly =>
        apply illegal
        rw [Bool.eq_iff_iff] at same
        have yields := (generateReport_isSome_iff s).symm.trans (same.trans (generateReport_isSome_iff t))
        rw [start.here, start.there] at yields
        exact yields
      | _ => cases change
    | some found =>
      obtain ⟨granted, accepted, _⟩ := inStep_change inMemory inDb start change
      exact illegal (accepted.mp (same.symm.trans granted))

/-! ### A locked report -/

/-- Once it is shown as locked, a report is shown unchanged to the end of the requests. -/
def LockKept (reportId : Nat) (server : CarbonServer) (requests : List ReportRequest) : Prop :=
  ∀ before after out, requests = before ++ after → shown reportId (run (served reportId) server before) = some out →
    out.assuranceStatus = "locked" → shown reportId (run (served reportId) server requests) = some out

/-- Legal requests on a locked report change nothing of it in either store. -/
theorem locked_shown (inMemory : isMemoryReportId memoryId = true) (inDb : isMemoryReportId dbId = false)
    {s t : CarbonServer} {requests : List ReportRequest} (start : InStep memoryId dbId here there .locked s t)
    (legal : Meets statusAfter (LegalAt here there) .locked requests) :
    shown memoryId (run (served memoryId) s requests) = shown memoryId s ∧
      shown dbId (run (served dbId) t requests) = shown dbId t := by
  induction requests generalizing s t with
  | nil => exact ⟨rfl, rfl⟩
  | cons request rest ih =>
    cases request with
    | regenerate env plantCode periodType completedOnly =>
      obtain ⟨report, held, stage⟩ := start.held
      obtain ⟨row, plant, found, stands⟩ := start.stored
      obtain ⟨_, heldAfter, _, same⟩ := generateReport_memoryKept start.fresh held env plantCode periodType completedOnly
      obtain ⟨_, foundAfter, _, sameRow⟩ := generateReport_dbKept found env plantCode periodType completedOnly
      obtain ⟨inMemoryAfter, inDbAfter⟩ :=
        ih (inStep_regenerate start env plantCode periodType completedOnly) legal.2
      constructor
      · refine inMemoryAfter.trans ?_
        rw [shown_memory inMemory, shown_memory inMemory, held]
        unfold served serve
        rw [heldAfter, same stage]
      · refine inDbAfter.trans ?_
        rw [shown_db inDb, shown_db inDb, found]
        unfold served serve
        rw [foundAfter, sameRow stands]
    | submit actor comment now => rcases legal.1 with draft | review <;> cases ‹_ = _›
    | approve actor comment now => cases legal.1
    | lock actor comment now => cases legal.1

/-- The names of a status agree, but for the one that is in review. -/
theorem stage_text (inMemory inDb : AssuranceStatus) :
    (memoryStage inMemory).text = inDb.text ↔ inMemory = inDb ∧ inDb ≠ .inReview := by
  cases inMemory <;> cases inDb <;> decide

theorem inStep_shown (inMemory : isMemoryReportId memoryId = true) (inDb : isMemoryReportId dbId = false)
    {status : AssuranceStatus} {s t : CarbonServer} (start : InStep memoryId dbId here there status s t) :
    (shown memoryId s).map (·.assuranceStatus) = some (memoryStage status).text ∧
      (shown dbId t).map (·.assuranceStatus) = some status.text := by
  obtain ⟨report, held, stage⟩ := start.held
  obtain ⟨row, plantCode, found, stands⟩ := start.stored
  rw [shown_memory inMemory, shown_db inDb, held, found, ← stage, ← stands]
  exact ⟨rfl, rfl⟩

theorem lockKept_both (inMemory : isMemoryReportId memoryId = true) (inDb : isMemoryReportId dbId = false)
    {status : AssuranceStatus} {s t : CarbonServer} {requests : List ReportRequest}
    (start : InStep memoryId dbId here there status s t)
    (legal : Meets statusAfter (LegalAt here there) status requests) :
    LockKept memoryId s requests ∧ LockKept dbId t requests := by
  have lockstep := paths_lockstep here there inMemory inDb
  constructor
  · rintro before after out rfl showing locked
    obtain ⟨early, late⟩ := meets_append.mp legal
    have reached := lockstep.run_matched early start
    have text := (inStep_shown inMemory inDb reached).1
    rw [showing, Option.map_some, locked, Option.some.injEq] at text
    have stands := ((stage_text _ .locked).mp text.symm).1
    rw [stands] at reached late
    rw [run_append, (locked_shown inMemory inDb reached late).1, showing]
  · rintro before after out rfl showing locked
    obtain ⟨early, late⟩ := meets_append.mp legal
    have reached := lockstep.run_matched early start
    have text := (inStep_shown inMemory inDb reached).2
    rw [showing, Option.map_some, locked, Option.some.injEq] at text
    have stands := ((stage_text .locked _).mp text).1
    rw [← stands] at reached late
    rw [run_append, (locked_shown inMemory inDb reached late).2, showing]

/-- The requests have the same outcomes and lead to the same status in memory and in the database, and a locked
report stays as it is. -/
structure PathsAgree (memoryId dbId : Nat) (s t : CarbonServer) (requests : List ReportRequest) : Prop where
  outcomes : answers (served memoryId) (grants memoryId) s requests = answers (served dbId) (grants dbId) t requests
  status : (shown memoryId (run (served memoryId) s requests)).map (·.assuranceStatus) =
    (shown dbId (run (served dbId) t requests)).map (·.assuranceStatus)
  memoryKept : LockKept memoryId s requests
  dbKept : LockKept dbId t requests

/-- The memory path checks no status and names one of the four differently: it agrees with the database exactly on the
requests that the workflow lets through and that do not end in review. -/
theorem pathsAgree_iff (inMemory : isMemoryReportId memoryId = true) (inDb : isMemoryReportId dbId = false)
    {status : AssuranceStatus} {s t : CarbonServer} (start : InStep memoryId dbId s.db.plants t.db.plants status s t)
    (requests : List ReportRequest) : PathsAgree memoryId dbId s t requests ↔
      Meets statusAfter (LegalAt s.db.plants t.db.plants) status requests ∧
        run statusAfter status requests ≠ .inReview := by
  have lockstep := paths_lockstep s.db.plants t.db.plants inMemory inDb
  have final : Meets statusAfter (LegalAt s.db.plants t.db.plants) status requests →
      ((shown memoryId (run (served memoryId) s requests)).map (·.assuranceStatus) =
          (shown dbId (run (served dbId) t requests)).map (·.assuranceStatus) ↔
        run statusAfter status requests ≠ .inReview) := by
    intro legal
    obtain ⟨inMemoryText, inDbText⟩ := inStep_shown inMemory inDb (lockstep.run_matched legal start)
    rw [inMemoryText, inDbText, Option.some.injEq, stage_text]
    simp
  constructor
  · intro agree
    have legal := (lockstep.answers_iff start).mp agree.outcomes
    exact ⟨legal, (final legal).mp agree.status⟩
  · rintro ⟨legal, settled⟩
    obtain ⟨memoryKept, dbKept⟩ := lockKept_both inMemory inDb start legal
    exact ⟨(lockstep.answers_iff start).mpr legal, (final legal).mpr settled, memoryKept, dbKept⟩

end

/-- A generation of one day, with one reading in the sensor table and one from the reader. -/
def sampleSurroundings : GenerateEnv where
  ctx := sampleFactors
  now := sampleGenerate.now
  readings := [olefinSample sampleDay.instant 10]
  demo := ⟨[], some ⟨sampleDay.instant, some 15, some 10, some 30, some 100⟩⟩

def sampleRegenerate : ReportRequest := .regenerate sampleSurroundings "olefin" .daily true

/-- A server whose database knows no plant makes the report in memory, one that knows it in the database. -/
def demoServer : CarbonServer := served reportIdBase ⟨.empty, .start .empty []⟩ sampleRegenerate

def plantServer : CarbonServer := served 1 ⟨.empty, .start olefinPlants []⟩ sampleRegenerate

def sampleAssurance : List ReportRequest :=
  [.submit "analyst" none 1, .approve "lead" none 2, .lock "controller" none 3]

theorem servers_inStep : InStep reportIdBase 1 demoServer.db.plants plantServer.db.plants .draft demoServer plantServer := by
  have held : (demoServer.memory.get reportIdBase).map (·.assuranceStatus) = some .draft := by decide +kernel
  have found : (getReport plantServer.db 1).map (·.1.status) = some .draft := by decide +kernel
  obtain ⟨report, inMemory, stage⟩ := Option.map_eq_some_iff.mp held
  obtain ⟨⟨row, plantCode⟩, inDb, stands⟩ := Option.map_eq_some_iff.mp found
  exact
    { fresh := (generateReport_extends _ _ _ _ ⟨.empty, .start .empty []⟩).below MemoryReportStore.empty_fresh
      held := ⟨report, inMemory, stage⟩
      stored := ⟨row, plantCode, inDb, stands⟩
      here := rfl
      there := rfl }

theorem pathsAgree_lock : PathsAgree reportIdBase 1 demoServer plantServer sampleAssurance :=
  (pathsAgree_iff (by decide) (by decide) servers_inStep sampleAssurance).mpr
    ⟨⟨Or.inl rfl, rfl, rfl, trivial⟩, by decide⟩

/-- A locked report in memory is submitted again, one in the database is not. -/
theorem locked_reopens : ¬ ∀ (memoryId dbId : Nat) (s t : CarbonServer) (requests : List ReportRequest),
    isMemoryReportId memoryId = true → isMemoryReportId dbId = false →
      InStep memoryId dbId s.db.plants t.db.plants .draft s t → PathsAgree memoryId dbId s t requests := by
  intro agree
  have outcomes := (agree reportIdBase 1 demoServer plantServer (sampleAssurance ++ [.submit "analyst" none 4])
    (by decide) (by decide) servers_inStep).outcomes
  have legal := ((paths_lockstep _ _ (by decide) (by decide)).answers_iff servers_inStep).mp outcomes
  obtain ⟨_, _, _, again, _⟩ := legal
  rcases again with draft | review <;> cases ‹_ = _›

end Iems.Api
