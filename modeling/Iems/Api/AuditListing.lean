import Iems.Api.AssurancePath
import Iems.Api.IdRouting
import Iems.Lib.Newest
import Mathlib.Data.Prod.Lex

/-! The audit trail of a recommendation and the assurance trail of a report, as their endpoints list them. -/
namespace Iems.Api
open Lib Iems.Optimization Iems.Demo

inductive AuditEventOut where
  | stored (id : Nat) (event : RecommendationAuditEvent)
  | remembered (event : MemoryAuditEvent)

/-- `ORDER BY created_at ASC`: `createdAt` is the time that each event id was written with, and events of one time come in
an order of the database's own. -/
def oldestFirst {α : Type} (createdAt : ℕ → ℤ) (ties : ℕ ↪ ℕ) (row : Nat × α) : ℤ ×ₗ ℕ := toLex (createdAt row.1, ties row.1)

def listAuditEvents (createdAt : ℕ → ℤ) (ties : ℕ ↪ ℕ) (db : RecStore) (recommendationId : Nat) :
    List (Nat × RecommendationAuditEvent) :=
  (orderBy (oldestFirst createdAt ties)
    (db.auditEvents.rows.filter fun row => row.2.recommendationId = recommendationId)).take 100

def memoryListAudit (memory : MemoryRecStore) (recommendationId : Nat) : List MemoryAuditEvent :=
  (memory.audit.filter fun event => event.recommendationId = recommendationId).take 100

/-- `GET /recommendations/{recommendation_id}/audit`. -/
def audit (createdAt : ℕ → ℤ) (ties : ℕ ↪ ℕ) (server : RecServer) (recommendationId : Nat) :
    Except HttpError (List AuditEventOut) :=
  if isMemoryId recommendationId then
    match server.memory.get recommendationId with
    | none => .error recommendationNotFound
    | some _ => .ok ((memoryListAudit server.memory recommendationId).map .remembered)
  else
    match getRecommendation server.db recommendationId with
    | none => .error recommendationNotFound
    | some _ => .ok ((listAuditEvents createdAt ties server.db recommendationId).map fun row => .stored row.1 row.2)

def listAssuranceEvents (createdAt : ℕ → ℤ) (ties : ℕ ↪ ℕ) (db : Carbon.CarbonDb) (reportId : Nat) :
    List (Nat × Carbon.AssuranceEvent) :=
  (orderBy (oldestFirst createdAt ties)
    (db.assuranceEvents.rows.filter fun row => row.2.reportId = reportId)).take 100

/-- `GET /reports/{report_id}/assurance`; it looks into the database only. -/
def assuranceTrail (createdAt : ℕ → ℤ) (ties : ℕ ↪ ℕ) (server : CarbonServer) (reportId : Nat) :
    Except HttpError (List (Nat × Carbon.AssuranceEvent)) :=
  match Carbon.getReport server.db reportId with
  | none => .error reportNotFound
  | some _ => .ok (listAssuranceEvents createdAt ties server.db reportId)

/-! ### The events of one record -/

def auditRows (db : RecStore) (id : Nat) : List (Nat × RecommendationAuditEvent) :=
  db.auditEvents.rows.filter fun row => row.2.recommendationId = id

def memoryEvents (memory : MemoryRecStore) (id : Nat) : List MemoryAuditEvent :=
  memory.audit.filter fun event => event.recommendationId = id

def assuranceRows (db : Carbon.CarbonDb) (id : Nat) : List (Nat × Carbon.AssuranceEvent) :=
  db.assuranceEvents.rows.filter fun row => row.2.reportId = id

/-- The rows stand as the query lists them: by their times, and in the database's order where the times are the same. -/
def InOrder {α : Type} (createdAt : ℕ → ℤ) (ties : ℕ ↪ ℕ) (rows : List (Nat × α)) : Prop :=
  rows.Pairwise fun x y => createdAt x.1 < createdAt y.1 ∨ createdAt x.1 = createdAt y.1 ∧ ties x.1 ≤ ties y.1

theorem inOrder_iff {α : Type} {createdAt : ℕ → ℤ} {ties : ℕ ↪ ℕ} {rows : List (Nat × α)} : InOrder createdAt ties rows ↔
    rows.Pairwise fun x y => oldestFirst createdAt ties x ≤ oldestFirst createdAt ties y := by
  unfold InOrder oldestFirst
  simp only [Prod.Lex.toLex_le_toLex]

theorem listed_inOrder_iff {α : Type} {createdAt : ℕ → ℤ} {ties : ℕ ↪ ℕ} (rows : List (Nat × α)) :
    rows <+: (orderBy (oldestFirst createdAt ties) rows).take 100 ↔ rows.length ≤ 100 ∧ InOrder createdAt ties rows := by
  rw [inOrder_iff]
  exact prefix_listing_iff _ _

/-- What the endpoint shows begins with the events that a log had at any time of the run, in their order. -/
def ShowsAll {α : Type} (events : IdServer → List α) (start : IdServer) (actions : List IdAction)
    (answer : Except HttpError (List α)) : Prop :=
  ∀ before after, actions = before ++ after → events (run IdServer.step start before) <+: answer.toOption.getD []

/-! ### The logs only grow -/

theorem exec_appends (db : RecStore) (op : RecOp) : db.auditEvents.rows <+: (exec db op).auditEvents.rows := by
  have inserted : ∀ event, db.auditEvents.rows <+: (db.auditEvents.insert event).rows := fun event => List.prefix_append _ _
  cases op with
  | persist now adviceItems simulations =>
    show _ <+: (db.auditEvents.insertAll _).2.rows
    rw [Table.rows_insertAll]
    exact List.prefix_append _ _
  | feedback body =>
    show _ <+: (submitFeedback body db).2.auditEvents.rows
    unfold submitFeedback
    split
    · exact List.prefix_rfl
    · exact inserted _
  | simulate ctx recommendationId model =>
    show _ <+: (simulateRecommendation ctx recommendationId model db).2.auditEvents.rows
    unfold simulateRecommendation
    split
    · exact List.prefix_rfl
    · split <;> exact List.prefix_rfl
  | approve body =>
    show _ <+: (approveRecommendation body db).2.auditEvents.rows
    unfold approveRecommendation
    split
    · exact List.prefix_rfl
    · exact inserted _
  | apply ctx body =>
    show _ <+: (applyRecommendation ctx body db).db.auditEvents.rows
    unfold applyRecommendation
    split
    · exact List.prefix_rfl
    · simp only [applyCommit]
      split
      · split
        · exact List.prefix_rfl
        · exact inserted _
      · exact List.prefix_rfl
      · split
        · exact List.prefix_rfl
        · exact inserted _
  | impact ctx body =>
    show _ <+: (measureImpact ctx body db).2.auditEvents.rows
    unfold measureImpact
    split
    · exact List.prefix_rfl
    · dsimp only
      split
      · exact List.prefix_rfl
      · exact inserted _

theorem appendAuditUnlocked_appends {store : MemoryRecStore} {events : List MemoryAuditEvent} (held : store.audit = events)
    (id : Nat) (eventType actor : String) (detail : List (String × DetailValue)) :
    events <+: (store.appendAuditUnlocked id eventType actor detail).1.audit := by
  subst held
  unfold MemoryRecStore.appendAuditUnlocked
  dsimp only
  split
  · exact List.prefix_rfl
  · exact List.prefix_append _ _

theorem persist_appends (now : Int) (adviceItems : List SetpointAdvice) (simulations : Dict String AdviceSimulation)
    (store : MemoryRecStore) : store.audit <+: (store.persist now adviceItems simulations).audit := by
  unfold MemoryRecStore.persist
  induction adviceItems generalizing store with
  | nil => exact List.prefix_rfl
  | cons advice rest ih =>
    have first : store.audit <+: (store.persistOne now simulations advice).audit := by
      apply appendAuditUnlocked_appends
      rfl
    exact first.trans (ih _)

theorem changeStatus_appends (memory : MemoryRecStore) (id : Nat) (status : RecStatus) (actor : String)
    (comment : Option String) (extra : List Extra) (out : MemoryRecommendation → RouteOut) :
    memory.audit <+: (changeStatus memory id status actor comment extra out).2.audit := by
  have changed : memory.audit <+: (memory.setStatus id status actor comment extra).1.audit := by
    unfold MemoryRecStore.setStatus
    split
    · exact List.prefix_rfl
    · dsimp only
      split
      · apply appendAuditUnlocked_appends
        rfl
      · apply appendAuditUnlocked_appends
        rfl
  unfold changeStatus
  dsimp only
  split <;> exact changed

theorem handleMemory_appends (memory : MemoryRecStore) (id : Nat) (request : RouteRequest) :
    memory.audit <+: (handleMemory memory id request).2.audit := by
  cases held : memory.get id with
  | none =>
    unfold handleMemory
    exact held ▸ List.prefix_rfl
  | some rec =>
    rw [handleMemory_held held]
    cases request with
    | feedback decision operator comment now =>
      dsimp only [memoryFeedback]
      split
      · exact List.prefix_rfl
      · split
        · exact List.prefix_rfl
        · exact changeStatus_appends _ _ _ _ _ _ _
    | simulate ctx model =>
      dsimp only [memorySimulate]
      split <;> exact List.prefix_rfl
    | approve actor comment now =>
      dsimp only [memoryApprove]
      split
      · exact List.prefix_rfl
      · exact changeStatus_appends _ _ _ _ _ _ _
    | apply ctx actor dryRun now =>
      dsimp only [memoryApply]
      split
      · exact List.prefix_rfl
      · exact changeStatus_appends _ _ _ _ _ _ _
    | impact ctx live actor =>
      dsimp only [memoryImpact]
      split
      · exact List.prefix_rfl
      · exact changeStatus_appends _ _ _ _ _ _ _

theorem carbonExec_appends (db : Carbon.CarbonDb) (op : Carbon.CarbonOp) :
    db.assuranceEvents.rows <+: (Carbon.exec db op).assuranceEvents.rows := by
  have change := Carbon.exec_step db op
  generalize Carbon.exec db op = next at change
  cases change with
  | quiet _ _ _ _ events => exact events ▸ List.prefix_rfl
  | created => exact List.prefix_rfl
  | regenerated => exact List.prefix_rfl
  | moved => exact List.prefix_append _ _

theorem served_appends (reportId : Nat) (server : CarbonServer) (request : ReportRequest) :
    server.db.assuranceEvents.rows <+: (served reportId server request).db.assuranceEvents.rows := by
  unfold served
  cases change : request.change reportId with
  | none =>
    cases request with
    | regenerate env plantCode periodType completedOnly =>
      show _ <+: (generateReport env plantCode periodType completedOnly server).2.db.assuranceEvents.rows
      rw [generateReport_db]
      exact carbonExec_appends (env.found server.db) _
    | _ => cases change
  | some found =>
    obtain ⟨t, body⟩ := found
    rw [serve_change change]
    unfold assurance
    split
    · exact List.prefix_rfl
    · dsimp only
      rw [dbAssurance_db]
      unfold Carbon.runTransition
      split
      · exact List.prefix_rfl
      · exact List.prefix_append _ _

/-! ### Runs -/

/-- What a step leaves of the three logs. -/
structure LogsGrow (w next : IdServer) : Prop where
  recs : w.recs.db.auditEvents.rows <+: next.recs.db.auditEvents.rows
  memory : w.recs.memory.audit <+: next.recs.memory.audit
  reports : w.reports.db.assuranceEvents.rows <+: next.reports.db.assuranceEvents.rows

theorem LogsGrow.refl (w : IdServer) : LogsGrow w w := ⟨List.prefix_rfl, List.prefix_rfl, List.prefix_rfl⟩

theorem LogsGrow.trans {w next last : IdServer} (first : LogsGrow w next) (second : LogsGrow next last) : LogsGrow w last :=
  ⟨first.recs.trans second.recs, first.memory.trans second.memory, first.reports.trans second.reports⟩

theorem step_logsGrow (w : IdServer) (action : IdAction) : LogsGrow w (w.step action) := by
  cases action with
  | recDb op => exact ⟨exec_appends w.recs.db op, List.prefix_rfl, List.prefix_rfl⟩
  | recMemory now adviceItems simulations => exact ⟨List.prefix_rfl, persist_appends _ _ _ _, List.prefix_rfl⟩
  | recRoute id request =>
    have kept : w.recs.db.auditEvents.rows <+: (handle w.recs id request).2.db.auditEvents.rows ∧
        w.recs.memory.audit <+: (handle w.recs id request).2.memory.audit := by
      unfold handle
      split
      · exact ⟨List.prefix_rfl, handleMemory_appends _ id request⟩
      · obtain ⟨op, _, same⟩ := handleDb_exec w.recs.db id request
        dsimp only
        rw [same]
        exact ⟨exec_appends w.recs.db op, List.prefix_rfl⟩
    exact ⟨kept.1, kept.2, List.prefix_rfl⟩
  | recDrawn => exact ⟨List.prefix_rfl, List.prefix_rfl, List.prefix_rfl⟩
  | reportDb op => exact ⟨List.prefix_rfl, List.prefix_rfl, carbonExec_appends w.reports.db op⟩
  | reportMemory env plantCode periodType completedOnly => exact ⟨List.prefix_rfl, List.prefix_rfl, List.prefix_rfl⟩
  | reportRoute id request => exact ⟨List.prefix_rfl, List.prefix_rfl, served_appends id w.reports request⟩
  | reportDrawn => exact ⟨List.prefix_rfl, List.prefix_rfl, List.prefix_rfl⟩

theorem run_logsGrow (start : IdServer) (before after : List IdAction) :
    LogsGrow (run IdServer.step start before) (run IdServer.step start (before ++ after)) := by
  rw [run_append]
  exact run_invariant (fun _ action grown => grown.trans (step_logsGrow _ action)) (.refl _)

/-- As a log keeps its events, the endpoint shows them all when it shows the log of the last state. -/
theorem showsAll_iff {α : Type} {events : IdServer → List α} (grow : ∀ {w next}, LogsGrow w next → events w <+: events next)
    (start : IdServer) (actions : List IdAction) (answer : Except HttpError (List α)) :
    ShowsAll events start actions answer ↔ events (run IdServer.step start actions) <+: answer.toOption.getD [] := by
  constructor
  · intro shows
    exact shows actions [] (List.append_nil _).symm
  · intro listed before after split
    refine List.IsPrefix.trans ?_ listed
    rw [split]
    exact grow (run_logsGrow start before after)

theorem stored_injective : Function.Injective fun row : Nat × RecommendationAuditEvent => AuditEventOut.stored row.1 row.2 := by
  rintro ⟨i, a⟩ ⟨j, b⟩ same
  cases same
  rfl

theorem remembered_injective : Function.Injective AuditEventOut.remembered := fun _ _ same => AuditEventOut.remembered.inj same

theorem stored_ne_remembered {rows : List (Nat × RecommendationAuditEvent)} {events : List MemoryAuditEvent}
    {stored remembered : AuditEventOut} (shown : stored ∈ rows.map fun row => AuditEventOut.stored row.1 row.2)
    (held : remembered ∈ events.map AuditEventOut.remembered) : stored ≠ remembered := by
  obtain ⟨_, _, rfl⟩ := List.mem_map.mp shown
  obtain ⟨_, _, rfl⟩ := List.mem_map.mp held
  intro same
  cases same

/-- Two lists without a common element: the one begins the other only when it is empty. -/
theorem prefix_disjoint {α : Type} {xs ys : List α} (apart : ∀ x ∈ xs, ∀ y ∈ ys, x ≠ y) : xs <+: ys ↔ xs = [] := by
  cases xs with
  | nil => exact ⟨fun _ => rfl, fun _ => List.nil_prefix⟩
  | cons x rest =>
    refine ⟨fun listed => ?_, fun empty => absurd empty (List.cons_ne_nil _ _)⟩
    exact absurd rfl (apart x List.mem_cons_self x (listed.subset List.mem_cons_self))

theorem audit_stored_iff (createdAt : ℕ → ℤ) (ties : ℕ ↪ ℕ) (server : RecServer) (id : Nat) :
    (auditRows server.db id).map (fun row => AuditEventOut.stored row.1 row.2) <+:
        (audit createdAt ties server id).toOption.getD [] ↔
      auditRows server.db id = [] ∨ isMemoryId id = false ∧ server.InDb id ∧ (auditRows server.db id).length ≤ 100 ∧
        InOrder createdAt ties (auditRows server.db id) := by
  unfold audit RecServer.InDb
  cases isMemoryId id with
  | true =>
    rw [if_pos rfl]
    cases server.memory.get id with
    | none => simp [Except.toOption]
    | some rec =>
      show _ <+: (memoryListAudit server.memory id).map AuditEventOut.remembered ↔ _
      rw [prefix_disjoint fun x shown y held => stored_ne_remembered shown held]
      simp
  | false =>
    rw [if_neg Bool.false_ne_true]
    cases getRecommendation server.db id with
    | none => simp [Except.toOption]
    | some rec =>
      show _ <+: (listAuditEvents createdAt ties server.db id).map (fun row => AuditEventOut.stored row.1 row.2) ↔ _
      rw [List.prefix_map_iff_of_injective stored_injective]
      refine (listed_inOrder_iff _).trans ⟨fun fits => .inr ⟨rfl, Option.some_ne_none _, fits⟩, ?_⟩
      rintro (empty | ⟨_, _, fits⟩)
      · rw [empty]
        exact ⟨Nat.zero_le _, .nil⟩
      · exact fits

theorem audit_remembered_iff (createdAt : ℕ → ℤ) (ties : ℕ ↪ ℕ) (server : RecServer) (id : Nat) :
    (memoryEvents server.memory id).map AuditEventOut.remembered <+: (audit createdAt ties server id).toOption.getD [] ↔
      memoryEvents server.memory id = [] ∨ isMemoryId id = true ∧ server.InMemory id ∧
        (memoryEvents server.memory id).length ≤ 100 := by
  unfold audit RecServer.InMemory MemoryRecStore.Holds
  cases isMemoryId id with
  | true =>
    rw [if_pos rfl]
    cases server.memory.get id with
    | none => simp [Except.toOption]
    | some rec =>
      show _ <+: (memoryListAudit server.memory id).map AuditEventOut.remembered ↔ _
      rw [List.prefix_map_iff_of_injective remembered_injective]
      show memoryEvents server.memory id <+: (memoryEvents server.memory id).take 100 ↔ _
      constructor
      · intro listed
        have length := listed.length_le
        rw [List.length_take] at length
        exact .inr ⟨rfl, Option.some_ne_none _, by omega⟩
      · rintro (empty | ⟨_, _, reaches⟩)
        · rw [empty]
          exact List.nil_prefix
        · exact (List.take_of_length_le reaches).symm ▸ List.prefix_rfl
  | false =>
    rw [if_neg Bool.false_ne_true]
    cases getRecommendation server.db id with
    | none => simp [Except.toOption]
    | some rec =>
      show _ <+: (listAuditEvents createdAt ties server.db id).map (fun row => AuditEventOut.stored row.1 row.2) ↔ _
      rw [prefix_disjoint fun x held y shown => (stored_ne_remembered shown held).symm]
      simp

theorem assurance_shown_iff (createdAt : ℕ → ℤ) (ties : ℕ ↪ ℕ) (server : CarbonServer) (id : Nat) :
    assuranceRows server.db id <+: (assuranceTrail createdAt ties server id).toOption.getD [] ↔
      assuranceRows server.db id = [] ∨ (Carbon.getReport server.db id).isSome = true ∧
        (assuranceRows server.db id).length ≤ 100 ∧ InOrder createdAt ties (assuranceRows server.db id) := by
  unfold assuranceTrail
  cases Carbon.getReport server.db id with
  | none => simp [Except.toOption]
  | some found =>
    refine (listed_inOrder_iff _).trans ⟨fun fits => .inr ⟨rfl, fits⟩, ?_⟩
    rintro (empty | ⟨_, fits⟩)
    · rw [empty]
      exact ⟨Nat.zero_le _, .nil⟩
    · exact fits

theorem assuranceTrail_sorted {createdAt : ℕ → ℤ} {ties : ℕ ↪ ℕ} {server : CarbonServer} {id : Nat}
    (found : (Carbon.getReport server.db id).isSome = true) (sorted : InOrder createdAt ties (assuranceRows server.db id)) :
    (assuranceTrail createdAt ties server id).toOption.getD [] = (assuranceRows server.db id).take 100 := by
  obtain ⟨row, there⟩ := Option.isSome_iff_exists.mp found
  unfold assuranceTrail
  rw [there]
  exact congrArg (List.take 100) (orderBy_of_sorted (inOrder_iff.mp sorted))

/-- The endpoints show every event of a run exactly where at most a hundred of them were written, under a clock that was
not set back between them and that the database's order of equal times follows, for a record that the endpoint finds. -/
theorem trails_shown_iff (auditedAt assuredAt : ℕ → ℤ) (auditTies assuranceTies : ℕ ↪ ℕ) (plants : Dict String Nat)
    (readings : List Carbon.SensorReading) (actions : List IdAction) (id : Nat) :
    let start := IdServer.start plants readings
    let w := run IdServer.step start actions
    (ShowsAll (fun w => (auditRows w.recs.db id).map fun row => AuditEventOut.stored row.1 row.2) start actions
        (audit auditedAt auditTies w.recs id) ↔
      auditRows w.recs.db id = [] ∨ isMemoryId id = false ∧ w.recs.InDb id ∧ (auditRows w.recs.db id).length ≤ 100 ∧
        InOrder auditedAt auditTies (auditRows w.recs.db id)) ∧
    (ShowsAll (fun w => (memoryEvents w.recs.memory id).map AuditEventOut.remembered) start actions
        (audit auditedAt auditTies w.recs id) ↔
      memoryEvents w.recs.memory id = [] ∨ isMemoryId id = true ∧ w.recs.InMemory id ∧
        (memoryEvents w.recs.memory id).length ≤ 100) ∧
    (ShowsAll (fun w => assuranceRows w.reports.db id) start actions
        (assuranceTrail assuredAt assuranceTies w.reports id) ↔
      assuranceRows w.reports.db id = [] ∨ (Carbon.getReport w.reports.db id).isSome = true ∧
        (assuranceRows w.reports.db id).length ≤ 100 ∧ InOrder assuredAt assuranceTies (assuranceRows w.reports.db id)) := by
  intro start w
  refine ⟨?_, ?_, ?_⟩
  · refine (showsAll_iff (fun grown => ?_) start actions _).trans (audit_stored_iff auditedAt auditTies w.recs id)
    exact (grown.recs.filter _).map _
  · refine (showsAll_iff (fun grown => ?_) start actions _).trans (audit_remembered_iff auditedAt auditTies w.recs id)
    exact (grown.memory.filter _).map _
  · refine (showsAll_iff (fun grown => ?_) start actions _).trans (assurance_shown_iff assuredAt assuranceTies w.reports id)
    exact grown.reports.filter _

/-- A report that is submitted again and again, and then approved. -/
def approvedLate : List IdAction :=
  .reportRoute 1 sampleRegenerate :: List.replicate 100 (.reportRoute 1 (.submit "analyst" none 1)) ++
    [.reportRoute 1 (.approve "lead" none 2)]

theorem approval_hidden :
    let start := IdServer.start Carbon.olefinPlants []
    let w := run IdServer.step start approvedLate
    let shown := assuranceTrail (fun id => id) (.refl ℕ) w.reports 1
    (Carbon.getReport w.reports.db 1).map (·.1.status) = some .approved ∧
      (∀ row ∈ shown.toOption.getD [], row.2.eventType ≠ .approved) ∧
        ¬ ShowsAll (fun w => assuranceRows w.reports.db 1) start approvedLate shown := by
  intro start w shown
  have status : (Carbon.getReport w.reports.db 1).map (·.1.status) = some .approved := by decide +kernel
  have count : (assuranceRows w.reports.db 1).length = 101 := by decide +kernel
  have ascending : (assuranceRows w.reports.db 1).Pairwise fun x y => (x.1 : ℤ) < (y.1 : ℤ) := by decide +kernel
  have sorted : InOrder (fun id => id) (.refl ℕ) (assuranceRows w.reports.db 1) := ascending.imp .inl
  have oldest : ∀ row ∈ (assuranceRows w.reports.db 1).take 100, row.2.eventType ≠ .approved := by decide +kernel
  refine ⟨status, ?_, fun shows => ?_⟩
  · have found : (Carbon.getReport w.reports.db 1).isSome = true := by
      rw [← Option.isSome_map, status]
      rfl
    rw [assuranceTrail_sorted found sorted]
    exact oldest
  · have grow : ∀ {w next : IdServer}, LogsGrow w next →
        assuranceRows w.reports.db 1 <+: assuranceRows next.reports.db 1 := fun grown => grown.reports.filter _
    have complete := (showsAll_iff grow start approvedLate shown).mp shows
    rcases (assurance_shown_iff _ _ w.reports 1).mp complete with none_ | ⟨_, few, _⟩
    · rw [none_] at count
      cases count
    · omega

end Iems.Api
