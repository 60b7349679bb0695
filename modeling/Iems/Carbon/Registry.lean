import Iems.Carbon.AssuranceTrail
import Iems.Lib.Ranking

/-! What the carbon registry is told: the record of a sync against the reply, and which locked reports the batches
of a run include. -/
namespace Iems.Carbon
open Lib

/-! ### The batch of a sync -/

/-- The reports that a sync chooses from, in the order of the table. -/
def queriedReports (db : CarbonDb) (plantCode : Option String) (lockedOnly : Bool) : List (Nat × CarbonReport × String) :=
  (joinedReports db).filter fun row =>
    (plantCode.getD "" = "" ∨ plantCode = some row.2.2) ∧ (!lockedOnly || row.2.1.assuranceStatus = some .locked)

def syncPayload (ctx : SyncContext) (plantCode : Option String) (forceUnlocked : Bool) (db : CarbonDb) :
    List RegistryReport :=
  buildRegistryPayload ctx.ties db plantCode 20 (ctx.cfg.carbonMarketRequireLocked && !forceUnlocked)

theorem syncPayload_eq (ctx : SyncContext) (plantCode : Option String) (forceUnlocked : Bool) (db : CarbonDb) :
    syncPayload ctx plantCode forceUnlocked db =
      (((queriedReports db plantCode (ctx.cfg.carbonMarketRequireLocked && !forceUnlocked)).mergeSort
        (newerFirst ctx.ties)).take 20).map registryReport := rfl

theorem syncPayload_ne_nil {ctx : SyncContext} {plantCode : Option String} {forceUnlocked : Bool} {db : CarbonDb}
    (queried : queriedReports db plantCode (ctx.cfg.carbonMarketRequireLocked && !forceUnlocked) ≠ []) :
    syncPayload ctx plantCode forceUnlocked db ≠ [] := by
  rw [syncPayload_eq, ne_eq, List.map_eq_nil_iff, List.take_eq_nil_iff, not_or]
  refine ⟨by decide, ?_⟩
  rwa [← List.length_eq_zero_iff, List.length_mergeSort, List.length_eq_zero_iff]

/-! ### The record of a sync against the reply -/

/-- The registry accepted the batch. -/
def RegistryReply.accepted : RegistryReply → Prop
  | .failed _ => False
  | .response statusCode _ => 200 ≤ statusCode ∧ statusCode < 300

/-- A body that the sync can take a reference from. -/
def RegistryReply.readable : RegistryReply → Prop
  | .failed _ => False
  | .response _ .empty => True
  | .response _ (.object _ _) => True
  | .response _ _ => False

theorem readReply_ok_iff (reply : RegistryReply) : (∃ ref, readReply reply = .ok ref) ↔
    reply.accepted ∧ reply.readable := by
  cases reply with
  | failed errorClass => simp [readReply, RegistryReply.accepted]
  | response statusCode body =>
    by_cases success : statusCode < 200 ∨ 300 ≤ statusCode
    · simp only [readReply, if_pos success, RegistryReply.accepted]
      constructor
      · rintro ⟨_, raised⟩
        cases raised
      · rintro ⟨range, _⟩
        omega
    · have range : 200 ≤ statusCode ∧ statusCode < 300 := by omega
      cases body <;> simp [readReply, success, RegistryReply.accepted, RegistryReply.readable, range]

section Sync
variable {ctx : SyncContext} {db : CarbonDb} {plantCode : Option String} {forceUnlocked : Bool}

/-- The committed record says what the registry did: it is synced exactly when the registry accepted, and counts
reports only when it did or when there is no registry to ask. -/
structure AgreesWithRegistry (ctx : SyncContext) (record : CarbonMarketSync) : Prop where
  synced : record.status = "synced" ↔ ctx.reply.accepted
  counted : 0 < record.reportsSynced → ctx.reply.accepted ∨ ctx.cfg.carbonMarketApiUrl = ""

theorem sync_status (configured : ctx.cfg.carbonMarketApiUrl ≠ "") (batch : syncPayload ctx plantCode forceUnlocked db ≠ []) :
    (syncCarbonMarket ctx plantCode forceUnlocked db).1.status = "synced" ↔ ∃ ref, readReply ctx.reply = .ok ref := by
  unfold syncPayload at batch
  simp only [syncCarbonMarket, syncOutcome, batch, configured, false_and, if_false, ne_eq, not_false_eq_true, and_self,
    if_true]
  cases readReply ctx.reply <;> simp

theorem sync_counts (batch : syncPayload ctx plantCode forceUnlocked db ≠ []) :
    0 < (syncCarbonMarket ctx plantCode forceUnlocked db).1.reportsSynced :=
  List.length_pos_iff.mpr batch

/-- The bookkeeping agrees with the registry for an accepted batch with a readable body, and for no other reply: an
unreadable acceptance is recorded as an error, and a refused batch is counted as synced reports. -/
theorem syncCarbonMarket_agrees_iff (configured : ctx.cfg.carbonMarketApiUrl ≠ "")
    (batch : syncPayload ctx plantCode forceUnlocked db ≠ []) :
    AgreesWithRegistry ctx (syncCarbonMarket ctx plantCode forceUnlocked db).1 ↔
      ctx.reply.accepted ∧ ctx.reply.readable := by
  have status := (sync_status configured batch).trans (readReply_ok_iff ctx.reply)
  constructor
  · intro agrees
    have accepted : ctx.reply.accepted := by
      rcases agrees.counted (sync_counts batch) with accepted | unconfigured
      · exact accepted
      · exact absurd unconfigured configured
    exact status.mp (agrees.synced.mpr accepted)
  · intro read
    constructor
    · rw [status]
      constructor
      · exact And.left
      · intro _
        exact read
    · intro _
      exact Or.inl read.1

end Sync

def sampleSync : SyncContext where
  cfg := {}
  stagingDir := "/var/lib/iems/market"
  batchId := "5d1c"
  now := 0
  reply := .failed "ConnectError"

def postingSync (reply : RegistryReply) : SyncContext :=
  { sampleSync with cfg := { carbonMarketApiUrl := "https://registry.local/reports" }, reply := reply }

def lockedDay : CarbonDb := run exec (.start olefinPlants []) (sampleReview ++ [.lock sampleLock])

theorem lockedDay_batch (reply : RegistryReply) : syncPayload (postingSync reply) none false lockedDay ≠ [] :=
  syncPayload_ne_nil (by
    show queriedReports lockedDay none true ≠ []
    decide +kernel)

theorem syncCarbonMarket_agrees_object : AgreesWithRegistry (postingSync (.response 201 (.object (some "R-17") none)))
    (syncCarbonMarket (postingSync (.response 201 (.object (some "R-17") none))) none false lockedDay).1 :=
  (syncCarbonMarket_agrees_iff (by decide) (lockedDay_batch _)).mpr ⟨⟨by decide, by decide⟩, trivial⟩

/-- A batch that the registry accepts with a list for a body is recorded as an error. -/
theorem accepted_list_recorded_error :
    ¬ ∀ (ctx : SyncContext) (plantCode : Option String) (forceUnlocked : Bool) (db : CarbonDb),
      ctx.cfg.carbonMarketApiUrl ≠ "" → syncPayload ctx plantCode forceUnlocked db ≠ [] →
        AgreesWithRegistry ctx (syncCarbonMarket ctx plantCode forceUnlocked db).1 := by
  intro agree
  have holds := agree (postingSync (.response 200 .other)) none false lockedDay (by decide) (lockedDay_batch _)
  have synced := holds.synced.mpr ⟨by decide, by decide⟩
  rw [sync_status (by decide) (lockedDay_batch _), readReply_ok_iff] at synced
  exact synced.2

/-! ### The batches of a run -/

def CarbonReport.isLocked (report : CarbonReport) : Prop := report.assuranceStatus = some .locked

def MatchesFilter (plantCode : Option String) (row : Nat × CarbonReport × String) : Prop :=
  plantCode.getD "" = "" ∨ plantCode = some row.2.2

theorem joinedReports_ids (db : CarbonDb) : ((joinedReports db).map Prod.fst).Nodup := by
  have sublist : ∀ rows : List (Nat × CarbonReport), ((rows.filterMap fun row =>
      (db.plants.items.find? fun plant => plant.2 = row.2.plantId).map fun plant => (row.1, row.2, plant.1)).map
        Prod.fst).Sublist (rows.map Prod.fst) := by
    intro rows
    induction rows with
    | nil => exact .slnil
    | cons row rest ih =>
      rw [List.filterMap_cons]
      cases db.plants.items.find? fun plant => plant.2 = row.2.plantId with
      | none => exact ih.cons _
      | some plant => exact ih.cons_cons _
  exact db.reports.distinct.sublist (sublist db.reports.rows)

/-- The reports that an answer lists before another: those of a later start, and of its own start those that the
database takes first. -/
def ahead (ties : Nat ↪ Nat) (rows : List (Nat × CarbonReport × String)) (row : Nat × CarbonReport × String) :
    List (Nat × CarbonReport × String) :=
  rows.filter fun other => row.2.1.periodStart.instant < other.2.1.periodStart.instant ∨
    other.2.1.periodStart.instant = row.2.1.periodStart.instant ∧ ties other.1 < ties row.1

theorem preceding_ahead (ties : Nat ↪ Nat) {rows : List (Nat × CarbonReport × String)} (ids : (rows.map Prod.fst).Nodup)
    {row : Nat × CarbonReport × String} (listed : row ∈ rows) : preceding (newerFirst ties) rows row = ahead ties rows row := by
  refine List.filter_congr fun other member => ?_
  rw [decide_eq_decide]
  by_cases same : other.1 = row.1
  · obtain rfl := List.inj_on_of_nodup_map ids member listed same
    constructor
    · rintro ⟨_, strictly | twice⟩
      · simp [newerFirst] at strictly
      · exact absurd twice (pair_order (List.Nodup.of_map _ ids) twice)
    · rintro (later | ⟨_, before⟩)
      · exact absurd later (lt_irrefl _)
      · exact absurd before (lt_irrefl _)
  · have apart : ties other.1 ≠ ties row.1 := fun equal => same (ties.injective equal)
    rw [Precedes, ← Bool.not_eq_true, newerFirst_iff, newerFirst_iff]
    constructor
    · rintro ⟨later | ⟨start, before⟩, _⟩
      · exact Or.inl later
      · exact Or.inr ⟨start.symm, lt_of_le_of_ne before apart⟩
    · rintro (later | ⟨start, before⟩)
      · exact ⟨Or.inl later, Or.inl (by omega)⟩
      · exact ⟨Or.inr ⟨start.symm, before.le⟩, Or.inl (by omega)⟩

/-- A batch includes a report exactly when fewer than twenty of the queried ones come before it. -/
theorem mem_syncPayload_iff {ctx : SyncContext} {plantCode : Option String} {forceUnlocked : Bool} {db : CarbonDb}
    {row : Nat × CarbonReport × String}
    (queried : row ∈ queriedReports db plantCode (ctx.cfg.carbonMarketRequireLocked && !forceUnlocked)) :
    row.1 ∈ (syncPayload ctx plantCode forceUnlocked db).map (·.reportId) ↔
      (ahead ctx.ties (queriedReports db plantCode (ctx.cfg.carbonMarketRequireLocked && !forceUnlocked)) row).length < 20 := by
  have ids : ((queriedReports db plantCode (ctx.cfg.carbonMarketRequireLocked && !forceUnlocked)).map Prod.fst).Nodup :=
    (joinedReports_ids db).sublist (List.filter_sublist.map Prod.fst)
  rw [← preceding_ahead ctx.ties ids queried, ← mem_take_mergeSort_iff (newerFirst_trans ctx.ties)
    (newerFirst_total ctx.ties) (List.Nodup.of_map _ ids) queried, syncPayload_eq, List.map_map]
  constructor
  · intro included
    obtain ⟨other, taken, same⟩ := List.mem_map.mp included
    have listed := List.mem_mergeSort.mp (List.mem_of_mem_take taken)
    rwa [← List.inj_on_of_nodup_map ids listed queried same]
  · intro taken
    exact List.mem_map.mpr ⟨row, taken, rfl⟩

/-- The ids in the batch that a request stages or posts. -/
def batchOf (db : CarbonDb) : CarbonOp → List Nat
  | .sync ctx plantCode forceUnlocked => (syncPayload ctx plantCode forceUnlocked db).map (·.reportId)
  | _ => []

/-- The ids in the batches of a run. -/
def batched (db : CarbonDb) : List CarbonOp → List Nat
  | [] => []
  | op :: rest => batchOf db op ++ batched (exec db op) rest

theorem batched_snoc (db : CarbonDb) (before : List CarbonOp) (op : CarbonOp) :
    batched db (before ++ [op]) = batched db before ++ batchOf (run exec db before) op := by
  induction before generalizing db with
  | nil => simp [batched]
  | cons first rest ih => simp [batched, ih]

/-- Right after each sync of a run, every locked report that matches its filter has been in a batch. -/
def NoneLeftOut (db : CarbonDb) (ops : List CarbonOp) : Prop :=
  ∀ before ctx plantCode forceUnlocked after, ops = before ++ .sync ctx plantCode forceUnlocked :: after →
    ∀ row ∈ joinedReports (run exec db (before ++ [.sync ctx plantCode forceUnlocked])),
      MatchesFilter plantCode row → row.2.1.isLocked →
        row.1 ∈ batched db (before ++ [.sync ctx plantCode forceUnlocked])

theorem joinedReports_sync (db : CarbonDb) (before : List CarbonOp) (ctx : SyncContext) (plantCode : Option String)
    (forceUnlocked : Bool) : joinedReports (run exec db (before ++ [.sync ctx plantCode forceUnlocked])) =
      joinedReports (run exec db before) := by
  rw [run_snoc]
  rfl

theorem locked_queried {db : CarbonDb} {row : Nat × CarbonReport × String} {plantCode : Option String}
    (listed : row ∈ joinedReports db) (matched : MatchesFilter plantCode row) (locked : row.2.1.isLocked)
    (lockedOnly : Bool) : row ∈ queriedReports db plantCode lockedOnly := by
  rw [queriedReports, List.mem_filter]
  refine ⟨listed, ?_⟩
  rw [CarbonReport.isLocked] at locked
  rw [MatchesFilter] at matched
  simpa [locked] using matched

/-- A sync sends the first twenty reports of its query and no later one: a locked report stays out as long as twenty
others of the query come before it, whichever way the database breaks the ties. -/
theorem noneLeftOut_iff (db : CarbonDb) (ops : List CarbonOp) :
    NoneLeftOut db ops ↔
      ∀ before ctx plantCode forceUnlocked after, ops = before ++ .sync ctx plantCode forceUnlocked :: after →
        ∀ row ∈ joinedReports (run exec db before), MatchesFilter plantCode row → row.2.1.isLocked →
          row.1 ∉ batched db before →
            (ahead ctx.ties (queriedReports (run exec db before) plantCode
              (ctx.cfg.carbonMarketRequireLocked && !forceUnlocked)) row).length < 20 := by
  constructor
  · intro complete before ctx plantCode forceUnlocked after split row listed matched locked fresh
    have sent := complete before ctx plantCode forceUnlocked after split row
      (by rwa [joinedReports_sync]) matched locked
    rw [batched_snoc, List.mem_append] at sent
    rcases sent with earlier | now
    · exact absurd earlier fresh
    · exact (mem_syncPayload_iff (locked_queried listed matched locked _)).mp now
  · intro near before ctx plantCode forceUnlocked after split row listed matched locked
    rw [joinedReports_sync] at listed
    rw [batched_snoc, List.mem_append]
    by_cases earlier : row.1 ∈ batched db before
    · exact Or.inl earlier
    · have close := near before ctx plantCode forceUnlocked after split row listed matched locked earlier
      exact Or.inr ((mem_syncPayload_iff (locked_queried listed matched locked _)).mpr close)

/-- A report of one day, from its generation to its lock. -/
def reportedDay (id : Nat) (now : Datetime) : List CarbonOp :=
  [.generate sampleFactors { plantCode := "olefin", periodType := .daily, now := now },
    .submit { reportId := id, actor := "analyst", now := 1 }, .approve { reportId := id, actor := "lead", now := 2 },
    .lock { reportId := id, actor := "controller", now := 3 }]

def januaryDays : List Datetime := (List.range 21).filterMap fun day => Datetime.make? 2026 1 (day + 2) 0

def januaryReports : List CarbonOp :=
  .readings (januaryDays.map fun now => olefinSample (now.instant - 1) 10) ::
    januaryDays.zipIdx.flatMap fun (now, i) => reportedDay (i + 1) now

def CarbonOp.cfg : CarbonOp → Option Core.Settings
  | .generate ctx _ => some ctx.cfg
  | .sync ctx _ _ => some ctx.cfg
  | _ => none

theorem january_default (op : CarbonOp) (member : op ∈ januaryReports ++ [.sync sampleSync none false]) :
    op.cfg.getD {} = {} := by
  rcases List.mem_append.mp member with reported | last
  · rcases List.mem_cons.mp reported with rfl | day
    · rfl
    · obtain ⟨⟨now, i⟩, _, step⟩ := List.mem_flatMap.mp day
      simp only [reportedDay, List.mem_cons, List.not_mem_nil, or_false] at step
      rcases step with rfl | rfl | rfl | rfl <;> rfl
  · cases List.mem_singleton.mp last
    rfl

/-- Of twenty-one locked days one is in no batch. -/
theorem january_left_out : ¬ ∀ (plants : Dict String Nat) (ops : List CarbonOp),
    (∀ op ∈ ops, op.cfg.getD {} = {}) → NoneLeftOut (.start plants []) ops := by
  intro complete
  have locked : (joinedReports (run exec (.start olefinPlants []) januaryReports)).map (·.2.1.assuranceStatus) =
      List.replicate 21 (some .locked) := by decide +kernel
  have silent : batched (.start olefinPlants []) januaryReports = [] := by decide +kernel
  have included : (joinedReports (run exec (.start olefinPlants []) januaryReports)).map Prod.fst ⊆
      batchOf (run exec (.start olefinPlants []) januaryReports) (.sync sampleSync none false) := by
    intro id member
    obtain ⟨row, listed, rfl⟩ := List.mem_map.mp member
    have status : row.2.1.isLocked := by
      have among := List.mem_map_of_mem (f := (·.2.1.assuranceStatus)) listed
      rw [locked] at among
      exact List.eq_of_mem_replicate among
    have sent := complete olefinPlants _ january_default januaryReports sampleSync none false [] rfl row
      (by rwa [joinedReports_sync]) (Or.inl rfl) status
    rwa [batched_snoc, silent, List.nil_append] at sent
  have room := (List.subperm_of_subset (joinedReports_ids _) included).length_le
  have count : (joinedReports (run exec (.start olefinPlants []) januaryReports)).length = 21 := by
    rw [← List.length_map (f := (·.2.1.assuranceStatus)), locked, List.length_replicate]
  have limit : (batchOf (run exec (.start olefinPlants []) januaryReports) (.sync sampleSync none false)).length ≤ 20 := by
    simp [batchOf, syncPayload_eq]
  rw [List.length_map, count] at room
  omega

end Iems.Carbon
