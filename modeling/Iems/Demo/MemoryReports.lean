import Iems.Carbon.Reports
import Iems.Lib.Newest
import Iems.Lib.Numbering

/-! Carbon reports in memory, for demos whose database has no data of the period. -/
namespace Iems.Demo
open Lib Iems.Carbon Iems.Services

def reportIdBase : Nat := 800000

/-- The first status and the three that the routes set. -/
inductive MemoryAssurance where
  | draft | submitted | approved | locked
  deriving DecidableEq

def MemoryAssurance.text : MemoryAssurance → String
  | .draft => "draft"
  | .submitted => "submitted"
  | .approved => "approved"
  | .locked => "locked"

structure MemoryCarbonReport where
  id : Nat
  plantCode : String
  periodType : PeriodType
  periodStart : Datetime
  periodEnd : Datetime
  scope1Kgco2 : ℚ
  scope2Kgco2 : ℚ
  scope3Kgco2 : ℚ
  carbonIntensityKgco2Ton : ℚ
  productTon : ℚ
  sampleCount : Nat
  factorsVersion : String
  assuranceStatus : MemoryAssurance := .draft
  submittedBy : Option String := none
  approvedBy : Option String := none
  lockedBy : Option String := none
  createdAt : Int

structure MemoryReportStore where
  nextId : Nat
  reports : Dict Nat MemoryCarbonReport

def isMemoryReportId (reportId : Nat) : Bool := reportIdBase ≤ reportId

/-- The figures of a report that is generated again. -/
def MemoryCarbonReport.refreshed (existing report : MemoryCarbonReport) : MemoryCarbonReport :=
  { existing with
    periodEnd := report.periodEnd
    scope1Kgco2 := report.scope1Kgco2
    scope2Kgco2 := report.scope2Kgco2
    scope3Kgco2 := report.scope3Kgco2
    carbonIntensityKgco2Ton := report.carbonIntensityKgco2Ton
    productTon := report.productTon
    sampleCount := report.sampleCount
    factorsVersion := report.factorsVersion }

def MemoryCarbonReport.signed (report : MemoryCarbonReport) (status : MemoryAssurance) (actor : String) :
    MemoryCarbonReport :=
  match status with
  | .draft => { report with assuranceStatus := .draft }
  | .submitted => { report with assuranceStatus := .submitted, submittedBy := some actor }
  | .approved => { report with assuranceStatus := .approved, approvedBy := some actor }
  | .locked => { report with assuranceStatus := .locked, lockedBy := some actor }

namespace MemoryReportStore

def empty : MemoryReportStore := ⟨reportIdBase, .empty⟩

def get (store : MemoryReportStore) (reportId : Nat) : Option MemoryCarbonReport := store.reports.get? reportId

/-- Newest first, those made together in the order of the store, and of these the first that pass the filters. -/
def list (store : MemoryReportStore) (plantCode : Option String) (periodType : Option PeriodType) (limit : Nat) :
    List MemoryCarbonReport :=
  let rows := orderBy (fun report => -report.createdAt) store.reports.values
  let rows := rows.filter fun report => plantCode.getD "" = "" ∨ plantCode = some report.plantCode
  (rows.filter fun report => periodType = none ∨ periodType = some report.periodType).take limit

/-- The stored report of the same plant, period type and period start. -/
def sameReport (store : MemoryReportStore) (report : MemoryCarbonReport) : Option (Nat × MemoryCarbonReport) :=
  store.reports.items.find? fun item =>
    item.2.plantCode = report.plantCode ∧ item.2.periodType = report.periodType ∧
      item.2.periodStart = report.periodStart

def upsert (store : MemoryReportStore) (report : MemoryCarbonReport) : MemoryCarbonReport × MemoryReportStore :=
  match store.sameReport report with
  | some (key, existing) =>
    if existing.assuranceStatus = .locked then (existing, store)
    else (existing.refreshed report, { store with reports := store.reports.set key (existing.refreshed report) })
  | none =>
    if report.id ≤ 0 then
      let rid := store.nextId
      let numbered := { report with id := rid }
      (numbered, ⟨rid + 1, store.reports.set rid numbered⟩)
    else (report, { store with reports := store.reports.set report.id report })

def setAssurance (store : MemoryReportStore) (reportId : Nat) (status : MemoryAssurance) (actor : String) :
    Except CarbonError MemoryCarbonReport × MemoryReportStore :=
  match store.reports.get? reportId with
  | none => (.error (.keyError (toString reportId)), store)
  | some report =>
    (.ok (report.signed status actor), { store with reports := store.reports.set reportId (report.signed status actor) })

end MemoryReportStore

/-! ### Generating -/

/-- A reading of the demo memory, with the columns that the reports read. -/
structure MemoryReading where
  time : Int
  electricityPowerMw : Option ℚ
  fuelGasFlowKm3h : Option ℚ
  steamFlowTonh : Option ℚ
  feedFlowTonh : Option ℚ

/-- What a generation in memory finds: the plant's series in the demo memory, and its live reading, `none` where the
reader raises. -/
structure DemoReadings where
  series : List MemoryReading
  live : Option MemoryReading

def windowMinutes (window : PeriodWindow) : Nat :=
  max 60 ((window.end_.instant - window.start.instant) / 60000000).toNat

def windowHours (window : PeriodWindow) : ℚ :=
  max (((window.end_.instant - window.start.instant : Int) : ℚ) / 1000000 / 3600) 1

/-- The readings of the last minutes, or one live reading where there are none; `none` where the reader raises. -/
def DemoReadings.history (demo : DemoReadings) (now : Int) (minutes : Nat) : Option (List MemoryReading) :=
  match demo.series.filter fun reading => now - minutes * 60000000 ≤ reading.time with
  | [] => demo.live.map fun reading => [reading]
  | recent => some recent

/-- A mean rate over the readings, a missing one counted as zero, times the hours. -/
def integral (history : List MemoryReading) (hours : ℚ) (flow : MemoryReading → Option ℚ) : ℚ :=
  (history.map fun reading => (flow reading).getD 0).sum / history.length * hours

def memoryReport (ctx : GenerateContext) (now : Datetime) (plantCode : String) (periodType : PeriodType)
    (window : PeriodWindow) (history : List MemoryReading) : MemoryCarbonReport :=
  let hours := windowHours window
  let fuel := integral history hours (·.fuelGasFlowKm3h)
  let steam := integral history hours (·.steamFlowTonh)
  let powerMwh := integral history hours (·.electricityPowerMw)
  let product := integral history hours (·.feedFlowTonh)
  let ef := factorsFor ctx.factors ctx.cfg plantCode
  let breakdown := computeScopesFromIntegrals ef fuel steam powerMwh (max product 1) plantCode
  let s3 := computeScope3 ctx.scope3Factors plantCode fuel (max product 1)
  { id := 0
    plantCode := plantCode
    periodType := periodType
    periodStart := window.start
    periodEnd := window.end_
    scope1Kgco2 := breakdown.scope1Kgco2
    scope2Kgco2 := breakdown.scope2Kgco2
    scope3Kgco2 := s3.totalKgco2
    carbonIntensityKgco2Ton := breakdown.carbonIntensityKgco2Ton
    productTon := breakdown.productTon
    sampleCount := history.length
    factorsVersion := ef.version
    createdAt := now.instant }

/-- `none` where a date leaves the years 1 to 9999 or the reader raises. -/
def generateMemoryReport (ctx : GenerateContext) (now : Datetime) (demo : DemoReadings) (plantCode : String)
    (periodType : PeriodType) (completedOnly : Bool) (store : MemoryReportStore) :
    Option MemoryCarbonReport × MemoryReportStore :=
  match periodWindow periodType now completedOnly with
  | none => (none, store)
  | some window =>
    match demo.history now.instant (windowMinutes window) with
    | none => (none, store)
    | some history =>
      let (report, stored) := store.upsert (memoryReport ctx now plantCode periodType window history)
      (some report, stored)

/-! ### What a change does to one report -/

namespace MemoryReportStore
variable {store : MemoryReportStore} {reportId : Nat} {held report : MemoryCarbonReport}

def Holds (store : MemoryReportStore) (reportId : Nat) : Prop := store.get reportId ≠ none

/-- A change that numbers its new reports by the store's counter. -/
def Extends (store next : MemoryReportStore) : Prop := NumbersUp store.nextId next.nextId store.Holds next.Holds

/-- Ids are handed out once: every stored report is below the next id. -/
def Fresh (store : MemoryReportStore) : Prop := ∀ reportId, store.Holds reportId → reportId < store.nextId

theorem empty_fresh : empty.Fresh := fun reportId held => absurd (Dict.get?_empty reportId) held

theorem sameReport_get {key : Nat} {existing : MemoryCarbonReport}
    (found : store.sameReport report = some (key, existing)) : store.get key = some existing :=
  (store.reports.get?_iff_mem).mpr (List.mem_of_find?_eq_some found)

/-- An upsert keeps a stored report, or overwrites its figures while it is not locked. -/
theorem upsert_held (fresh : store.Fresh) (unnumbered : report.id = 0) (stored : store.get reportId = some held) :
    (store.upsert report).2.get reportId = some held ∨
      held.assuranceStatus ≠ .locked ∧ (store.upsert report).2.get reportId = some (held.refreshed report) := by
  unfold upsert
  split
  · rename_i key existing found
    split
    · exact Or.inl stored
    · rename_i unlocked
      unfold get
      rw [Dict.get?_set]
      split
      · rename_i here
        rw [here, sameReport_get found] at stored
        cases stored
        exact Or.inr ⟨unlocked, rfl⟩
      · exact Or.inl stored
  · rw [if_pos (by omega)]
    have older : reportId ≠ store.nextId := by
      have below := fresh reportId (by simp [Holds, stored])
      omega
    exact Or.inl ((Dict.get?_set_other _ _ older).trans stored)

theorem upsert_extends (store : MemoryReportStore) (unnumbered : report.id = 0) : store.Extends (store.upsert report).2 := by
  unfold upsert
  split
  · rename_i key existing found
    split
    · exact .refl _ _
    · refine ⟨le_rfl, fun reportId held => Or.inl ?_⟩
      rcases Dict.present_set held with rfl | old
      · simp [Holds, sameReport_get found]
      · exact old
  · rw [if_pos (by omega)]
    refine ⟨Nat.le_succ _, fun reportId held => ?_⟩
    rcases Dict.present_set held with rfl | old
    · exact Or.inr ⟨le_rfl, Nat.lt_succ_self _⟩
    · exact Or.inl old

theorem setAssurance_held (stored : store.get reportId = some held) (status : MemoryAssurance) (actor : String) :
    store.setAssurance reportId status actor =
      (.ok (held.signed status actor), { store with reports := store.reports.set reportId (held.signed status actor) }) := by
  have found : store.reports.get? reportId = some held := stored
  unfold setAssurance
  rw [found]

theorem setAssurance_extends (store : MemoryReportStore) (reportId : Nat) (status : MemoryAssurance) (actor : String) :
    store.Extends (store.setAssurance reportId status actor).2 := by
  unfold setAssurance
  split
  · exact .refl _ _
  · rename_i report found
    refine ⟨le_rfl, fun other held => Or.inl ?_⟩
    rcases Dict.present_set held with rfl | old
    · simp [Holds, get, found]
    · exact old

end MemoryReportStore

theorem signed_status (report : MemoryCarbonReport) (status : MemoryAssurance) (actor : String) :
    (report.signed status actor).assuranceStatus = status := by
  cases status <;> rfl

theorem generateMemoryReport_isSome (ctx : GenerateContext) (now : Datetime) (demo : DemoReadings) (plantCode : String)
    (periodType : PeriodType) (completedOnly : Bool) (store : MemoryReportStore) :
    (generateMemoryReport ctx now demo plantCode periodType completedOnly store).1.isSome = true ↔
      ∃ window, periodWindow periodType now completedOnly = some window ∧
        (demo.history now.instant (windowMinutes window)).isSome = true := by
  unfold generateMemoryReport
  split
  · rename_i absent
    simp [absent]
  · rename_i window bounds
    split
    · rename_i nothing
      simp [bounds, nothing]
    · rename_i history found
      simp [bounds, found]

theorem generateMemoryReport_store (ctx : GenerateContext) (now : Datetime) (demo : DemoReadings) (plantCode : String)
    (periodType : PeriodType) (completedOnly : Bool) (store : MemoryReportStore) :
    (generateMemoryReport ctx now demo plantCode periodType completedOnly store).2 = store ∨
      ∃ report, report.id = 0 ∧
        (generateMemoryReport ctx now demo plantCode periodType completedOnly store).2 = (store.upsert report).2 := by
  unfold generateMemoryReport
  split
  · exact Or.inl rfl
  · split
    · exact Or.inl rfl
    · exact Or.inr ⟨_, rfl, rfl⟩

theorem generateMemoryReport_extends (ctx : GenerateContext) (now : Datetime) (demo : DemoReadings) (plantCode : String)
    (periodType : PeriodType) (completedOnly : Bool) (store : MemoryReportStore) :
    store.Extends (generateMemoryReport ctx now demo plantCode periodType completedOnly store).2 := by
  rcases generateMemoryReport_store ctx now demo plantCode periodType completedOnly store with
    same | ⟨report, unnumbered, upserted⟩
  · rw [same]
    exact .refl _ _
  · rw [upserted]
    exact store.upsert_extends unnumbered

end Iems.Demo
