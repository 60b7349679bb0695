import Iems.Carbon.Aggregate
import Iems.Carbon.Factors
import Iems.Carbon.Period
import Iems.Lib.Sessions
import Iems.Lib.Table

/-! The tables behind the carbon reports. -/
namespace Iems.Carbon
open Lib Lib.Sessions

inductive AssuranceStatus where
  | draft | inReview | approved | locked
  deriving DecidableEq

def AssuranceStatus.text : AssuranceStatus → String
  | .draft => "draft"
  | .inReview => "in_review"
  | .approved => "approved"
  | .locked => "locked"

structure Scope3Stored where
  cat3FuelUpstreamKgco2 : ℚ
  cat1PurchasedGoodsKgco2 : ℚ
  cat5WasteKgco2 : ℚ
  factorsVersion : String
  detail : Scope3Detail
  deriving DecidableEq

structure CarbonReport where
  plantId : Nat
  periodStart : Datetime
  periodEnd : Datetime
  periodType : PeriodType
  scope1Kgco2 : ℚ
  scope2Kgco2 : ℚ
  scope3Kgco2 : Option ℚ
  scope3Detail : Option Scope3Stored
  carbonIntensityKgco2Ton : Option ℚ
  productTon : Option ℚ
  sampleCount : Option Nat
  factorsVersion : Option String
  assuranceStatus : Option AssuranceStatus := some .draft
  submittedBy : Option String := none
  submittedAt : Option Int := none
  approvedBy : Option String := none
  approvedAt : Option Int := none
  lockedBy : Option String := none
  lockedAt : Option Int := none
  createdAt : Int
  deriving DecidableEq

/-- `assurance_status or "draft"`. -/
def CarbonReport.status (report : CarbonReport) : AssuranceStatus := report.assuranceStatus.getD .draft

theorem status_of_some {report : CarbonReport} {status : AssuranceStatus}
    (stored : report.assuranceStatus = some status) : report.status = status := by
  unfold CarbonReport.status
  rw [stored, Option.getD_some]

/-- The columns that a generation computes. -/
structure ReportFigures where
  periodEnd : Datetime
  scope1Kgco2 : ℚ
  scope2Kgco2 : ℚ
  scope3Kgco2 : Option ℚ
  scope3Detail : Option Scope3Stored
  carbonIntensityKgco2Ton : Option ℚ
  productTon : Option ℚ
  sampleCount : Option Nat
  factorsVersion : Option String
  deriving DecidableEq

def CarbonReport.figures (report : CarbonReport) : ReportFigures where
  periodEnd := report.periodEnd
  scope1Kgco2 := report.scope1Kgco2
  scope2Kgco2 := report.scope2Kgco2
  scope3Kgco2 := report.scope3Kgco2
  scope3Detail := report.scope3Detail
  carbonIntensityKgco2Ton := report.carbonIntensityKgco2Ton
  productTon := report.productTon
  sampleCount := report.sampleCount
  factorsVersion := report.factorsVersion

inductive AssuranceEventType where
  | submitted | approved | locked
  deriving DecidableEq

structure AssuranceEvent where
  reportId : Nat
  eventType : AssuranceEventType
  actor : String
  comment : Option String
  deriving DecidableEq

structure CarbonMarketSync where
  batchId : String
  plantCode : Option String
  status : String
  registry : String
  message : String
  reportsSynced : Nat
  payloadPath : Option String
  externalRef : Option String
  syncedAt : Int
  deriving DecidableEq

structure CarbonDb where
  plants : Dict String Nat
  readings : List SensorReading
  reports : Table CarbonReport
  assuranceEvents : Table AssuranceEvent
  marketSyncs : Table CarbonMarketSync

def CarbonDb.start (plants : Dict String Nat) (readings : List SensorReading) : CarbonDb :=
  ⟨plants, readings, .empty, .empty, .empty⟩

def assuranceTrail (db : CarbonDb) (reportId : Nat) : List AssuranceEvent :=
  db.assuranceEvents.values.filter (·.reportId = reportId)

def CarbonReport.key (report : CarbonReport) : Nat × Datetime × PeriodType :=
  (report.plantId, report.periodStart, report.periodType)

def findReport (db : CarbonDb) (key : Nat × Datetime × PeriodType) : Option (Nat × CarbonReport) :=
  db.reports.rows.find? fun row => row.2.key = key

/-- The `UPDATE` a session sends for a report it loaded and edited, run on the current row. -/
def flush (loaded edited current : CarbonReport) : CarbonReport where
  plantId := column loaded.plantId edited.plantId current.plantId
  periodStart := column loaded.periodStart edited.periodStart current.periodStart
  periodEnd := column loaded.periodEnd edited.periodEnd current.periodEnd
  periodType := column loaded.periodType edited.periodType current.periodType
  scope1Kgco2 := column loaded.scope1Kgco2 edited.scope1Kgco2 current.scope1Kgco2
  scope2Kgco2 := column loaded.scope2Kgco2 edited.scope2Kgco2 current.scope2Kgco2
  scope3Kgco2 := column loaded.scope3Kgco2 edited.scope3Kgco2 current.scope3Kgco2
  scope3Detail := column loaded.scope3Detail edited.scope3Detail current.scope3Detail
  carbonIntensityKgco2Ton :=
    column loaded.carbonIntensityKgco2Ton edited.carbonIntensityKgco2Ton
      current.carbonIntensityKgco2Ton
  productTon := column loaded.productTon edited.productTon current.productTon
  sampleCount := column loaded.sampleCount edited.sampleCount current.sampleCount
  factorsVersion := column loaded.factorsVersion edited.factorsVersion current.factorsVersion
  assuranceStatus := column loaded.assuranceStatus edited.assuranceStatus current.assuranceStatus
  submittedBy := column loaded.submittedBy edited.submittedBy current.submittedBy
  submittedAt := column loaded.submittedAt edited.submittedAt current.submittedAt
  approvedBy := column loaded.approvedBy edited.approvedBy current.approvedBy
  approvedAt := column loaded.approvedAt edited.approvedAt current.approvedAt
  lockedBy := column loaded.lockedBy edited.lockedBy current.lockedBy
  lockedAt := column loaded.lockedAt edited.lockedAt current.lockedAt
  createdAt := column loaded.createdAt edited.createdAt current.createdAt

@[simp] theorem flush_current (loaded edited : CarbonReport) : flush loaded edited loaded = edited := by
  simp only [flush, column_current]

def saveReport (db : CarbonDb) (reportId : Nat) (loaded edited : CarbonReport) : CarbonDb :=
  { db with reports := db.reports.update reportId (flush loaded edited) }

def appendAssuranceEvent (db : CarbonDb) (event : AssuranceEvent) : CarbonDb :=
  { db with assuranceEvents := db.assuranceEvents.insert event }

theorem find?_saveReport (db : CarbonDb) (reportId id : Nat) (loaded edited : CarbonReport) :
    (saveReport db reportId loaded edited).reports.find? id =
      if id = reportId then (db.reports.find? id).map (flush loaded edited)
      else db.reports.find? id :=
  Table.find?_update _ _ _ _

theorem assuranceTrail_append (db : CarbonDb) (event : AssuranceEvent) (id : Nat) :
    assuranceTrail (appendAssuranceEvent db event) id =
      assuranceTrail db id ++ if event.reportId = id then [event] else [] :=
  Table.filter_insert _ _ _

theorem findReport_some {db : CarbonDb} {key : Nat × Datetime × PeriodType} {id : Nat}
    {report : CarbonReport} (found : findReport db key = some (id, report)) :
    db.reports.find? id = some report ∧ report.key = key := by
  have member := List.mem_of_find?_eq_some found
  have matched := List.find?_some found
  exact ⟨Table.mem_rows.mp member, by simpa using matched⟩

theorem findReport_none {db : CarbonDb} {key : Nat × Datetime × PeriodType}
    (absent : findReport db key = none) {id : Nat} {report : CarbonReport}
    (found : db.reports.find? id = some report) : report.key ≠ key := by
  have checked := List.find?_eq_none.mp absent (id, report) (Table.mem_rows.mpr found)
  simpa using checked

end Iems.Carbon
