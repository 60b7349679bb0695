import Iems.Carbon.Market
import Iems.Core.Timestamp

/-! The published forms of a persisted report, and the total emissions that each of them states. -/
namespace Iems.Carbon
open Lib Iems.Core Services

/-- `float(scope3_kgco2 or 0.0)`. -/
def CarbonReport.scope3 (report : CarbonReport) : ℚ := report.scope3Kgco2.getD 0

def CarbonReport.total (report : CarbonReport) : ℚ :=
  report.scope1Kgco2 + report.scope2Kgco2 + report.scope3

/-! ### API response -/

structure CarbonReportOut where
  id : Nat
  plantCode : String
  periodType : PeriodType
  periodStart : Datetime
  periodEnd : Datetime
  scope1Kgco2 : ℚ
  scope2Kgco2 : ℚ
  scope3Kgco2 : Option ℚ
  totalKgco2 : ℚ
  carbonIntensityKgco2Ton : Option ℚ
  productTon : Option ℚ
  sampleCount : Option Nat
  factorsVersion : Option String
  assuranceStatus : AssuranceStatus
  submittedBy : Option String
  approvedBy : Option String
  lockedBy : Option String
  createdAt : Int
  deriving DecidableEq

def reportOut (id : Nat) (report : CarbonReport) (plantCode : String) : CarbonReportOut :=
  let s3 := report.scope3Kgco2.getD 0
  { id := id
    plantCode := plantCode
    periodType := report.periodType
    periodStart := report.periodStart
    periodEnd := report.periodEnd
    scope1Kgco2 := report.scope1Kgco2
    scope2Kgco2 := report.scope2Kgco2
    scope3Kgco2 := report.scope3Kgco2
    totalKgco2 := report.scope1Kgco2 + report.scope2Kgco2 + s3
    carbonIntensityKgco2Ton := report.carbonIntensityKgco2Ton
    productTon := report.productTon
    sampleCount := report.sampleCount
    factorsVersion := report.factorsVersion
    assuranceStatus := report.status
    submittedBy := report.submittedBy
    approvedBy := report.approvedBy
    lockedBy := report.lockedBy
    createdAt := report.createdAt }

/-! ### Download -/

/-- The JSON body, and the one row of the CSV. -/
structure DownloadPayload where
  id : Nat
  plantCode : String
  periodType : PeriodType
  periodStart : Datetime
  periodEnd : Datetime
  scope1Kgco2 : ℚ
  scope2Kgco2 : ℚ
  scope3Kgco2 : Option ℚ
  totalKgco2 : ℚ
  carbonIntensityKgco2Ton : Option ℚ
  productTon : Option ℚ
  sampleCount : Option Nat
  factorsVersion : Option String
  assuranceStatus : Option AssuranceStatus
  createdAt : Int
  deriving DecidableEq

def downloadReport (id : Nat) (report : CarbonReport) (plantCode : String) : DownloadPayload :=
  let scope3 := report.scope3Kgco2.getD 0
  { id := id
    plantCode := plantCode
    periodType := report.periodType
    periodStart := report.periodStart
    periodEnd := report.periodEnd
    scope1Kgco2 := report.scope1Kgco2
    scope2Kgco2 := report.scope2Kgco2
    scope3Kgco2 := report.scope3Kgco2
    totalKgco2 := report.scope1Kgco2 + report.scope2Kgco2 + scope3
    carbonIntensityKgco2Ton := report.carbonIntensityKgco2Ton
    productTon := report.productTon
    sampleCount := report.sampleCount
    factorsVersion := report.factorsVersion
    assuranceStatus := report.assuranceStatus
    createdAt := report.createdAt }

/-! ### Exports of a generation -/

/-- The row of the exported CSV, which opens the exported JSON too. -/
structure ExportRow where
  plantCode : String
  periodType : PeriodType
  periodStart : Datetime
  periodEnd : Datetime
  scope1Kgco2 : ℚ
  scope2Kgco2 : ℚ
  totalKgco2 : ℚ
  carbonIntensityKgco2Ton : Option ℚ
  productTon : Option ℚ
  sampleCount : Option Nat
  factorsVersion : Option String
  deriving DecidableEq

structure ExportPayload extends ExportRow where
  aggregates : AggregateTotals
  breakdown : CarbonBreakdown
  deriving DecidableEq

structure ExportFiles where
  base : String
  json : ExportPayload
  csv : ExportRow
  deriving DecidableEq

def exportRow (plantCode : String) (report : CarbonReport) : ExportRow where
  plantCode := plantCode
  periodType := report.periodType
  periodStart := report.periodStart
  periodEnd := report.periodEnd
  scope1Kgco2 := report.scope1Kgco2
  scope2Kgco2 := report.scope2Kgco2
  totalKgco2 := report.scope1Kgco2 + report.scope2Kgco2
  carbonIntensityKgco2Ton := report.carbonIntensityKgco2Ton
  productTon := report.productTon
  sampleCount := report.sampleCount
  factorsVersion := report.factorsVersion

/-- `strftime("%Y%m%d")`. -/
def dayStamp (day : Datetime) : String :=
  Timestamp.padZeros 4 day.year ++ Timestamp.padZeros 2 day.month ++ Timestamp.padZeros 2 day.day

def writeExports (plantCode : String) (id : Nat) (report : CarbonReport) (breakdown : CarbonBreakdown)
    (aggregates : AggregateTotals) : ExportFiles where
  base := plantCode ++ "_" ++ report.periodType.text ++ "_" ++ dayStamp report.periodStart ++ "_report_" ++ toString id
  json := { exportRow plantCode report with aggregates := aggregates, breakdown := breakdown }
  csv := exportRow plantCode report

/-! ### ESG pack -/

def totalLabel : String := "Total Scopes 1–3 (kg CO₂)"

structure EsgPack where
  reportId : Nat
  plantCode : String
  rows : List (String × String)
  scope3Rows : List (String × Option ℚ)
  filenameStem : String
  deriving DecidableEq

/-- `generated` is the text of the clock. -/
def buildEsgPack (cfg : Settings) (generated : String) (id : Nat) (report : CarbonReport) (plantCode : String) :
    EsgPack :=
  let scope3 := report.scope3Kgco2.getD 0
  let total := report.scope1Kgco2 + report.scope2Kgco2 + scope3
  { reportId := id
    plantCode := plantCode
    rows :=
      [("Plant", plantCode),
        ("Period type", report.periodType.text),
        ("Period start", (Timestamp.utc report.periodStart).isoformat),
        ("Period end", (Timestamp.utc report.periodEnd).isoformat),
        ("Assurance status", report.status.text),
        ("Scope 1 (kg CO₂)", formatFixed 2 report.scope1Kgco2),
        ("Scope 2 (kg CO₂)", formatFixed 2 report.scope2Kgco2),
        ("Scope 3 light (kg CO₂)", formatFixed 2 scope3),
        (totalLabel, formatFixed 2 total),
        ("Carbon intensity (kg CO₂/t)", formatFixed 2 (report.carbonIntensityKgco2Ton.getD 0)),
        ("Product (t)", formatFixed 2 (report.productTon.getD 0)),
        ("Samples", toString (report.sampleCount.getD 0)),
        ("Factors version", report.factorsVersion.getD ""),
        ("Scope 3 factors", (report.scope3Detail.map (·.factorsVersion)).getD ""),
        ("Submitted by", report.submittedBy.getD ""),
        ("Approved by", report.approvedBy.getD ""),
        ("Locked by", report.lockedBy.getD ""),
        ("Pack generated", generated),
        ("Registry", cfg.carbonMarketRegistryName)]
    scope3Rows :=
      [("Cat3 fuel upstream", report.scope3Detail.map (·.cat3FuelUpstreamKgco2)),
        ("Cat1 purchased goods", report.scope3Detail.map (·.cat1PurchasedGoodsKgco2)),
        ("Cat5 waste", report.scope3Detail.map (·.cat5WasteKgco2))]
    filenameStem := "esg_pack_" ++ plantCode ++ "_" ++ report.periodType.text ++ "_" ++ toString id }

/-! ### The totals -/

/-- Every published form of the report states this total. -/
structure PublishedTotals (cfg : Settings) (generated : String) (id : Nat) (report : CarbonReport)
    (plantCode : String) (breakdown : CarbonBreakdown) (aggregates : AggregateTotals) (total : ℚ) : Prop where
  api : (reportOut id report plantCode).totalKgco2 = total
  download : (downloadReport id report plantCode).totalKgco2 = total
  registry : (registryReport (id, report, plantCode)).totalKgco2 = total
  exportJson : (writeExports plantCode id report breakdown aggregates).json.totalKgco2 = total
  exportCsv : (writeExports plantCode id report breakdown aggregates).csv.totalKgco2 = total
  pack : (buildEsgPack cfg generated id report plantCode).rows.lookup totalLabel = some (formatFixed 2 total)

theorem buildEsgPack_total (cfg : Settings) (generated : String) (id : Nat) (report : CarbonReport)
    (plantCode : String) :
    (buildEsgPack cfg generated id report plantCode).rows.lookup totalLabel = some (formatFixed 2 report.total) := by
  simp only [buildEsgPack, totalLabel, lookup_cons_ite, CarbonReport.total, CarbonReport.scope3]
  rfl

/-- The exported files leave scope 3 out. -/
theorem publishedTotals_agree_iff (cfg : Settings) (generated : String) (id : Nat) (report : CarbonReport)
    (plantCode : String) (breakdown : CarbonBreakdown) (aggregates : AggregateTotals) :
    PublishedTotals cfg generated id report plantCode breakdown aggregates report.total ↔
      (report.scope3Kgco2 = none ∨ report.scope3Kgco2 = some 0) := by
  have zero : report.scope3 = 0 ↔ (report.scope3Kgco2 = none ∨ report.scope3Kgco2 = some 0) := by
    unfold CarbonReport.scope3
    cases report.scope3Kgco2 <;> simp
  have exported : report.scope1Kgco2 + report.scope2Kgco2 = report.total ↔ report.scope3 = 0 := by
    unfold CarbonReport.total
    exact left_eq_add
  rw [← zero, ← exported]
  constructor
  · intro published
    exact published.exportCsv
  · intro same
    exact
      { api := rfl
        download := rfl
        registry := rfl
        exportJson := same
        exportCsv := same
        pack := buildEsgPack_total cfg generated id report plantCode }

def julyFirst : Datetime := ⟨2026, 7, 1, 0, by decide⟩

def julySecond : Datetime := ⟨2026, 7, 2, 0, by decide⟩

def publishedReport : CarbonReport where
  plantId := 1
  periodStart := julyFirst
  periodEnd := julySecond
  periodType := .daily
  scope1Kgco2 := 100
  scope2Kgco2 := 50
  scope3Kgco2 := some 25
  scope3Detail := none
  carbonIntensityKgco2Ton := some 15
  productTon := some 10
  sampleCount := some 1
  factorsVersion := some "v1"
  createdAt := 0

/-- The exported total is 150, the registry total 175. -/
theorem exported_total_without_scope3 :
    ¬ ∀ (cfg : Settings) (generated : String) (id : Nat) (report : CarbonReport) (plantCode : String)
        (breakdown : CarbonBreakdown) (aggregates : AggregateTotals),
      PublishedTotals cfg generated id report plantCode breakdown aggregates report.total := by
  intro agree
  have exported := (agree {} "" 1 publishedReport "olefin" ⟨100, 50, 15, 10, "v1", some "olefin"⟩
    ⟨1, 10, 0, 0, 10, 10, 0, 0, 10⟩).exportCsv
  exact absurd exported (by decide +kernel)

end Iems.Carbon
