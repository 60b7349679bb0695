import Iems.Carbon.Store
import Iems.Services.Carbon
import Mathlib.Logic.Embedding.Basic

/-! Generating a report: aggregate the period, compute the scopes, insert or update in place. -/
namespace Iems.Carbon
open Lib Iems.Core Services

structure GenerateContext where
  cfg : Settings
  factors : Dict String EmissionFactors
  scope3Factors : Dict String Scope3Factors

structure GenerateRequest where
  plantCode : String
  periodType : PeriodType
  reference : Option Datetime := none
  completedOnly : Bool := true
  now : Datetime

/-- What a generation has read and computed when it looks at the stored report. -/
structure Prepared where
  window : PeriodWindow
  plantId : Nat
  aggregates : AggregateTotals
  breakdown : CarbonBreakdown
  figures : ReportFigures
  existing : Option (Nat × CarbonReport)

def GenerateRequest.window (body : GenerateRequest) : Option PeriodWindow :=
  periodWindow body.periodType (body.reference.getD body.now) body.completedOnly

def computedBreakdown (ctx : GenerateContext) (plantCode : String) (aggregates : AggregateTotals) :
    CarbonBreakdown :=
  computeScopesFromIntegrals (factorsFor ctx.factors ctx.cfg plantCode) aggregates.fuelGasKm3
    aggregates.steamTon aggregates.electricityMwh aggregates.productTon plantCode

def computedFigures (ctx : GenerateContext) (plantCode : String) (window : PeriodWindow)
    (aggregates : AggregateTotals) : ReportFigures :=
  let breakdown := computedBreakdown ctx plantCode aggregates
  let s3 := computeScope3 ctx.scope3Factors plantCode aggregates.fuelGasKm3 aggregates.productTon
  { periodEnd := window.end_
    scope1Kgco2 := breakdown.scope1Kgco2
    scope2Kgco2 := breakdown.scope2Kgco2
    scope3Kgco2 := some s3.totalKgco2
    scope3Detail := some
      { cat3FuelUpstreamKgco2 := s3.cat3FuelUpstreamKgco2
        cat1PurchasedGoodsKgco2 := s3.cat1PurchasedGoodsKgco2
        cat5WasteKgco2 := s3.cat5WasteKgco2
        factorsVersion := s3.factorsVersion
        detail := s3.detail }
    carbonIntensityKgco2Ton := some breakdown.carbonIntensityKgco2Ton
    productTon := some breakdown.productTon
    sampleCount := some aggregates.sampleCount
    factorsVersion := some (factorsFor ctx.factors ctx.cfg plantCode).version }

/-- Everything up to the read of the stored report; `none` when the period has no readings. -/
def prepareReport (ctx : GenerateContext) (body : GenerateRequest) (db : CarbonDb) :
    Except CarbonError (Option Prepared) :=
  match body.window with
  | none => .error .dateRange
  | some window =>
    match db.plants.get? body.plantCode with
    | none => .error (.valueError ("Unknown plant_code: " ++ body.plantCode))
    | some plantId =>
      match aggregateSensorPeriod db.plants db.readings body.plantCode window.start.instant
          window.end_.instant with
      | .error e => .error e
      | .ok none => .ok none
      | .ok (some aggregates) =>
        .ok (some
          { window := window
            plantId := plantId
            aggregates := aggregates
            breakdown := computedBreakdown ctx body.plantCode aggregates
            figures := computedFigures ctx body.plantCode window aggregates
            existing := findReport db (plantId, window.start, body.periodType) })

def newReport (body : GenerateRequest) (p : Prepared) : CarbonReport where
  plantId := p.plantId
  periodStart := p.window.start
  periodEnd := p.figures.periodEnd
  periodType := body.periodType
  scope1Kgco2 := p.figures.scope1Kgco2
  scope2Kgco2 := p.figures.scope2Kgco2
  scope3Kgco2 := p.figures.scope3Kgco2
  scope3Detail := p.figures.scope3Detail
  carbonIntensityKgco2Ton := p.figures.carbonIntensityKgco2Ton
  productTon := p.figures.productTon
  sampleCount := p.figures.sampleCount
  factorsVersion := p.figures.factorsVersion
  assuranceStatus := some .draft
  createdAt := body.now.instant

def regenerateEdit (figures : ReportFigures) (report : CarbonReport) : CarbonReport :=
  { report with
    periodEnd := figures.periodEnd
    scope1Kgco2 := figures.scope1Kgco2
    scope2Kgco2 := figures.scope2Kgco2
    scope3Kgco2 := figures.scope3Kgco2
    scope3Detail := figures.scope3Detail
    carbonIntensityKgco2Ton := figures.carbonIntensityKgco2Ton
    productTon := figures.productTon
    sampleCount := figures.sampleCount
    factorsVersion := figures.factorsVersion
    assuranceStatus := some report.status }

/-- The id of the report and the committed database; an insert meets the unique constraint. -/
def generateCommit (body : GenerateRequest) (p : Prepared) (db : CarbonDb) :
    Except CarbonError Nat × CarbonDb :=
  match p.existing with
  | some (id, report) =>
    if report.status = .locked then (.ok id, db)
    else (.ok id, saveReport db id report (regenerateEdit p.figures report))
  | none =>
    match findReport db (p.plantId, p.window.start, body.periodType) with
    | some _ => (.error .integrity, db)
    | none => (.ok db.reports.nextId, { db with reports := db.reports.insert (newReport body p) })

structure GeneratedReport where
  reportId : Nat
  report : Option CarbonReport
  breakdown : CarbonBreakdown
  plantCode : String
  aggregates : AggregateTotals
  factorsVersion : String

def generateAndPersistReport (ctx : GenerateContext) (body : GenerateRequest) (db : CarbonDb) :
    Except CarbonError (Option GeneratedReport) × CarbonDb :=
  match prepareReport ctx body db with
  | .error e => (.error e, db)
  | .ok none => (.ok none, db)
  | .ok (some p) =>
    match generateCommit body p db with
    | (.error e, committed) => (.error e, committed)
    | (.ok id, committed) =>
      (.ok (some
        { reportId := id
          report := committed.reports.find? id
          breakdown := p.breakdown
          plantCode := body.plantCode
          aggregates := p.aggregates
          factorsVersion := (factorsFor ctx.factors ctx.cfg body.plantCode).version }), committed)

/-! ### Listing -/

def joinedReports (db : CarbonDb) : List (Nat × CarbonReport × String) :=
  db.reports.rows.filterMap fun row =>
    (db.plants.items.find? fun plant => plant.2 = row.2.plantId).map fun plant =>
      (row.1, row.2, plant.1)

/-- `ORDER BY period_start DESC`; rows of one start come in whatever order the database gives their ids. -/
def newerFirst (ties : Nat ↪ Nat) (x y : Nat × CarbonReport × String) : Bool :=
  y.2.1.periodStart.instant < x.2.1.periodStart.instant ||
    (y.2.1.periodStart.instant = x.2.1.periodStart.instant && ties x.1 ≤ ties y.1)

/-- The first rows of the ordered answer, with the optional plant filter. -/
def latestReports (ties : Nat ↪ Nat) (db : CarbonDb) (plantCode : Option String) (keep : CarbonReport → Bool)
    (limit : Nat) : List (Nat × CarbonReport × String) :=
  let wanted := (joinedReports db).filter fun row =>
    (plantCode.getD "" = "" ∨ plantCode = some row.2.2) ∧ keep row.2.1
  (wanted.mergeSort (newerFirst ties)).take limit

theorem newerFirst_iff {ties : Nat ↪ Nat} {x y : Nat × CarbonReport × String} : newerFirst ties x y = true ↔
    y.2.1.periodStart.instant < x.2.1.periodStart.instant ∨
      y.2.1.periodStart.instant = x.2.1.periodStart.instant ∧ ties x.1 ≤ ties y.1 := by
  simp [newerFirst]

theorem newerFirst_trans (ties : Nat ↪ Nat) (x y z : Nat × CarbonReport × String) (first : newerFirst ties x y = true)
    (second : newerFirst ties y z = true) : newerFirst ties x z = true := by
  rw [newerFirst_iff] at *
  omega

theorem newerFirst_total (ties : Nat ↪ Nat) (x y : Nat × CarbonReport × String) :
    (newerFirst ties x y || newerFirst ties y x) = true := by
  rw [Bool.or_eq_true, newerFirst_iff, newerFirst_iff]
  omega

end Iems.Carbon
