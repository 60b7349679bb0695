import Iems.Carbon.AssuranceTrail
import Iems.Carbon.Windows

/-! The accounting of mean rates over a duration, against the accounting of integrated totals that the reports use. -/
namespace Iems.Carbon
open Lib Iems.Core Services

/-- The scopes, intensity, product and factors version of two breakdowns are the same. -/
structure SameScopes (a b : CarbonBreakdown) : Prop where
  scope1 : a.scope1Kgco2 = b.scope1Kgco2
  scope2 : a.scope2Kgco2 = b.scope2Kgco2
  intensity : a.carbonIntensityKgco2Ton = b.carbonIntensityKgco2Ton
  product : a.productTon = b.productTon
  version : a.factorsVersion = b.factorsVersion

/-- A plant that both computations look up in the same way: `compute_scopes` takes an empty code for none. -/
def SameLookup (factors : Dict String EmissionFactors) (plantCode : String) : Prop :=
  plantCode ≠ "" ∨ factors.get? "" = none

section
variable {factors : Dict String EmissionFactors} {plantCode : String}

theorem resolveFactors_named (cfg : Settings) (named : plantCode ≠ "") :
    resolveFactors factors cfg (some plantCode) none = factorsFor factors cfg plantCode := by
  have given : namedCode (some plantCode) = some plantCode := by simp [namedCode, named]
  rw [resolveFactors, given]
  rfl

/-- Without a code the fallback differs from that of the empty code in the name only. -/
theorem resolveFactors_unlisted (cfg : Settings) (unlisted : factors.get? "" = none) :
    resolveFactors factors cfg (some "") none = { factorsFor factors cfg "" with plantCode := "default" } := by
  rw [factorsFor, unlisted]
  rfl

theorem computeScopes_integrals (ef : EmissionFactors) (fuel steam power feed hours : ℚ) (code other name : String) :
    SameScopes (computeScopesFromIntegrals ef (fuel * hours) (steam * hours) (power * hours) (feed * hours) code)
      (computeScopes { ef with plantCode := name } fuel steam power feed hours other) := by
  have fuelM3 : fuel * hours * 1000 = fuel * 1000 * hours := mul_right_comm _ _ _
  have electricityKwh : power * hours * 1000 = power * 1000 * hours := mul_right_comm _ _ _
  constructor <;> simp only [computeScopesFromIntegrals, computeScopes, fuelM3, electricityKwh]

theorem integrals_sameScopes (same : SameLookup factors plantCode) (cfg : Settings) (fuel steam power feed hours : ℚ) :
    SameScopes (computeScopesFromIntegrals (factorsFor factors cfg plantCode) (fuel * hours) (steam * hours)
        (power * hours) (feed * hours) plantCode)
      (computeScopesOf factors cfg fuel steam power feed hours (some plantCode)) := by
  unfold computeScopesOf
  dsimp only
  by_cases named : plantCode = ""
  · subst named
    have unlisted := same.resolve_left (absurd rfl)
    rw [resolveFactors_unlisted cfg unlisted]
    exact computeScopes_integrals _ fuel steam power feed hours _ _ _
  · rw [resolveFactors_named cfg named]
    exact computeScopes_integrals _ fuel steam power feed hours _ _ _

end

/-! ### The stored figures -/

/-- The mean rates of a window, with nothing for a flow that was never recorded. -/
def windowScopes (ctx : GenerateContext) (db : CarbonDb) (plantId : Nat) (plantCode : String) (window : PeriodWindow) :
    CarbonBreakdown :=
  let mean (flow : SensorReading → Option ℚ) :=
    average (samplesIn db.readings plantId flow window.start.instant window.end_.instant)
  computeScopesOf ctx.factors ctx.cfg (mean (·.fuelGasFlowKm3h)) (mean (·.steamFlowTonh))
    (mean (·.electricityPowerMw)) (mean (·.feedFlowTonh))
    (((window.end_.instant - window.start.instant : ℤ) : ℚ) / 3600000000) (some plantCode)

/-- The figures of a report are those of a breakdown. -/
structure HasScopes (report : CarbonReport) (scopes : CarbonBreakdown) : Prop where
  scope1 : report.scope1Kgco2 = scopes.scope1Kgco2
  scope2 : report.scope2Kgco2 = scopes.scope2Kgco2
  intensity : report.carbonIntensityKgco2Ton = some scopes.carbonIntensityKgco2Ton
  product : report.productTon = some scopes.productTon
  version : report.factorsVersion = some scopes.factorsVersion

/-- What a generation answers with is stored with the scopes of its window's mean rates; a locked report is left. -/
def StoresWindowScopes (ctx : GenerateContext) (body : GenerateRequest) (db : CarbonDb) : Prop :=
  ∀ generated, (generateAndPersistReport ctx body db).1 = .ok (some generated) →
    ∃ window plantId report, body.window = some window ∧ db.plants.get? body.plantCode = some plantId ∧
      SameScopes generated.breakdown (windowScopes ctx db plantId body.plantCode window) ∧
      (generateAndPersistReport ctx body db).2.reports.find? generated.reportId = some report ∧
      (HasScopes report (windowScopes ctx db plantId body.plantCode window) ∨
        db.reports.find? generated.reportId = some report ∧ report.status = .locked)

theorem boundary_days (periodType : PeriodType) (n : ℕ) : ∃ days : ℤ, boundary periodType n = days * microsPerDay := by
  cases periodType <;> exact ⟨_, rfl⟩

/-- A window is whole days long, at least one. -/
theorem window_long {body : GenerateRequest} {window : PeriodWindow} (found : body.window = some window) :
    window.start.instant + 4 ≤ window.end_.instant := by
  obtain ⟨n, placed, _⟩ := periodWindow_at found
  obtain ⟨first, start⟩ := boundary_days body.periodType n
  obtain ⟨last, end_⟩ := boundary_days body.periodType (n + 1)
  have later := boundary_strictMono body.periodType n.lt_succ_self
  rw [placed.start, placed.end_, start, end_]
  rw [start, end_] at later
  have days : first < last := lt_of_mul_lt_mul_right later (by decide)
  unfold microsPerDay
  omega

theorem aggregate_some {plants : Dict String Nat} {readings : List SensorReading} {plantCode : String} {plantId : Nat}
    {start end_ : ℤ} {totals : AggregateTotals} (known : plants.get? plantCode = some plantId)
    (aggregated : aggregateSensorPeriod plants readings plantCode start end_ = .ok (some totals)) :
    readingsIn readings plantId start end_ ≠ [] := by
  intro none
  unfold aggregateSensorPeriod at aggregated
  rw [known] at aggregated
  dsimp only at aggregated
  rw [none, List.length_nil, if_pos rfl] at aggregated
  cases aggregated

section
variable {ctx : GenerateContext} {body : GenerateRequest} {db : CarbonDb} {p : Prepared}

theorem prepareReport_computed (prepared : prepareReport ctx body db = .ok (some p)) :
    aggregateSensorPeriod db.plants db.readings body.plantCode p.window.start.instant p.window.end_.instant =
        .ok (some p.aggregates) ∧
      p.breakdown = computedBreakdown ctx body.plantCode p.aggregates ∧
      p.figures = computedFigures ctx body.plantCode p.window p.aggregates := by
  unfold prepareReport at prepared
  split at prepared
  · cases prepared
  · split at prepared
    · cases prepared
    · split at prepared
      · cases prepared
      · cases prepared
      · rename_i aggregates aggregated
        cases prepared
        exact ⟨aggregated, rfl, rfl⟩

theorem prepared_sameScopes (same : SameLookup ctx.factors body.plantCode)
    (prepared : prepareReport ctx body db = .ok (some p)) :
    SameScopes p.breakdown (windowScopes ctx db p.plantId body.plantCode p.window) := by
  obtain ⟨found, known, _⟩ := prepareReport_ok prepared
  obtain ⟨aggregated, breakdown, _⟩ := prepareReport_computed prepared
  obtain ⟨totals, again, fuel, steam, electricity, product⟩ := aggregate_totals known (aggregate_some known aggregated)
  cases aggregated.symm.trans again
  rw [breakdown, computedBreakdown, fuel, steam, electricity, product, durationHours_long (window_long found)]
  exact integrals_sameScopes same _ _ _ _ _ _

theorem SameScopes.hasScopes {scopes : CarbonBreakdown} {report : CarbonReport} (same : SameScopes p.breakdown scopes)
    (prepared : prepareReport ctx body db = .ok (some p)) (figures : report.figures = p.figures) :
    HasScopes report scopes := by
  obtain ⟨_, breakdown, computed⟩ := prepareReport_computed prepared
  rw [computed, computedFigures, ← breakdown] at figures
  have version : p.breakdown.factorsVersion = (factorsFor ctx.factors ctx.cfg body.plantCode).version := by
    rw [breakdown]
    rfl
  constructor
  · exact (congrArg ReportFigures.scope1Kgco2 figures).trans same.scope1
  · exact (congrArg ReportFigures.scope2Kgco2 figures).trans same.scope2
  · exact (congrArg ReportFigures.carbonIntensityKgco2Ton figures).trans (congrArg some same.intensity)
  · exact (congrArg ReportFigures.productTon figures).trans (congrArg some same.product)
  · exact (congrArg ReportFigures.factorsVersion figures).trans (congrArg some (version.symm.trans same.version))

/-- What the commit of a generation leaves under the id that it answers with. -/
theorem generateCommit_stored (prepared : prepareReport ctx body db = .ok (some p)) {id : Nat} {committed : CarbonDb}
    (commit : generateCommit body p db = (.ok id, committed)) :
    ∃ report, committed.reports.find? id = some report ∧
      (report.figures = p.figures ∨ db.reports.find? id = some report ∧ report.status = .locked) := by
  unfold generateCommit at commit
  split at commit
  · rename_i other report existing
    obtain ⟨found, _⟩ := prepareReport_existing prepared existing
    split at commit
    · rename_i locked
      cases commit
      exact ⟨report, found, Or.inr ⟨found, locked⟩⟩
    · cases commit
      refine ⟨regenerateEdit p.figures report, ?_, Or.inl rfl⟩
      rw [find?_saveReport_loaded found, if_pos rfl]
  · split at commit
    · cases commit
    · cases commit
      refine ⟨newReport body p, ?_, Or.inl rfl⟩
      simp only
      rw [Table.find?_insert, if_pos rfl]

theorem generateAndPersistReport_scopes (same : SameLookup ctx.factors body.plantCode) :
    StoresWindowScopes ctx body db := by
  intro generated answered
  revert answered
  unfold generateAndPersistReport
  split
  · intro answered
    cases answered
  · intro answered
    cases answered
  · rename_i p prepared
    split
    · intro answered
      cases answered
    · rename_i id committed commit
      intro answered
      cases answered
      obtain ⟨found, known, _⟩ := prepareReport_ok prepared
      have scopes := prepared_sameScopes same prepared
      obtain ⟨report, stored, computed | locked⟩ := generateCommit_stored prepared commit
      · exact ⟨p.window, p.plantId, report, found, known, scopes, stored, Or.inl (scopes.hasScopes prepared computed)⟩
      · exact ⟨p.window, p.plantId, report, found, known, scopes, stored, Or.inr locked⟩

end

/-- The two ways of accounting agree for every rate and duration, and for every stored report. -/
theorem rates_agree_with_integrals {factors : Dict String EmissionFactors} {plantCode : String}
    (same : SameLookup factors plantCode) :
    (∀ (cfg : Settings) (fuel steam power feed hours : ℚ),
      SameScopes (computeScopesFromIntegrals (factorsFor factors cfg plantCode) (fuel * hours) (steam * hours)
          (power * hours) (feed * hours) plantCode)
        (computeScopesOf factors cfg fuel steam power feed hours (some plantCode))) ∧
    ∀ ctx body db, ctx.factors = factors → body.plantCode = plantCode → StoresWindowScopes ctx body db := by
  constructor
  · exact integrals_sameScopes same
  · rintro ctx body db rfl rfl
    exact generateAndPersistReport_scopes same

theorem rates_agree_with_integrals_olefin :
    SameScopes (computeScopesFromIntegrals (factorsFor (Dict.empty) {} "olefin") (100 * 24) (30 * 24) (15 * 24)
        (0 * 24) "olefin") (computeScopesOf Dict.empty {} 100 30 15 0 24 (some "olefin")) ∧
      StoresWindowScopes sampleFactors sampleGenerate (.start olefinPlants [olefinSample sampleDay.instant 10]) := by
  obtain ⟨scopes, reports⟩ := @rates_agree_with_integrals Dict.empty "olefin" (Or.inl (by decide))
  exact ⟨scopes {} 100 30 15 0 24, reports sampleFactors sampleGenerate _ rfl rfl⟩

/-- A factor file that lists the empty code. -/
def unnamedFactors : Dict String EmissionFactors := ⟨[("", ⟨"", 3, 1, 1, "v1", "site", ""⟩)], by simp⟩

/-- The integrals find the factors under the empty code, the rates fall back to the settings. -/
theorem unnamed_plant_scopes_differ :
    ¬ SameScopes (computeScopesFromIntegrals (factorsFor unnamedFactors {} "") (100 * 1) (30 * 1) (15 * 1) (90 * 1) "")
      (computeScopesOf unnamedFactors {} 100 30 15 90 1 (some "")) := by
  intro same
  have version := same.version
  revert version
  decide

end Iems.Carbon
