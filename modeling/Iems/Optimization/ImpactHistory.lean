import Iems.Lib.Rounding
import Iems.Optimization.PlannedFields
import Iems.Repositories.History
import Mathlib.Tactic.FieldSimp

/-! Which readings a measured saving comes from, against the time of the apply. -/
namespace Iems.Optimization
open Lib Repositories

/-- A measurement at an instant, on the stored readings. -/
def impactContext (cfg : Core.Settings) (plants : Dict String Nat) (table : Dict (Int × Nat) ReadingRow) (now : Int) :
    ImpactContext where
  cfg := cfg
  getHistory := fun plantCode minutes limit =>
    (Repositories.getHistory plants table now plantCode minutes limit).map fun row =>
      ⟨row.2.energyIntensityKgoeTon, row.2.energyEfficiencyPercent⟩

def impactBaseline (rec : OptimizationRecommendation) : Option ℚ :=
  rec.baselineIntensity.or (rec.current.get? "energy_intensity_kgoe_ton")

def intensitiesOf (readings : List (Timed ReadingRow)) : List ℚ := readings.filterMap (·.2.energyIntensityKgoeTon)

/-- The readings that the average intensity is taken of. -/
def averagedReadings (cfg : Core.Settings) (plants : Dict String Nat) (table : Dict (Int × Nat) ReadingRow) (now : Int)
    (plantCode : String) : List (Timed ReadingRow) :=
  (Repositories.getHistory plants table now plantCode cfg.optImpactWindowMinutes
    (max 60 (cfg.optImpactWindowMinutes * 60))).filter fun row => row.2.energyIntensityKgoeTon.isSome

/-! ### What the claim of a saving means -/

def TakenAfterApply (rec : OptimizationRecommendation) (time : Int) : Prop := ∀ appliedAt ∈ rec.appliedAt, appliedAt ≤ time

instance (rec : OptimizationRecommendation) (time : Int) : Decidable (TakenAfterApply rec time) :=
  inferInstanceAs (Decidable (∀ appliedAt ∈ rec.appliedAt, appliedAt ≤ time))

/-- The mean of the intensities against the baseline, in kWh an hour at the proposed feed, or at 100 tons. -/
def savingOver (rec : OptimizationRecommendation) (baseline : ℚ) (intensities : List ℚ) : ℚ :=
  roundTo 2 ((baseline - intensities.sum / intensities.length) *
    (((rec.proposed.get? "feed_flow_tonh").filter (· ≠ 0)).getD 100) * (1163 / 100))

/-- The measurement stores a saving that it reports as realized from the history. -/
def StoresHistorySaving (ctx : ImpactContext) (body : ImpactRequest) (db : RecStore) (saving : ℚ) : Prop :=
  ∃ outcome, (measureImpact ctx body db).1 = .ok outcome ∧ outcome.detail = "realized_from_history" ∧
    outcome.realizedSavingKwhPerH = some saving ∧
      (getRecommendation (measureImpact ctx body db).2 body.recommendationId).bind (·.realizedSavingKwhPerH) =
        some saving

/-- The row with another intensity, where it has one and was taken before the apply. -/
def reworkReading (rec : OptimizationRecommendation) (other : Int → ℚ → ℚ) (time : Int) (row : ReadingRow) : ReadingRow :=
  if TakenAfterApply rec time then row
  else { row with energyIntensityKgoeTon := row.energyIntensityKgoeTon.map (other time) }

/-- The table as it would be had the intensities before the apply been others. -/
def reworkBefore (rec : OptimizationRecommendation) (other : Int → ℚ → ℚ) (table : Dict (Int × Nat) ReadingRow) :
    Dict (Int × Nat) ReadingRow :=
  table.mapValues fun key row => reworkReading rec other key.1 row

/-- A saving stored from the history is the one of some readings of the window that were taken after the apply, no
earlier reading has a part in it, and none is stored when the window holds no reading from after the apply. -/
structure FromAfterApply (cfg : Core.Settings) (plants : Dict String Nat) (table : Dict (Int × Nat) ReadingRow) (now : Int)
    (body : ImpactRequest) (db : RecStore) (rec : OptimizationRecommendation) : Prop where
  readings : ∀ saving, StoresHistorySaving (impactContext cfg plants table now) body db saving →
    ∃ baseline readings, impactBaseline rec = some baseline ∧ readings ≠ [] ∧
      readings.Sublist (windowReadings plants table now rec.plantCode cfg.optImpactWindowMinutes) ∧
      (∀ row ∈ readings, TakenAfterApply rec row.1 ∧ row.2.energyIntensityKgoeTon ≠ none) ∧
      saving = savingOver rec baseline (intensitiesOf readings)
  independent : ∀ other saving, StoresHistorySaving (impactContext cfg plants table now) body db saving →
    StoresHistorySaving (impactContext cfg plants (reworkBefore rec other table) now) body db saving
  silent : (∀ row ∈ windowReadings plants table now rec.plantCode cfg.optImpactWindowMinutes,
      ¬ TakenAfterApply rec row.1) →
    ∀ saving, ¬ StoresHistorySaving (impactContext cfg plants table now) body db saving

/-! ### The readings of a measurement -/

section Readings
variable {cfg : Core.Settings} {plants : Dict String Nat} {table : Dict (Int × Nat) ReadingRow} {now : Int}
  {plantCode : String}

theorem averagedReadings_sublist : (averagedReadings cfg plants table now plantCode).Sublist
    (windowReadings plants table now plantCode cfg.optImpactWindowMinutes) :=
  List.filter_sublist.trans (List.take_sublist _ _)

theorem averagedReadings_intensity {row : Timed ReadingRow} (member : row ∈ averagedReadings cfg plants table now plantCode) :
    row.2.energyIntensityKgoeTon ≠ none := by
  have some_ := (List.mem_filter.mp member).2
  exact Option.isSome_iff_ne_none.mp some_

/-- A measurement averages the intensities of its history. -/
theorem history_intensities : (((impactContext cfg plants table now).getHistory plantCode
      cfg.optImpactWindowMinutes (max 60 (cfg.optImpactWindowMinutes * 60))).filterMap (·.energyIntensityKgoeTon)) =
    intensitiesOf (averagedReadings cfg plants table now plantCode) := by
  unfold intensitiesOf averagedReadings impactContext
  rw [List.filterMap_map, List.filterMap_filter]
  refine List.filterMap_congr fun row _ => ?_
  cases intensity : row.2.energyIntensityKgoeTon <;> simp [intensity]

theorem intensitiesOf_eq_nil {readings : List (Timed ReadingRow)}
    (present : ∀ row ∈ readings, row.2.energyIntensityKgoeTon ≠ none) : intensitiesOf readings = [] ↔ readings = [] := by
  unfold intensitiesOf
  rw [List.filterMap_eq_nil_iff, List.eq_nil_iff_forall_not_mem]
  constructor
  · intro missing row member
    exact present row member (missing row member)
  · intro none row member
    exact absurd member (none row)

theorem averagedReadings_rework (rec : OptimizationRecommendation) (other : Int → ℚ → ℚ) :
    averagedReadings cfg plants (reworkBefore rec other table) now plantCode =
      (averagedReadings cfg plants table now plantCode).map fun row => (row.1, reworkReading rec other row.1 row.2) := by
  unfold averagedReadings reworkBefore
  rw [getHistory_mapValues (f := fun time row => reworkReading rec other time row), List.filter_map]
  congr 1
  refine List.filter_congr fun row _ => ?_
  by_cases after : TakenAfterApply rec row.1 <;> simp [reworkReading, after]

end Readings

/-! ### What a measurement stores -/

/-- A saving is said to come from the history exactly when it has a baseline and an intensity to compare. -/
theorem impactDetail_history_iff (ctx : ImpactContext) (rec : OptimizationRecommendation) (intensities : List ℚ)
    (baseline : Option ℚ) : impactDetail (impactRecord ctx rec intensities baseline) = "realized_from_history" ↔
      baseline ≠ none ∧ intensities ≠ [] := by
  cases baseline with
  | none =>
    cases estimate : rec.estimatedEnergySavingKwhPerH with
    | none => simp [impactRecord, estimate, impactDetail]
    | some saving => by_cases applied : rec.status = .applied <;> simp [impactRecord, estimate, applied, impactDetail]
  | some before =>
    by_cases empty : intensities = []
    · cases estimate : rec.estimatedEnergySavingKwhPerH with
      | none => simp [impactRecord, mean, empty, estimate, impactDetail]
      | some saving =>
        by_cases applied : rec.status = .applied <;> simp [impactRecord, mean, empty, estimate, applied, impactDetail]
    · simp [impactRecord, mean, empty, impactDetail]

theorem realizedSaving_mean (rec : OptimizationRecommendation) (baseline : ℚ) (intensities : List ℚ) :
    realizedSaving rec baseline (intensities.sum / intensities.length) = savingOver rec baseline intensities := by
  have feed : (if (rec.proposed.get? "feed_flow_tonh").getD 0 = 0 then 100
      else (rec.proposed.get? "feed_flow_tonh").getD 0) =
        ((rec.proposed.get? "feed_flow_tonh").filter (· ≠ 0)).getD 100 := by
    cases rec.proposed.get? "feed_flow_tonh" with
    | none => rfl
    | some feed => by_cases zero : feed = 0 <;> simp [Option.filter, zero]
  unfold realizedSaving savingOver Ml.intensityToEnergyKwh Ml.kgoeToKwh
  dsimp only
  rw [feed]
  congr 1
  ring

section Measurement
variable {cfg : Core.Settings} {plants : Dict String Nat} {table : Dict (Int × Nat) ReadingRow} {now : Int}
  {body : ImpactRequest} {db : RecStore} {rec : OptimizationRecommendation} {saving : ℚ}

/-- What a measurement of an applied recommendation records. -/
def measuredRecord (cfg : Core.Settings) (plants : Dict String Nat) (table : Dict (Int × Nat) ReadingRow) (now : Int)
    (rec : OptimizationRecommendation) : Option (ℚ × AuditDetail) :=
  impactRecord (impactContext cfg plants table now) rec
    (intensitiesOf (averagedReadings cfg plants table now rec.plantCode)) (impactBaseline rec)

theorem measureImpact_applied (cfg : Core.Settings) (plants : Dict String Nat) (table : Dict (Int × Nat) ReadingRow)
    (now : Int) (found : getRecommendation db body.recommendationId = some rec) (applied : rec.status = .applied) :
    ∃ outcome, (measureImpact (impactContext cfg plants table now) body db).1 = .ok outcome ∧
      outcome.detail = impactDetail (measuredRecord cfg plants table now rec) ∧
      outcome.realizedSavingKwhPerH = (measuredRecord cfg plants table now rec).map Prod.fst ∧
      ∀ saving detail, measuredRecord cfg plants table now rec = some (saving, detail) →
        getRecommendation (measureImpact (impactContext cfg plants table now) body db).2 body.recommendationId =
          some (impactEdit rec saving) := by
  have passed : impactCheck body db = .ok rec := by simp [impactCheck, found, applied]
  rw [measuredRecord, ← history_intensities]
  unfold measureImpact
  rw [passed]
  refine ⟨_, rfl, rfl, rfl, ?_⟩
  intro saving detail recorded
  dsimp only [impactBaseline, impactContext] at recorded ⊢
  rw [recorded]
  dsimp only
  rw [getRecommendation_appendAudit, getRecommendation_save, if_pos rfl, found, Option.map_some, flush_current]

theorem measuredRecord_history (cfg : Core.Settings) (plants : Dict String Nat) (table : Dict (Int × Nat) ReadingRow)
    (now : Int) {baseline : ℚ} (known : impactBaseline rec = some baseline)
    (some_ : averagedReadings cfg plants table now rec.plantCode ≠ []) :
    ∃ detail, measuredRecord cfg plants table now rec =
      some (savingOver rec baseline (intensitiesOf (averagedReadings cfg plants table now rec.plantCode)), detail) := by
  have values : intensitiesOf (averagedReadings cfg plants table now rec.plantCode) ≠ [] := by
    rwa [ne_eq, intensitiesOf_eq_nil fun row member => averagedReadings_intensity member]
  unfold measuredRecord impactRecord mean
  rw [known, if_neg values, ← realizedSaving_mean]
  exact ⟨_, rfl⟩

/-- The figure is the one of the averaged readings. -/
theorem storesHistorySaving_iff (cfg : Core.Settings) (plants : Dict String Nat) (table : Dict (Int × Nat) ReadingRow)
    (now : Int) (found : getRecommendation db body.recommendationId = some rec) (applied : rec.status = .applied) :
    StoresHistorySaving (impactContext cfg plants table now) body db saving ↔
      ∃ baseline, impactBaseline rec = some baseline ∧ averagedReadings cfg plants table now rec.plantCode ≠ [] ∧
        saving = savingOver rec baseline (intensitiesOf (averagedReadings cfg plants table now rec.plantCode)) := by
  obtain ⟨outcome, answered, detail, saved, stored⟩ := measureImpact_applied cfg plants table now found applied
  have history : outcome.detail = "realized_from_history" ↔
      impactBaseline rec ≠ none ∧ averagedReadings cfg plants table now rec.plantCode ≠ [] := by
    rw [detail, measuredRecord, impactDetail_history_iff, ne_eq _ [],
      intensitiesOf_eq_nil fun row member => averagedReadings_intensity member]
  constructor
  · rintro ⟨other, same, named, reported, _⟩
    cases answered.symm.trans same
    obtain ⟨present, some_⟩ := history.mp named
    obtain ⟨baseline, known⟩ := Option.ne_none_iff_exists'.mp present
    obtain ⟨event, recorded⟩ := measuredRecord_history cfg plants table now known some_
    rw [saved, recorded] at reported
    exact ⟨baseline, known, some_, (Option.some.inj reported).symm⟩
  · rintro ⟨baseline, known, some_, rfl⟩
    obtain ⟨event, recorded⟩ := measuredRecord_history cfg plants table now known some_
    refine ⟨outcome, answered, history.mpr ⟨by simp [known], some_⟩, by rw [saved, recorded]; rfl, ?_⟩
    rw [stored _ event recorded]
    rfl

/-! ### An earlier reading moves the figure -/

/-- The averaged readings that were taken before the apply. -/
def earlierCount (rec : OptimizationRecommendation) (readings : List (Timed ReadingRow)) : Nat :=
  readings.countP fun row => decide (¬ TakenAfterApply rec row.1)

theorem intensitiesOf_cons {row : Timed ReadingRow} {rest : List (Timed ReadingRow)} {intensity : ℚ}
    (known : row.2.energyIntensityKgoeTon = some intensity) : intensitiesOf (row :: rest) = intensity :: intensitiesOf rest := by
  simp [intensitiesOf, known]

/-- Every reading with its intensity `step` higher, where it was taken before the apply. -/
def raiseEarlier (rec : OptimizationRecommendation) (step : ℚ) (readings : List (Timed ReadingRow)) : List (Timed ReadingRow) :=
  readings.map fun row => (row.1, reworkReading rec (fun _ intensity => intensity + step) row.1 row.2)

theorem intensitiesOf_raised {readings : List (Timed ReadingRow)} (step : ℚ)
    (present : ∀ row ∈ readings, row.2.energyIntensityKgoeTon ≠ none) :
    (intensitiesOf (raiseEarlier rec step readings)).length = (intensitiesOf readings).length ∧
      (intensitiesOf (raiseEarlier rec step readings)).sum =
        (intensitiesOf readings).sum + earlierCount rec readings * step := by
  induction readings with
  | nil => simp [raiseEarlier, intensitiesOf, earlierCount]
  | cons row rest ih =>
    obtain ⟨sameLength, sum⟩ := ih fun other member => present other (List.mem_cons_of_mem _ member)
    obtain ⟨intensity, known⟩ := Option.ne_none_iff_exists'.mp (present row List.mem_cons_self)
    have raised : intensitiesOf (raiseEarlier rec step (row :: rest)) =
        (if TakenAfterApply rec row.1 then intensity else intensity + step) :: intensitiesOf (raiseEarlier rec step rest) := by
      apply intensitiesOf_cons
      by_cases after : TakenAfterApply rec row.1 <;> simp [reworkReading, after, known]
    have count : (earlierCount rec (row :: rest) : ℚ) =
        earlierCount rec rest + if TakenAfterApply rec row.1 then 0 else 1 := by
      by_cases after : TakenAfterApply rec row.1 <;> simp [earlierCount, after]
    rw [raised, intensitiesOf_cons known, count]
    refine ⟨congrArg (· + 1) sameLength, ?_⟩
    rw [List.sum_cons, List.sum_cons, sum]
    split <;> ring

/-- Some rise of the earlier intensities lowers the saving by one kilowatt hour. -/
theorem savingOver_raised {readings : List (Timed ReadingRow)} (baseline : ℚ)
    (present : ∀ row ∈ readings, row.2.energyIntensityKgoeTon ≠ none) (earlier : ∃ row ∈ readings, ¬ TakenAfterApply rec row.1) :
    ∃ step : ℚ, savingOver rec baseline (intensitiesOf (raiseEarlier rec step readings)) =
      savingOver rec baseline (intensitiesOf readings) - 1 := by
  obtain ⟨row, member, before⟩ := earlier
  have count : (earlierCount rec readings : ℚ) ≠ 0 := by
    have positive : 0 < earlierCount rec readings := List.countP_pos_iff.mpr ⟨row, member, by simpa using before⟩
    exact_mod_cast positive.ne'
  have length : ((intensitiesOf readings).length : ℚ) ≠ 0 := by
    have some_ : intensitiesOf readings ≠ [] := by
      rw [ne_eq, intensitiesOf_eq_nil present]
      exact List.ne_nil_of_mem member
    exact_mod_cast List.length_pos_iff.mpr some_ |>.ne'
  have feed : ((rec.proposed.get? "feed_flow_tonh").filter (· ≠ 0)).getD 100 ≠ 0 := by
    cases rec.proposed.get? "feed_flow_tonh" with
    | none => norm_num
    | some feed => by_cases zero : feed = 0 <;> simp [Option.filter, zero]
  generalize feedFlow : ((rec.proposed.get? "feed_flow_tonh").filter (· ≠ 0)).getD 100 = flow at feed
  refine ⟨(intensitiesOf readings).length / (earlierCount rec readings * flow * (1163 / 100)), ?_⟩
  obtain ⟨sameLength, sum⟩ := @intensitiesOf_raised rec readings
    ((intensitiesOf readings).length / (earlierCount rec readings * flow * (1163 / 100))) present
  have moved := roundDigits_add_int 1
    ((baseline - (intensitiesOf readings).sum / (intensitiesOf readings).length) * flow * (1163 / 100)) (-1)
  unfold savingOver
  rw [sameLength, sum, feedFlow, ← roundDigits_rat, ← roundDigits_rat]
  refine Eq.trans (congrArg _ ?_) (moved.trans (by push_cast; ring))
  push_cast
  field_simp
  ring

/-- Raised intensities give another figure, so a saving that holds without them averages none of them. -/
theorem averaged_after {baseline : ℚ} (found : getRecommendation db body.recommendationId = some rec)
    (applied : rec.status = .applied) (known : impactBaseline rec = some baseline)
    (independent : ∀ other saving, StoresHistorySaving (impactContext cfg plants table now) body db saving →
      StoresHistorySaving (impactContext cfg plants (reworkBefore rec other table) now) body db saving) :
    ∀ row ∈ averagedReadings cfg plants table now rec.plantCode, TakenAfterApply rec row.1 := by
  by_contra some_
  push Not at some_
  obtain ⟨step, lower⟩ := savingOver_raised baseline (fun row member => averagedReadings_intensity member) some_
  obtain ⟨row, member, _⟩ := some_
  have stored := (storesHistorySaving_iff cfg plants table now found applied).mpr
    ⟨baseline, known, List.ne_nil_of_mem member, rfl⟩
  obtain ⟨other, same, _, figure⟩ := (storesHistorySaving_iff cfg plants _ now found applied).mp
    (independent (fun _ intensity => intensity + step) _ stored)
  cases known.symm.trans same
  rw [averagedReadings_rework] at figure
  have unmoved := lower.symm.trans figure.symm
  linarith

/-- The window is fixed to the time of the measurement: a reading from before the apply counts as long as it is in
the window and among the first ones. -/
theorem measureImpact_fromAfterApply_iff (found : getRecommendation db body.recommendationId = some rec)
    (applied : rec.status = .applied) : FromAfterApply cfg plants table now body db rec ↔
      impactBaseline rec = none ∨
        ∀ row ∈ averagedReadings cfg plants table now rec.plantCode, TakenAfterApply rec row.1 := by
  constructor
  · intro holds
    cases known : impactBaseline rec with
    | none => exact Or.inl rfl
    | some baseline => exact Or.inr (averaged_after found applied known holds.independent)
  · intro late
    have after {baseline : ℚ} (known : impactBaseline rec = some baseline) :
        ∀ row ∈ averagedReadings cfg plants table now rec.plantCode, TakenAfterApply rec row.1 :=
      late.resolve_left (by simp [known])
    constructor
    · intro saving stored
      obtain ⟨baseline, known, some_, figure⟩ := (storesHistorySaving_iff cfg plants table now found applied).mp stored
      exact ⟨baseline, _, known, some_, averagedReadings_sublist,
        fun row member => ⟨after known row member, averagedReadings_intensity member⟩, figure⟩
    · intro other saving stored
      obtain ⟨baseline, known, some_, figure⟩ := (storesHistorySaving_iff cfg plants table now found applied).mp stored
      have same : averagedReadings cfg plants (reworkBefore rec other table) now rec.plantCode =
          averagedReadings cfg plants table now rec.plantCode := by
        rw [averagedReadings_rework]
        refine (List.map_congr_left fun row member => ?_).trans (List.map_id _)
        simp [reworkReading, after known row member]
      exact (storesHistorySaving_iff cfg plants _ now found applied).mpr ⟨baseline, known, by rwa [same], by rwa [same]⟩
    · intro before saving stored
      obtain ⟨baseline, known, some_, _⟩ := (storesHistorySaving_iff cfg plants table now found applied).mp stored
      obtain ⟨row, member⟩ := List.exists_mem_of_ne_nil _ some_
      exact before row (averagedReadings_sublist.subset member) (after known row member)

/-- Once the whole window lies after the apply, the average does too. -/
theorem averaged_after_elapsed {row : Timed ReadingRow} (elapsed : ∀ appliedAt ∈ rec.appliedAt,
      appliedAt ≤ now - cfg.optImpactWindowMinutes * 60000000)
    (member : row ∈ averagedReadings cfg plants table now rec.plantCode) : TakenAfterApply rec row.1 := by
  intro appliedAt time
  exact (elapsed appliedAt time).trans (mem_windowReadings.mp (averagedReadings_sublist.subset member)).2

end Measurement

def measuredContext : ApplyContext :=
  { sampleContext with loadUnitState := fun plantCode => some (unitAt plantCode 80 400) }

/-- A recommendation applied at instant 3, with a baseline of 600. -/
def appliedDb : RecStore := run exec .empty (sampleApproval ++ [.apply measuredContext sampleBody])

def samplePlants : Dict String Nat := Dict.empty.set "olefin" 1

/-- A reading of 500 at each of the times. -/
def sampleTable (times : List Int) : Dict (Int × Nat) ReadingRow :=
  Dict.collect (fun _ => some { energyIntensityKgoeTon := some 500 }) (times.map fun time => (time, 1)) .empty

theorem appliedDb_found : ∃ rec, getRecommendation appliedDb 1 = some rec ∧ rec.status = .applied ∧
    rec.appliedAt = some 3 ∧ rec.baselineIntensity = some 600 ∧ rec.plantCode = "olefin" := by
  have row : (getRecommendation appliedDb 1).map (fun rec =>
      (rec.status, rec.appliedAt, rec.baselineIntensity, rec.plantCode)) =
        some (.applied, some 3, some 600, "olefin") := by decide +kernel
  obtain ⟨rec, found, fields⟩ := Option.map_eq_some_iff.mp row
  simp only [Prod.mk.injEq] at fields
  exact ⟨rec, found, fields⟩

/-- A quarter of an hour after the apply the reading from before it is out of the window. -/
theorem measureImpact_fromAfterApply_elapsed : ∃ rec, getRecommendation appliedDb 1 = some rec ∧
    FromAfterApply {} samplePlants (sampleTable [2, 900000004]) 900000005 { recommendationId := 1 } appliedDb rec := by
  obtain ⟨rec, found, applied, time, _⟩ := appliedDb_found
  refine ⟨rec, found, (measureImpact_fromAfterApply_iff found applied).mpr (Or.inr fun row member => ?_)⟩
  refine averaged_after_elapsed ?_ member
  intro appliedAt same
  cases time.symm.trans same
  decide

/-- Measured one microsecond after the apply, the saving comes from a reading of before it. -/
theorem measureImpact_counts_earlier :
    ¬ ∀ (cfg : Core.Settings) (plants : Dict String Nat) (table : Dict (Int × Nat) ReadingRow) (now : Int)
      (body : ImpactRequest) (db : RecStore) (rec : OptimizationRecommendation),
      getRecommendation db body.recommendationId = some rec → rec.status = .applied →
      FromAfterApply cfg plants table now body db rec := by
  intro always
  obtain ⟨rec, found, applied, time, known, plant⟩ := appliedDb_found
  have holds := always {} samplePlants (sampleTable [2]) 4 { recommendationId := 1 } appliedDb rec found applied
  have window : windowReadings samplePlants (sampleTable [2]) 4 rec.plantCode 15 =
      [(2, { energyIntensityKgoeTon := some 500 })] := by
    rw [plant]
    decide +kernel
  have averaged : averagedReadings {} samplePlants (sampleTable [2]) 4 rec.plantCode =
      [(2, { energyIntensityKgoeTon := some 500 })] := by
    rw [plant]
    decide +kernel
  have stored : ∃ saving, StoresHistorySaving (impactContext {} samplePlants (sampleTable [2]) 4)
      { recommendationId := 1 } appliedDb saving :=
    ⟨_, (storesHistorySaving_iff {} samplePlants (sampleTable [2]) 4 found applied).mpr
      ⟨600, by simp [impactBaseline, known], by rw [averaged]; exact List.cons_ne_nil _ _, rfl⟩⟩
  obtain ⟨saving, stored⟩ := stored
  refine holds.silent (fun row member after => ?_) saving stored
  have only := window ▸ member
  cases List.mem_singleton.mp only
  exact absurd (after 3 time) (by decide)

end Iems.Optimization
