import Iems.Ml.LiveFeatures

/-! The history of the dashboard, and where the readers of a plant's history get its newest readings. -/
namespace Iems.Api
open Lib Iems.Core Carbon Services Repositories

structure EnergyHistoryPoint where
  time : Int
  electricityPowerMw : Option ℚ
  fuelGasFlowKm3h : Option ℚ
  steamFlowTonh : Option ℚ
  feedFlowTonh : Option ℚ
  reactorTempC : Option ℚ
  pressureBar : Option ℚ
  energyIntensityKgoeTon : Option ℚ
  carbonEmissionKgco2Ton : Option ℚ
  carbonIntensityKgco2Ton : ℚ
  energyEfficiencyPercent : Option ℚ
  scope1Kgco2 : ℚ
  scope2Kgco2 : ℚ
  deriving DecidableEq

structure EnergyHistoryOut where
  plantCode : String
  minutes : Int
  count : Nat
  points : List EnergyHistoryPoint
  generatedAt : Int
  deriving DecidableEq

section
variable (cfg : Settings) (factors : Dict String EmissionFactors)

def historyPoint (plantCode : String) (reading : Timed ReadingRow) : EnergyHistoryPoint :=
  let r := reading.2
  let scopes := computeScopesOf factors cfg (orNumber r.fuelGasFlowKm3h 0) (orNumber r.steamFlowTonh 0)
    (orNumber r.electricityPowerMw 0) (orNumber r.feedFlowTonh 1) 1 (some plantCode)
  { time := reading.1
    electricityPowerMw := r.electricityPowerMw
    fuelGasFlowKm3h := r.fuelGasFlowKm3h
    steamFlowTonh := r.steamFlowTonh
    feedFlowTonh := r.feedFlowTonh
    reactorTempC := r.reactorTempC
    pressureBar := r.pressureBar
    energyIntensityKgoeTon := r.energyIntensityKgoeTon
    carbonEmissionKgco2Ton := r.carbonEmissionKgco2Ton
    carbonIntensityKgco2Ton := scopes.carbonIntensityKgco2Ton
    energyEfficiencyPercent := r.energyEfficiencyPercent
    scope1Kgco2 := scopes.scope1Kgco2
    scope2Kgco2 := scopes.scope2Kgco2 }

/-- `queried` is what the query for the history returned or raised, `memory` and `later` what the demo memory
answered the first and the second time. -/
def energyHistory (now : Int) (plantCode : String) (minutes : Int) (queried : Except Unit (List (Timed ReadingRow)))
    (memory later : List (Timed ReadingRow)) : EnergyHistoryOut :=
  let rows := if cfg.allowDemoMemory then [] else queried.toOption.getD []
  let remembered := if cfg.allowDemoMemory then memory else []
  let sourceRows := if remembered = [] then rows else remembered
  let sourceRows := if sourceRows = [] ∧ cfg.allowDemoMemory then later else sourceRows
  let points := sourceRows.map (historyPoint cfg factors plantCode)
  { plantCode := plantCode
    minutes := minutes
    count := points.length
    points := points
    generatedAt := now }

/-- The history as it is read from the table. -/
def tableHistory (plants : Dict String Nat) (table : Dict (Int × Nat) ReadingRow) (now : Int) (plantCode : String)
    (minutes : Int) (memory later : List (Timed ReadingRow)) : EnergyHistoryOut :=
  energyHistory cfg factors now plantCode minutes (.ok (getHistory plants table now plantCode minutes)) memory later

end

section
variable {cfg : Settings} {factors : Dict String EmissionFactors} {plants : Dict String Nat}
  {table : Dict (Int × Nat) ReadingRow} {now minutes : Int} {plantCode : String} {memory later : List (Timed ReadingRow)}

theorem tableHistory_points (refused : cfg.allowDemoMemory = false) :
    (tableHistory cfg factors plants table now plantCode minutes memory later).points =
      (getHistory plants table now plantCode minutes).map (historyPoint cfg factors plantCode) := by
  simp [tableHistory, energyHistory, refused, Except.toOption]

/-- The last point of a history, if it has one, is the point of the latest reading. -/
def EndsWithLatest (cfg : Settings) (factors : Dict String EmissionFactors) (plants : Dict String Nat)
    (table : Dict (Int × Nat) ReadingRow) (plantCode : String) (points : List EnergyHistoryPoint) : Prop :=
  ∀ point, points.getLast? = some point →
    (latestReading plants table plantCode).map (historyPoint cfg factors plantCode) = some point

theorem historyPoint_injOn {x y : Timed ReadingRow} (first : x ∈ plantReadings plants table plantCode)
    (second : y ∈ plantReadings plants table plantCode)
    (same : historyPoint cfg factors plantCode x = historyPoint cfg factors plantCode y) : x = y :=
  plantReadings_unique first second (congrArg EnergyHistoryPoint.time same)

theorem tableHistory_latest_iff (refused : cfg.allowDemoMemory = false) :
    EndsWithLatest cfg factors plants table plantCode
        (tableHistory cfg factors plants table now plantCode minutes memory later).points ↔
      (windowReadings plants table now plantCode minutes).length ≤ 900 := by
  unfold EndsWithLatest
  rw [tableHistory_points refused, List.getLast?_map, ← getHistory_last_iff (by decide : 0 < 900)]
  constructor
  · intro latest row end_
    obtain ⟨newest, found, same⟩ := Option.map_eq_some_iff.mp (latest _ (congrArg (Option.map _) end_))
    have listed := (mem_windowReadings.mp (List.mem_of_mem_take (List.mem_of_getLast? end_))).1
    rw [found, historyPoint_injOn (latestReading_some found).1 listed same]
  · rintro latest point end_
    obtain ⟨row, last, rfl⟩ := Option.map_eq_some_iff.mp end_
    rw [latest row last, Option.map_some]

end

/-- The history of a plant, the rows of the sequence model and the history of the dashboard are the newest readings
exactly where no query meets more rows than its limit. -/
theorem histories_newest_iff (cfg : Settings) (factors : Dict String EmissionFactors) (plants : Dict String Nat)
    (table : Dict (Int × Nat) ReadingRow) (now : Int) (plantCode : String) (minutes : Int) (limit : Nat)
    (memory later : List (Timed ReadingRow)) :
    (Newest Prod.fst limit (windowReadings plants table now plantCode minutes)
          (getHistory plants table now plantCode minutes limit) ↔
        (windowReadings plants table now plantCode minutes).length ≤ limit ∨ limit = 0) ∧
      (∀ features, Ml.lstmMatrix cfg plants now (some table) plantCode .lstm features =
        if Ml.lstmHistory cfg plants now table plantCode = [] then none
        else some ((Ml.lstmHistory cfg plants now table plantCode).map fun reading =>
          (Ml.rowFeatures reading.2 features).row)) ∧
      ((cfg.mlLstmLookback ≤ (Ml.lstmWindow cfg plants now table plantCode).length →
          Newest Prod.fst cfg.mlLstmLookback (plantReadings plants table plantCode)
            (Ml.lstmHistory cfg plants now table plantCode)) ↔
        (Ml.lstmWindow cfg plants now table plantCode).length ≤
          if cfg.mlLstmLookback < 2 then cfg.mlLstmLookback else 2 * cfg.mlLstmLookback) ∧
      (cfg.allowDemoMemory = false → (EndsWithLatest cfg factors plants table plantCode
          (tableHistory cfg factors plants table now plantCode minutes memory later).points ↔
        (windowReadings plants table now plantCode minutes).length ≤ 900)) :=
  ⟨getHistory_newest_iff limit, Ml.lstmMatrix_rows cfg plants now table plantCode,
    Ml.lstmHistory_newest_iff cfg plants now table plantCode, tableHistory_latest_iff⟩

/-- Seventeen readings of a plant, one a second. -/
def everySecond : Dict (Int × Nat) ReadingRow :=
  ⟨(List.range 17).map fun i : Nat => ((i * 1000000, 1), { electricityPowerMw := some (15 + i) }), by decide +kernel⟩

/-- The query for the last eight readings returns sixteen that the latest one is not among. -/
theorem oldest_readings_returned :
    ¬ Newest Prod.fst 16 (windowReadings onePlant everySecond 16000000 "olefin" 2)
        (getHistory onePlant everySecond 16000000 "olefin" 2 16) ∧
      ¬ (8 ≤ (Ml.lstmWindow {} onePlant 16000000 everySecond "olefin").length →
        Newest Prod.fst 8 (plantReadings onePlant everySecond "olefin")
          (Ml.lstmHistory {} onePlant 16000000 everySecond "olefin")) := by
  have length : (windowReadings onePlant everySecond 16000000 "olefin" 2).length = 17 := by
    have known : onePlant.get? "olefin" = some 1 := by decide
    rw [length_windowReadings known]
    decide +kernel
  constructor
  · rw [getHistory_newest_iff, length]
    decide
  · have window : (Ml.lstmWindow {} onePlant 16000000 everySecond "olefin").length = 17 := length
    refine mt (Ml.lstmHistory_newest_iff {} onePlant 16000000 everySecond "olefin").mp ?_
    rw [window]
    decide

end Iems.Api
