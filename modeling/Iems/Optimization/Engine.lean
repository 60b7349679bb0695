import Iems.Lib.Decimal
import Iems.Lib.Dict

/-! Benchmarking of the monitored units and the setpoint advice for the low-efficiency ones. -/
namespace Iems.Optimization
open Lib

inductive Tier where
  | high | low
  deriving DecidableEq

structure UnitOperatingState where
  plantCode : String
  electricityPowerMw : ℚ
  fuelGasFlowKm3h : ℚ
  steamFlowTonh : ℚ
  feedFlowTonh : ℚ
  reactorTempC : ℚ
  energyEfficiencyPercent : ℚ
  energyIntensityKgoeTon : ℚ
  carbonEmissionKgco2Ton : Option ℚ := none
  pressureBar : Option ℚ := none
  deriving DecidableEq

structure UnitBenchmark where
  plantCode : String
  energyEfficiencyPercent : ℚ
  energyIntensityKgoeTon : ℚ
  tier : Tier
  gapPpVsBest : ℚ
  benchmarkPlant : Option String
  deriving DecidableEq

inductive Priority where
  | high | medium | low
  deriving DecidableEq

structure SetpointAdvice where
  plantCode : String
  priority : Priority
  title : String
  rationale : String
  current : Dict String ℚ
  proposed : Dict String ℚ
  deltas : Dict String ℚ
  estimatedSecReductionPct : ℚ
  estimatedEnergySavingKwhPerH : ℚ
  estimatedEfficiencyGainPp : ℚ
  benchmarkPlant : Option String
  tags : List String
  deriving DecidableEq

/-- `max(states, key=efficiency)`: the first state of maximal efficiency. -/
def bestUnit : List UnitOperatingState → Option UnitOperatingState
  | [] => none
  | s :: rest => some (rest.foldl (fun best x =>
      if best.energyEfficiencyPercent < x.energyEfficiencyPercent then x else best) s)

/-- `sorted(efficiencies)[len // 2]`. -/
def medianEfficiency (states : List UnitOperatingState) : ℚ :=
  ((states.map (·.energyEfficiencyPercent)).mergeSort).getD (states.length / 2) 0

def classifyUnits (states : List UnitOperatingState) : List UnitBenchmark :=
  match bestUnit states with
  | none => []
  | some best =>
    let medianEff := medianEfficiency states
    states.map fun s =>
      { plantCode := s.plantCode
        energyEfficiencyPercent := s.energyEfficiencyPercent
        energyIntensityKgoeTon := s.energyIntensityKgoeTon
        tier := if medianEff ≤ s.energyEfficiencyPercent then .high else .low
        gapPpVsBest := roundTo 2 (best.energyEfficiencyPercent - s.energyEfficiencyPercent)
        benchmarkPlant := if s.plantCode ≠ best.plantCode then some best.plantCode else none }

/-- The dictionary keyed by plant code: a later state of a code replaces an earlier one. -/
def byCode (states : List UnitOperatingState) (code : String) : Option UnitOperatingState :=
  states.reverse.find? (·.plantCode = code)

def benchByCode (benchmarks : List UnitBenchmark) (code : String) : Option UnitBenchmark :=
  benchmarks.reverse.find? (·.plantCode = code)

def clipTo (value lo hi : ℚ) : ℚ := max lo (min hi value)

def setpoints (reactorTempC feedFlowTonh fuelGasFlowKm3h steamFlowTonh electricityPowerMw : ℚ) :
    Dict String ℚ where
  items := [("reactor_temp_c", reactorTempC), ("feed_flow_tonh", feedFlowTonh),
    ("fuel_gas_flow_km3h", fuelGasFlowKm3h), ("steam_flow_tonh", steamFlowTonh),
    ("electricity_power_mw", electricityPowerMw)]
  distinct := by simp

def currentSetpoints (s : UnitOperatingState) : Dict String ℚ :=
  setpoints s.reactorTempC s.feedFlowTonh s.fuelGasFlowKm3h s.steamFlowTonh s.electricityPowerMw

def tempDelta (state best : UnitOperatingState) : ℚ :=
  if best.reactorTempC + 1 < state.reactorTempC then
    -clipTo (state.reactorTempC - best.reactorTempC) 3 10
  else if 650 < state.energyIntensityKgoeTon then -7
  else 0

def feedDelta (state best : UnitOperatingState) : ℚ :=
  if state.feedFlowTonh < best.feedFlowTonh - 1 then
    clipTo (best.feedFlowTonh - state.feedFlowTonh) 2 10
  else if 650 < state.energyIntensityKgoeTon then 5
  else 0

def fuelDelta (state best : UnitOperatingState) : ℚ :=
  if best.fuelGasFlowKm3h + 1 < state.fuelGasFlowKm3h then
    -clipTo (state.fuelGasFlowKm3h - best.fuelGasFlowKm3h) 2 15
  else 0

def steamDelta (state best : UnitOperatingState) : ℚ :=
  if best.steamFlowTonh + 1 / 2 < state.steamFlowTonh then
    -clipTo (state.steamFlowTonh - best.steamFlowTonh) 1 8
  else 0

def proposedSetpoints (state best : UnitOperatingState) : Dict String ℚ :=
  setpoints (roundTo 2 (clipTo (state.reactorTempC + tempDelta state best) 380 420))
    (roundTo 2 (clipTo (state.feedFlowTonh + feedDelta state best) 80 120))
    (roundTo 2 (clipTo (state.fuelGasFlowKm3h + fuelDelta state best) 50 150))
    (roundTo 2 (clipTo (state.steamFlowTonh + steamDelta state best) 10 50))
    (roundTo 2 state.electricityPowerMw)

/-- The moves of more than 0.05, rounded. -/
def setpointDeltas (current proposed : Dict String ℚ) : Dict String ℚ :=
  let moved (field : String) (value : ℚ) := value - (current.get? field).getD 0
  (proposed.filter fun item => decide (5 / 100 < |moved item.1 item.2|)).mapValues
    fun field value => roundTo 2 (moved field value)

def adviceTags (deltas : Dict String ℚ) : List String :=
  ["sec", "benchmark"] ++
    (if "reactor_temp_c" ∈ deltas.keys then ["reactor_temp"] else []) ++
    (if "feed_flow_tonh" ∈ deltas.keys then ["feed_ratio"] else []) ++
    (if "fuel_gas_flow_km3h" ∈ deltas.keys ∨ "steam_flow_tonh" ∈ deltas.keys then ["utilities"]
      else [])

def adviceRationale (state best : UnitOperatingState) (bestCode : String) : String :=
  "Unit is low-efficiency (" ++ formatFixed 1 state.energyEfficiencyPercent ++ "% vs " ++
    formatFixed 1 best.energyEfficiencyPercent ++ "% on " ++ bestCode ++ "). " ++
    "Adjust reactor temperature / feed ratio to cut SEC " ++
    "(intensity " ++ formatFixed 1 state.energyIntensityKgoeTon ++ " → target ~" ++
    formatFixed 1 best.energyIntensityKgoeTon ++ " kgoe/t)."

/-- The advice for one unit, or none when it is not low or has nothing to move. -/
def adviseUnit (state best : UnitOperatingState) (bestCode : String) (bench : UnitBenchmark) :
    Option SetpointAdvice :=
  if bench.tier ≠ .low then none
  else
    let current := currentSetpoints state
    let proposed := proposedSetpoints state best
    let deltas := setpointDeltas current proposed
    if deltas.items = [] then none
    else
      let intensityGap := max 0 (state.energyIntensityKgoeTon - best.energyIntensityKgoeTon)
      let secReductionPct := min 12 (intensityGap / max state.energyIntensityKgoeTon 1 * 100)
      let energySaving := state.energyIntensityKgoeTon * state.feedFlowTonh * (1163 / 100) *
        (secReductionPct / 100)
      some
        { plantCode := state.plantCode
          priority := if 3 ≤ bench.gapPpVsBest then .high else .medium
          title := "Align '" ++ state.plantCode ++ "' with high-efficiency '" ++ bestCode ++ "'"
          rationale := adviceRationale state best bestCode
          current := current
          proposed := proposed
          deltas := deltas
          estimatedSecReductionPct := roundTo 2 secReductionPct
          estimatedEnergySavingKwhPerH := roundTo 2 energySaving
          estimatedEfficiencyGainPp := roundTo 2 (min bench.gapPpVsBest 8)
          benchmarkPlant := some bestCode
          tags := adviceTags deltas }

/-- `none` where the source raises: no state to take the maximum of, or a state without benchmark. -/
def buildStructuredAdvice (states : List UnitOperatingState) (benchmarks : List UnitBenchmark) :
    Option (List SetpointAdvice) := do
  let bestCode := (← bestUnit states).plantCode
  let best ← byCode states bestCode
  let advice ← states.mapM fun state => do
    let bench ← benchByCode benchmarks state.plantCode
    return adviseUnit state best bestCode bench
  return advice.filterMap id

end Iems.Optimization
