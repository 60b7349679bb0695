import Iems.Optimization.Engine

/-! Simulation of a recommendation before it is applied, over the what-if model as a parameter. -/
namespace Iems.Optimization
open Lib

structure AdviceSimulation where
  plantCode : String
  beforeIntensity : ℚ
  afterIntensity : ℚ
  beforeEfficiency : ℚ
  afterEfficiency : ℚ
  beforeCarbonIntensity : ℚ
  afterCarbonIntensity : ℚ
  intensityDelta : ℚ
  efficiencyDeltaPp : ℚ
  carbonDelta : ℚ
  model : Option String
  source : Option String
  deriving DecidableEq

structure WhatIfInput where
  plantCode : String
  reactorTempC : ℚ
  feedFlowTonh : ℚ
  fuelGasFlowKm3h : ℚ
  steamFlowTonh : ℚ
  electricityPowerMw : ℚ
  model : String

structure WhatIfResult where
  estimatedEnergyIntensityKgoeTon : ℚ
  estimatedEfficiencyPercent : ℚ
  estimatedCarbonEmissionKgco2Ton : ℚ
  model : Option String
  source : Option String

/-- `none` where a proposed setpoint is missing or the model raises. -/
def simulateAdvice (simulateWhatIfMl : WhatIfInput → Option WhatIfResult) (state : UnitOperatingState)
    (advice : SetpointAdvice) (model : String) : Option AdviceSimulation := do
  let proposed := advice.proposed
  let after ← simulateWhatIfMl
    { plantCode := state.plantCode
      reactorTempC := ← proposed.get? "reactor_temp_c"
      feedFlowTonh := ← proposed.get? "feed_flow_tonh"
      fuelGasFlowKm3h := ← proposed.get? "fuel_gas_flow_km3h"
      steamFlowTonh := ← proposed.get? "steam_flow_tonh"
      electricityPowerMw := (proposed.get? "electricity_power_mw").getD state.electricityPowerMw
      model := model }
  let beforeCarbon := state.carbonEmissionKgco2Ton.getD 0
  let afterIntensity := after.estimatedEnergyIntensityKgoeTon
  let afterEff := after.estimatedEfficiencyPercent
  let afterCarbon := after.estimatedCarbonEmissionKgco2Ton
  return {
    plantCode := state.plantCode
    beforeIntensity := state.energyIntensityKgoeTon
    afterIntensity := afterIntensity
    beforeEfficiency := state.energyEfficiencyPercent
    afterEfficiency := afterEff
    beforeCarbonIntensity := beforeCarbon
    afterCarbonIntensity := afterCarbon
    intensityDelta := roundTo 2 (afterIntensity - state.energyIntensityKgoeTon)
    efficiencyDeltaPp := roundTo 2 (afterEff - state.energyEfficiencyPercent)
    carbonDelta := roundTo 2 (afterCarbon - beforeCarbon)
    model := after.model
    source := after.source }

end Iems.Optimization
