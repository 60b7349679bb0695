import Iems.Lib.ExtRat
import Mathlib.Tactic.Ring

/-! Process physics: intensity, carbon and efficiency derived from the base process values. -/
namespace Iems.Services
open Lib

def energyIntensity (fuelGasFlowKm3h steamFlowTonh feedFlowTonh reactorTempC : ℚ) : ℚ :=
  clip (600 + 1 / 2 * fuelGasFlowKm3h + 2 * steamFlowTonh - 1 / 10 * feedFlowTonh +
    3 / 10 * reactorTempC) 500 800

def carbonEmissionIntensity (fuelGasFlowKm3h steamFlowTonh electricityPowerMw : ℚ) : ℚ :=
  clip (2 / 10 * fuelGasFlowKm3h + 3 / 10 * steamFlowTonh + 5 / 100 * electricityPowerMw) 20 80

def energyEfficiency (energyIntensityKgoeTon : ℚ) : ℚ :=
  clip (85 - 25 / 1000 * (energyIntensityKgoeTon - 500)) 60 92

structure EnrichedReading where
  energyIntensityKgoeTon : ℚ
  carbonEmissionKgco2Ton : ℚ
  energyEfficiencyPercent : ℚ
  deriving DecidableEq

def enrichReading (electricityPowerMw fuelGasFlowKm3h steamFlowTonh feedFlowTonh
    reactorTempC : ℚ) : EnrichedReading :=
  let ei := energyIntensity fuelGasFlowKm3h steamFlowTonh feedFlowTonh reactorTempC
  let ce := carbonEmissionIntensity fuelGasFlowKm3h steamFlowTonh electricityPowerMw
  { energyIntensityKgoeTon := roundTo 2 ei
    carbonEmissionKgco2Ton := roundTo 2 ce
    energyEfficiencyPercent := roundTo 2 (energyEfficiency ei) }

/-! ### Readings with special values -/

structure ExtEnrichedReading where
  energyIntensityKgoeTon : ExtRat
  carbonEmissionKgco2Ton : ExtRat
  energyEfficiencyPercent : ExtRat
  deriving DecidableEq

/-- `enrich_reading` on numbers that may be infinite. -/
def extEnrichReading (electricityPowerMw fuelGasFlowKm3h steamFlowTonh feedFlowTonh
    reactorTempC : ExtRat) : ExtEnrichedReading :=
  let ei := (((((ExtRat.finite 600).add (fuelGasFlowKm3h.scale (1 / 2))).add (steamFlowTonh.scale 2)).add
    (feedFlowTonh.scale (-1 / 10))).add (reactorTempC.scale (3 / 10))).clip 500 800
  let ce := (((fuelGasFlowKm3h.scale (2 / 10)).add (steamFlowTonh.scale (3 / 10))).add
    (electricityPowerMw.scale (5 / 100))).clip 20 80
  let efficiency := ((ExtRat.finite 85).add ((ei.add (.finite (-500))).scale (-25 / 1000))).clip 60 92
  { energyIntensityKgoeTon := ei.roundTo 2
    carbonEmissionKgco2Ton := ce.roundTo 2
    energyEfficiencyPercent := efficiency.roundTo 2 }

theorem extEnrichReading_finite (power fuel steam feed temp : ℚ) :
    extEnrichReading (.finite power) (.finite fuel) (.finite steam) (.finite feed) (.finite temp) =
      let reading := enrichReading power fuel steam feed temp
      ⟨.finite reading.energyIntensityKgoeTon, .finite reading.carbonEmissionKgco2Ton,
        .finite reading.energyEfficiencyPercent⟩ := by
  have intensity : clip (600 + fuel * (1 / 2) + steam * 2 + feed * (-1 / 10) + temp * (3 / 10)) 500 800 =
      energyIntensity fuel steam feed temp := by
    unfold energyIntensity
    congr 1
    ring
  have carbon : clip (fuel * (2 / 10) + steam * (3 / 10) + power * (5 / 100)) 20 80 =
      carbonEmissionIntensity fuel steam power := by
    unfold carbonEmissionIntensity
    congr 1
    ring
  have efficiency : ∀ ei : ℚ, clip (85 + (ei + -500) * (-25 / 1000)) 60 92 = energyEfficiency ei := by
    intro ei
    unfold energyEfficiency
    congr 1
    ring
  unfold extEnrichReading enrichReading
  simp only [ExtRat.scale_finite, ExtRat.add_finite, ExtRat.clip_finite, ExtRat.roundTo_finite, intensity,
    carbon, efficiency]

end Iems.Services
