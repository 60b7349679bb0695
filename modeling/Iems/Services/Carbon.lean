import Iems.Carbon.Factors

/-! Scope 1 and 2 accounting, of mean hourly rates and of already integrated period totals. -/
namespace Iems.Services
open Lib Carbon Iems.Core

structure CarbonBreakdown where
  scope1Kgco2 : ℚ
  scope2Kgco2 : ℚ
  carbonIntensityKgco2Ton : ℚ
  productTon : ℚ
  factorsVersion : String
  plantCode : Option String := none
  deriving DecidableEq

def CarbonBreakdown.totalKgco2 (scopes : CarbonBreakdown) : ℚ := scopes.scope1Kgco2 + scopes.scope2Kgco2

def computeScopes (ef : EmissionFactors) (fuelGasFlowKm3h steamFlowTonh electricityPowerMw feedFlowTonh
    durationHours : ℚ) (plantCode : String) : CarbonBreakdown :=
  let fuelM3 := fuelGasFlowKm3h * 1000 * durationHours
  let steamTon := steamFlowTonh * durationHours
  let electricityKwh := electricityPowerMw * 1000 * durationHours
  let productTon := max (feedFlowTonh * durationHours) (1 / 1000000)
  let scope1 := fuelM3 * ef.naturalGasKgco2PerM3 + steamTon * ef.steamKgco2PerTon
  let scope2 := electricityKwh * ef.electricityKgco2PerKwh
  let intensity := (scope1 + scope2) / productTon
  { scope1Kgco2 := roundTo 2 scope1
    scope2Kgco2 := roundTo 2 scope2
    carbonIntensityKgco2Ton := roundTo 2 intensity
    productTon := roundTo 3 productTon
    factorsVersion := ef.version
    plantCode := some plantCode }

def computeScopesFromIntegrals (ef : EmissionFactors)
    (fuelGasKm3 steamTon electricityMwh productTon : ℚ) (plantCode : String) : CarbonBreakdown :=
  let fuelM3 := fuelGasKm3 * 1000
  let electricityKwh := electricityMwh * 1000
  let product := max productTon (1 / 1000000)
  let scope1 := fuelM3 * ef.naturalGasKgco2PerM3 + steamTon * ef.steamKgco2PerTon
  let scope2 := electricityKwh * ef.electricityKgco2PerKwh
  let intensity := (scope1 + scope2) / product
  { scope1Kgco2 := roundTo 2 scope1
    scope2Kgco2 := roundTo 2 scope2
    carbonIntensityKgco2Ton := roundTo 2 intensity
    productTon := roundTo 3 product
    factorsVersion := ef.version
    plantCode := some plantCode }

/-! ### The choice of factors of `compute_scopes` -/

/-- A code that is a true value. -/
def namedCode (plantCode : Option String) : Option String := plantCode.filter (· ≠ "")

/-- `factors` is the loaded factor file, `given` the factors of the call. -/
def resolveFactors (factors : Dict String EmissionFactors) (cfg : Settings) (plantCode : Option String)
    (given : Option EmissionFactors) : EmissionFactors :=
  (given.or ((namedCode plantCode).map (factorsFor factors cfg))).getD
    { plantCode := (namedCode plantCode).getD "default"
      naturalGasKgco2PerM3 := cfg.efNaturalGasKgco2PerM3
      steamKgco2PerTon := cfg.efSteamKgco2PerTon
      electricityKgco2PerKwh := cfg.efElectricityKgco2PerKwh
      version := "settings-fallback"
      source := "app settings" }

/-- `compute_scopes` as it is called, with its default duration and optional factors. -/
def computeScopesOf (factors : Dict String EmissionFactors) (cfg : Settings) (fuelGasFlowKm3h steamFlowTonh
    electricityPowerMw feedFlowTonh : ℚ) (durationHours : ℚ := 1) (plantCode : Option String := none)
    (given : Option EmissionFactors := none) : CarbonBreakdown :=
  let ef := resolveFactors factors cfg plantCode given
  computeScopes ef fuelGasFlowKm3h steamFlowTonh electricityPowerMw feedFlowTonh durationHours
    ((namedCode plantCode).getD ef.plantCode)

end Iems.Services
