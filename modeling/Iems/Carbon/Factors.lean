import Iems.Core.Config
import Iems.Lib.Decimal
import Iems.Lib.Dict

/-! Emission factors of each plant, with the fallbacks for a plant the factor files do not list. -/
namespace Iems.Carbon
open Lib Iems.Core

structure EmissionFactors where
  plantCode : String
  naturalGasKgco2PerM3 : ℚ
  steamKgco2PerTon : ℚ
  electricityKgco2PerKwh : ℚ
  version : String
  source : String
  notes : String := ""
  deriving DecidableEq

/-- `factors` is the loaded factor file. -/
def factorsFor (factors : Dict String EmissionFactors) (cfg : Settings) (plantCode : String) :
    EmissionFactors :=
  (factors.get? plantCode).getD
    { plantCode := plantCode
      naturalGasKgco2PerM3 := cfg.efNaturalGasKgco2PerM3
      steamKgco2PerTon := cfg.efSteamKgco2PerTon
      electricityKgco2PerKwh := cfg.efElectricityKgco2PerKwh
      version := "settings-fallback"
      source := "app settings" }

/-! ### Scope 3 -/

structure Scope3Factors where
  plantCode : String
  cat3FuelUpstreamKgco2PerM3 : ℚ
  cat1PurchasedGoodsKgco2PerTon : ℚ
  cat5WasteKgco2PerTon : ℚ
  version : String
  source : String
  notes : String := ""
  deriving DecidableEq

structure Scope3Detail where
  fuelGasKm3 : ℚ
  productTon : ℚ
  cat3Factor : ℚ
  cat1Factor : ℚ
  cat5Factor : ℚ
  deriving DecidableEq

structure Scope3Breakdown where
  cat3FuelUpstreamKgco2 : ℚ
  cat1PurchasedGoodsKgco2 : ℚ
  cat5WasteKgco2 : ℚ
  totalKgco2 : ℚ
  factorsVersion : String
  detail : Scope3Detail
  deriving DecidableEq

def scope3For (factors : Dict String Scope3Factors) (plantCode : String) : Scope3Factors :=
  (factors.get? plantCode).getD
    { plantCode := plantCode
      cat3FuelUpstreamKgco2PerM3 := 35 / 100
      cat1PurchasedGoodsKgco2PerTon := 12
      cat5WasteKgco2PerTon := 3 / 2
      version := "scope3-default"
      source := "built-in" }

def computeScope3 (factors : Dict String Scope3Factors) (plantCode : String)
    (fuelGasKm3 productTon : ℚ) : Scope3Breakdown :=
  let f := scope3For factors plantCode
  let fuelM3 := fuelGasKm3 * 1000
  let cat3 := fuelM3 * f.cat3FuelUpstreamKgco2PerM3
  let cat1 := productTon * f.cat1PurchasedGoodsKgco2PerTon
  let cat5 := productTon * f.cat5WasteKgco2PerTon
  { cat3FuelUpstreamKgco2 := roundTo 2 cat3
    cat1PurchasedGoodsKgco2 := roundTo 2 cat1
    cat5WasteKgco2 := roundTo 2 cat5
    totalKgco2 := roundTo 2 (cat3 + cat1 + cat5)
    factorsVersion := f.version
    detail :=
      { fuelGasKm3 := fuelGasKm3
        productTon := productTon
        cat3Factor := f.cat3FuelUpstreamKgco2PerM3
        cat1Factor := f.cat1PurchasedGoodsKgco2PerTon
        cat5Factor := f.cat5WasteKgco2PerTon } }

end Iems.Carbon
