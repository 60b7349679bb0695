import Iems.Ml.Trainer
import Iems.Services.Carbon

/-! Forecasts from the registered models, with the physics formulas to fall back on in demo mode. -/
namespace Iems.Ml
open Lib Iems.Core Iems.Services Iems.Carbon

inductive PredictError where
  | modelUnavailable (message : String)
  | other (message : String)
  deriving DecidableEq

structure PlantFeatures where
  electricityPowerMw : ℚ
  fuelGasFlowKm3h : ℚ
  steamFlowTonh : ℚ
  feedFlowTonh : ℚ
  reactorTempC : ℚ
  deriving DecidableEq

inductive PredictionSource where
  | mlModel
  | physicsFallback
  deriving DecidableEq

structure PredictionResult where
  predictedEnergyKwh : ExtRat
  predictedCarbonKgco2 : ExtRat
  predictedIntensityKgoeTon : ExtRat
  predictedCarbonIntensityKgco2Ton : ExtRat
  model : ModelKind
  modelVersion : Option String
  mapeEstimate : Option ExtRat
  source : PredictionSource
  trusted : Bool
  deriving DecidableEq

structure PredictionRequest where
  features : PlantFeatures
  horizonMinutes : ℚ := 60
  model : ModelKind := .elm
  plantCode : String := "olefin"
  featureMatrix : Option (List (List ℚ)) := none

section
variable {M : Type} (learner : Learner M) (cfg : Settings)

/-- The rows that the model is asked for: the history where there is one, else the features alone. -/
def requestRows (request : PredictionRequest) : List (List ℚ) :=
  let f := request.features
  match request.featureMatrix with
  | some (row :: rest) => row :: rest
  | _ => [[f.electricityPowerMw, f.fuelGasFlowKm3h, f.steamFlowTonh, f.feedFlowTonh, f.reactorTempC]]

/-- The branch of a registered model: its last forecast row. -/
def predictRegistered (registered : RegisteredModel M) (request : PredictionRequest) :
    Except PredictError PredictionResult :=
  match learner.predict registered.model (requestRows request) with
  | .error message => .error (.other message)
  | .ok pred =>
    match pred.getLast? with
    | none | some [] => .error (.other "index is out of bounds")
    | some (intensity :: outputs) =>
      let f := request.features
      let carbonInt := outputs.head?.getD
        (.finite (carbonEmissionIntensity f.fuelGasFlowKm3h f.steamFlowTonh f.electricityPowerMw))
      let hours := request.horizonMinutes / 60
      let energyKwh := ((intensity.scale f.feedFlowTonh).scale hours).scale kgoeToKwh
      let carbonTotal := (carbonInt.scale f.feedFlowTonh).scale hours
      .ok
        { predictedEnergyKwh := energyKwh.roundTo 2
          predictedCarbonKgco2 := carbonTotal.roundTo 2
          predictedIntensityKgoeTon := intensity.roundTo 2
          predictedCarbonIntensityKgco2Ton := carbonInt.roundTo 2
          model := request.model
          modelVersion := some registered.version
          mapeEstimate := some (registered.mape.roundTo 3)
          source := .mlModel
          trusted := cfg.trustedModeActive }

def predictPhysics (factors : Dict String EmissionFactors) (request : PredictionRequest) : PredictionResult :=
  let f := request.features
  let intensity := energyIntensity f.fuelGasFlowKm3h f.steamFlowTonh f.feedFlowTonh f.reactorTempC
  let energyKwh := intensityToEnergyKwh intensity f.feedFlowTonh request.horizonMinutes
  let scopes := computeScopesOf factors cfg f.fuelGasFlowKm3h f.steamFlowTonh f.electricityPowerMw f.feedFlowTonh
    (request.horizonMinutes / 60) (some request.plantCode)
  let carbonInt := carbonEmissionIntensity f.fuelGasFlowKm3h f.steamFlowTonh f.electricityPowerMw
  { predictedEnergyKwh := .finite (roundTo 2 energyKwh)
    predictedCarbonKgco2 := .finite (roundTo 2 scopes.totalKgco2)
    predictedIntensityKgoeTon := .finite (roundTo 2 intensity)
    predictedCarbonIntensityKgco2Ton := .finite (roundTo 2 carbonInt)
    model := request.model
    modelVersion := none
    mapeEstimate := none
    source := .physicsFallback
    trusted := false }

def predictWithModel (factors : Dict String EmissionFactors) (store : ModelStore M) (request : PredictionRequest) :
    Except PredictError PredictionResult :=
  match loadLatest store request.model request.plantCode with
  | some registered => predictRegistered learner cfg registered request
  | none =>
    if !cfg.allowMlPhysicsFallback then
      .error (.modelUnavailable ("No registered " ++ request.model.code ++ " model for '" ++ request.plantCode ++
        "' and physics fallback is disabled in trusted mode"))
    else .ok (predictPhysics cfg factors request)

end

/-! ### The trusted flag -/

section
variable {M : Type} {learner : Learner M} {cfg : Settings} {store : ModelStore M} {request : PredictionRequest}
  {result : PredictionResult}

theorem predictRegistered_trusted {registered : RegisteredModel M}
    (answered : predictRegistered learner cfg registered request = .ok result) :
    result.trusted = cfg.trustedModeActive := by
  unfold predictRegistered at answered
  split at answered
  · cases answered
  · split at answered
    · cases answered
    · cases answered
    · cases answered
      rfl

/-- A trusted forecast is made in trusted mode, by the registered model. -/
theorem predictWithModel_trusted {factors : Dict String EmissionFactors}
    (answered : predictWithModel learner cfg factors store request = .ok result) (flag : result.trusted = true) :
    cfg.trustedModeActive = true ∧
      ∃ entry, store.registry.get? (request.plantCode, request.model) = some entry ∧
        predictRegistered learner cfg entry.registered request = .ok result := by
  unfold predictWithModel loadLatest at answered
  cases found : store.registry.get? (request.plantCode, request.model) with
  | none =>
    rw [found] at answered
    dsimp only [Option.map_none] at answered
    split at answered
    · cases answered
    · cases answered
      cases flag
  | some entry =>
    rw [found] at answered
    have made : predictRegistered learner cfg entry.registered request = .ok result := answered
    exact ⟨predictRegistered_trusted made ▸ flag, entry, rfl, made⟩

end
end Iems.Ml
