import Iems.Ml.Calibration
import Iems.Ml.Dataset
import Iems.Ml.Drift
import Iems.Services.Physics

/-! The two stores that training writes: the model registry and the physics calibration file. -/
namespace Iems.Ml
open Lib Iems.Core Iems.Services
open CalibrationFile (PhysicsCalibration)

inductive ModelKind where
  | elm
  | lstm
  deriving DecidableEq

def ModelKind.code : ModelKind → String
  | .elm => "elm"
  | .lstm => "lstm"

/-- The metrics in a registry entry; a key that the entry lacks is `none`. -/
structure TrainMetrics where
  mape : ExtRat
  testSize : Nat
  holdoutTemporal : Bool
  trusted : Bool
  dataSource : Option String
  featureRef : Option (FeatureReference ℚ)
  physicsCalVersion : Option String
  deriving DecidableEq

/-- The entries whose values are numbers or flags. -/
def TrainMetrics.numeric (metrics : TrainMetrics) : TrainMetrics :=
  { metrics with dataSource := none, featureRef := none, physicsCalVersion := none }

structure RegisteredModel (M : Type) where
  kind : ModelKind
  model : M
  version : String
  runId : Option String
  mape : ExtRat
  plantCode : String
  registeredAt : String
  metrics : TrainMetrics

/-- An entry with the dataset that its model was fitted on, which no file of the registry keeps. -/
structure Registration (M : Type) where
  registered : RegisteredModel M
  dataset : MLDataset

/-! ### Calibration -/

/-- The library functions that calibration rests on: those of its file, and the least squares line. -/
structure CalibrationTools extends CalibrationFile.Tools where
  lstsq : List ℚ → List ℚ → Except String (ℚ × ℚ)

/-- Least squares of the plant's figures over those of the formulas. -/
def fitCalibrationFromXy (tools : CalibrationTools) (frame : List Sample) (plantCode : String) :
    Except String (PhysicsCalibration ℚ) := do
  let physEi := frame.map fun s => energyIntensity s.fuelGasFlowKm3h s.steamFlowTonh s.feedFlowTonh s.reactorTempC
  let physCe := frame.map fun s => carbonEmissionIntensity s.fuelGasFlowKm3h s.steamFlowTonh s.electricityPowerMw
  let (es, eo) ← tools.lstsq physEi (frame.map (·.energyIntensityKgoeTon))
  let (cs, co) ← tools.lstsq physCe (frame.map (·.carbonEmissionKgco2Ton))
  return {
    plantCode := plantCode
    energyScale := es
    energyOffset := eo
    carbonScale := cs
    carbonOffset := co
    version := "fitted" }

/-! ### The stores -/

structure ModelStore (M : Type) where
  registry : Dict (String × ModelKind) (Registration M)
  calibration : Option String

/-- The time stamps of one save. -/
structure SaveStamp where
  stamp : String
  registeredAt : String

def saveLocal {M : Type} (store : ModelStore M) (model : M) (kind : ModelKind) (plantCode : String) (mapeValue : ExtRat)
    (metrics : TrainMetrics) (dataset : MLDataset) (stamp : SaveStamp) : ModelStore M × RegisteredModel M :=
  let registered : RegisteredModel M :=
    { kind := kind
      model := model
      version := kind.code ++ "-" ++ plantCode ++ "-" ++ stamp.stamp
      runId := none
      mape := mapeValue
      plantCode := plantCode
      registeredAt := stamp.registeredAt
      metrics := metrics }
  ({ store with registry := store.registry.set (plantCode, kind) ⟨registered, dataset⟩ }, registered)

/-- How far a run is logged: not at all, up to the artifact, or with its run id. -/
inductive MlflowRun where
  | failed
  | savedOnly (stamp : SaveStamp)
  | logged (stamp : SaveStamp) (runId : String)

/-- The model is saved again, with the numeric metrics only, before its artifact is logged. -/
def logToMlflow {M : Type} (cfg : Settings) (store : ModelStore M) (model : M) (kind : ModelKind) (plantCode : String)
    (mapeValue : ExtRat) (metrics : TrainMetrics) (dataset : MLDataset) (mlflow : MlflowRun) :
    ModelStore M × Option String :=
  if !cfg.mlflowEnabled then (store, none)
  else
    match mlflow with
    | .failed => (store, none)
    | .savedOnly stamp => ((saveLocal store model kind plantCode mapeValue metrics dataset stamp).1, none)
    | .logged stamp runId => ((saveLocal store model kind plantCode mapeValue metrics dataset stamp).1, some runId)

def loadLatest {M : Type} (store : ModelStore M) (kind : ModelKind) (plantCode : String) : Option (RegisteredModel M) :=
  (store.registry.get? (plantCode, kind)).map (·.registered)

end Iems.Ml
