import Iems.Core.Config
import Iems.Lib.Binary
import Iems.Lib.ExtRat
import Iems.Ml.Features
import Mathlib.Data.List.Sort
import Mathlib.Data.Rat.Floor

/-! Training data: the readings of a plant as a dataset, its split into training and holdout rows, and the
error of a forecast on the holdout. -/
namespace Iems.Ml
open Lib Iems.Core

/-- What training raises. -/
inductive TrainError where
  | notEnoughSamples (minSamples : Nat) (plantCode : String) (have_ : Nat)
  | noSession
  | mapeGate (mape : ExtRat) (target : ℚ)
  | other (message : String)
  deriving DecidableEq

/-- The exceptions of the class `TrustedDataError`. -/
def TrainError.isTrustedData : TrainError → Bool
  | .other _ => false
  | _ => true

structure Sample where
  electricityPowerMw : ℚ
  fuelGasFlowKm3h : ℚ
  steamFlowTonh : ℚ
  feedFlowTonh : ℚ
  reactorTempC : ℚ
  energyIntensityKgoeTon : ℚ
  carbonEmissionKgco2Ton : ℚ
  deriving DecidableEq

def Sample.features (sample : Sample) : List ℚ :=
  [sample.electricityPowerMw, sample.fuelGasFlowKm3h, sample.steamFlowTonh, sample.feedFlowTonh, sample.reactorTempC]

structure MLDataset where
  frame : List Sample
  source : String
  plantCode : String
  deriving DecidableEq

/-- The feature columns of a frame. -/
def featureMatrix (frame : List Sample) : FeatureMatrix ℚ where
  width := 5
  rows := frame.map Sample.features
  uniform := by simp [Sample.features]

/-- A row of `sensor_readings` joined with the code of its plant; `time` is in microseconds. -/
structure PlantReading where
  time : Int
  plantCode : String
  electricityPowerMw : Option ℚ
  fuelGasFlowKm3h : Option ℚ
  steamFlowTonh : Option ℚ
  feedFlowTonh : Option ℚ
  reactorTempC : Option ℚ
  energyIntensityKgoeTon : Option ℚ
  carbonEmissionKgco2Ton : Option ℚ
  deriving DecidableEq

/-- `none` where `float` raises on a null. -/
def sampleOf (r : PlantReading) : Option Sample := do
  return {
    electricityPowerMw := ← r.electricityPowerMw
    fuelGasFlowKm3h := ← r.fuelGasFlowKm3h
    steamFlowTonh := ← r.steamFlowTonh
    feedFlowTonh := ← r.feedFlowTonh
    reactorTempC := ← r.reactorTempC
    energyIntensityKgoeTon := ← r.energyIntensityKgoeTon
    carbonEmissionKgco2Ton := ← r.carbonEmissionKgco2Ton }

/-- The latest `limit` readings of the plant within the lookback, oldest first; `ok none` where there are none. -/
def loadDbDataset (readings : List PlantReading) (now : Int) (plantCode : String) (limit : Nat) (lookbackHours : Int) :
    Except TrainError (Option MLDataset) :=
  let since := now - lookbackHours * 3600000000
  let rows := readings.filter fun r => r.plantCode = plantCode ∧ since ≤ r.time
  let latest := (rows.insertionSort fun a b => b.time ≤ a.time).take limit
  if latest = [] then .ok none
  else
    match latest.reverse.mapM sampleOf with
    | none => .error (.other "float() argument must be a string or a real number, not 'NoneType'")
    | some frame => .ok (some { frame := frame, source := "timescaledb", plantCode := plantCode })

/-- The nearest number of double precision. -/
def double (x : ℚ) : ℚ := roundBinary 53 x

/-- `max(1, int(n * (1 - test_ratio)))`; the difference and the product are numbers of double precision. -/
def splitCut (n : Nat) (testRatio : ℚ) : Nat := max 1 ⌊double (double n * double (1 - testRatio))⌋.toNat

theorem one_le_splitCut (n : Nat) (testRatio : ℚ) : 1 ≤ splitCut n testRatio := le_max_left _ _

/-- Training rows and holdout rows; `shuffle seed n` is the order into which the generator puts `n` rows. -/
def trainTestSplit (shuffle : Int → Nat → List Nat) (dataset : MLDataset) (testRatio : ℚ) (seed : Int)
    (temporal : Bool) : Except TrainError (List Sample × List Sample) :=
  let n := dataset.frame.length
  if n = 0 then .error (.other "None of the feature columns are in the columns")
  else if temporal then
    let cut := splitCut n testRatio
    let cut := if 1 < n then min cut (n - 1) else 1
    .ok (dataset.frame.take cut, dataset.frame.drop cut)
  else
    let idx := shuffle seed n
    let cut := splitCut n testRatio
    let trainIdx := idx.take cut
    let testIdx := idx.drop cut
    let testIdx := if testIdx = [] then trainIdx.drop (trainIdx.length - max 1 (n / 5)) else testIdx
    .ok (trainIdx.filterMap (dataset.frame[·]?), testIdx.filterMap (dataset.frame[·]?))

/-! ### Error of a forecast -/

/-- `abs((t - p) / denom)` of one pair, in percent. -/
def percentageError (t : ℚ) (p : ExtRat) : ExtRat :=
  let denom := max |t| (1 / 1000000)
  (((ExtRat.finite t).add (p.scale (-1))).scale (1 / denom)).abs

/-- Pairs two columns, a single entry with each of the other. -/
def broadcast (yTrue : List ℚ) (yPred : List ExtRat) : Option (List (ℚ × ExtRat)) :=
  if yTrue.length = yPred.length then some (yTrue.zip yPred)
  else
    match yTrue, yPred with
    | [t], _ => some (yPred.map fun p => (t, p))
    | _, [p] => some (yTrue.map fun t => (t, p))
    | _, _ => none

def mape (yTrue : List ℚ) (yPred : List ExtRat) : Except TrainError ExtRat :=
  match broadcast yTrue yPred with
  | none => .error (.other "operands could not be broadcast together")
  | some pairs => .ok ((ExtRat.mean (pairs.map fun pair => percentageError pair.1 pair.2)).scale 100)

/-- One output of each forecast row. -/
def outputColumn (rows : List (List ExtRat)) (i : Nat) : Except TrainError (List ExtRat) :=
  match rows.mapM (·[i]?) with
  | none => .error (.other "index is out of bounds for axis 1")
  | some column => .ok column

def multiOutputMape (yTrue : List Sample) (yPred : List (List ExtRat)) : Except TrainError ExtRat := do
  let intensity ← mape (yTrue.map (·.energyIntensityKgoeTon)) (← outputColumn yPred 0)
  let carbon ← mape (yTrue.map (·.carbonEmissionKgco2Ton)) (← outputColumn yPred 1)
  return ExtRat.mean [intensity, carbon]

/-- `xs[-n:]`. -/
def lastRows {α : Type} (n : Nat) (xs : List α) : List α := if n = 0 then xs else xs.drop (xs.length - n)

end Iems.Ml
