import Iems.Api.ModelTrust
import Iems.Lib.Lines
import Iems.Lib.Rounding
import Iems.Ml.CalibrationText
import Mathlib

/-! The calibration of the physics formulas: what the two routes answer and what the file holds while trainings, trainer
cycles and changes of the runtime settings go on. -/
namespace Iems.Api
open Lib Iems.Core Iems.Services Iems.Ml
open CalibrationFile
open Matrix

/-! ### The routes -/

/-- One request for a fit, with the readings that its session sees. -/
structure CalibrateCall where
  plantCode : String
  readings : List PlantReading
  now : Int

structure FitCalibrationOut where
  cal : PhysicsCalibration ℚ
  nSamples : Nat

inductive CalibrationRefusal where
  | conflict (detail : String)
  | raised (error : TrainError)

section
variable {M : Type} (learner : Learner M) (tools : Tools)

def getCalibration (store : ModelStore M) (plantCode : String) : Except String (PhysicsCalibration ExtRat) :=
  loadCalibration tools plantCode store.calibration

/-- The fit of a dataset, and the text of the file with it. -/
def fitAndSave (store : ModelStore M) (plantCode : String) (frame : List Sample) :
    Except String (PhysicsCalibration ℚ × String) := do
  let cal ← fitCalibrationFromXy learner.calibration frame plantCode
  let text ← saveCalibration learner.calibration.toTools cal.floats store.calibration
  return (cal, text)

def fitCalibration (cfg : Settings) (store : ModelStore M) (call : CalibrateCall) :
    Except CalibrationRefusal FitCalibrationOut × ModelStore M :=
  let needed := CalibrationRefusal.conflict ("Need ≥20 plant samples to calibrate '" ++ call.plantCode ++ "'")
  match loadDbDataset call.readings call.now call.plantCode 5000 cfg.mlLookbackHours with
  | .error error => (.error (.raised error), store)
  | .ok none => (.error needed, store)
  | .ok (some ds) =>
    if ds.frame.length < 20 then (.error needed, store)
    else
      match fitAndSave learner store call.plantCode ds.frame with
      | .error message => (.error (.raised (.other message)), store)
      | .ok (cal, text) => (.ok ⟨cal, ds.frame.length⟩, { store with calibration := some text })

/-! ### The corrected figures -/

structure CalibratedReading where
  energyIntensityKgoeTon : ExtRat
  carbonEmissionKgco2Ton : ExtRat
  energyEfficiencyPercent : ExtRat
  physicsCalVersion : String

def extEnergyEfficiency (ei : ExtRat) : ExtRat :=
  ((ExtRat.finite 85).add ((ei.add (.finite (-500))).scale (-25 / 1000))).clip 60 92

def calibratedEnrich (store : ModelStore M) (plantCode : String) (electricityPowerMw fuelGasFlowKm3h steamFlowTonh feedFlowTonh
    reactorTempC : ℚ) : Except String CalibratedReading := do
  let cal ← loadCalibration tools plantCode store.calibration
  let base := enrichReading electricityPowerMw fuelGasFlowKm3h steamFlowTonh feedFlowTonh reactorTempC
  let ei := (cal.energyScale.scale base.energyIntensityKgoeTon).add cal.energyOffset
  let ce := (cal.carbonScale.scale base.carbonEmissionKgco2Ton).add cal.carbonOffset
  return {
    energyIntensityKgoeTon := ei.roundTo 2
    carbonEmissionKgco2Ton := ce.roundTo 2
    energyEfficiencyPercent := (extEnergyEfficiency ei).roundTo 2
    physicsCalVersion := cal.version }

/-! ### Runs -/

inductive CalibrationAction where
  | model (action : ModelAction)
  | calibrate (call : CalibrateCall)

def calibrationStep (s : ModelServer M) : CalibrationAction → ModelServer M
  | .model action => modelStep learner s action
  | .calibrate call => { s with store := (fitCalibration learner s.process.settings s.store call).2 }

end

/-! ### The line of a fit -/

def physicsEi (sample : Sample) : ℚ :=
  energyIntensity sample.fuelGasFlowKm3h sample.steamFlowTonh sample.feedFlowTonh sample.reactorTempC

def physicsCe (sample : Sample) : ℚ :=
  carbonEmissionIntensity sample.fuelGasFlowKm3h sample.steamFlowTonh sample.electricityPowerMw

/-- The squared error of a line from the figures of the formulas to those of the plant. -/
def lineError (frame : List Sample) (figure measured : Sample → ℚ) (scale offset : ℚ) : ℚ :=
  (frame.map fun sample => (scale * figure sample + offset - measured sample) ^ 2).sum

/-- No other line errs less, and the errors of this one cancel out. -/
structure LeastLine (frame : List Sample) (figure measured : Sample → ℚ) (scale offset : ℚ) : Prop where
  least : ∀ a b, lineError frame figure measured scale offset ≤ lineError frame figure measured a b
  balanced : (frame.map fun sample => scale * figure sample + offset).sum = (frame.map measured).sum

structure LeastCalibration (frame : List Sample) (cal : PhysicsCalibration ℚ) : Prop where
  intensity : LeastLine frame physicsEi (·.energyIntensityKgoeTon) cal.energyScale cal.energyOffset
  carbon : LeastLine frame physicsCe (·.carbonEmissionKgco2Ton) cal.carbonScale cal.carbonOffset

/-- What `numpy.linalg.lstsq` returns is the solution of a pseudo-inverse. -/
def SolvesLines (lstsq : List ℚ → List ℚ → Except String (ℚ × ℚ)) : Prop :=
  ∀ n (x y : Fin n → ℚ) line, lstsq (List.ofFn x) (List.ofFn y) = .ok line →
    ∃ P, IsPseudoInverse (lineMatrix x) P ∧ P *ᵥ y = ![line.1, line.2]

section
variable {frame : List Sample} {figure measured : Sample → ℚ}

theorem sum_frame (f : Sample → ℚ) : (frame.map f).sum = ∑ r : Fin frame.length, f (frame.get r) :=
  (Fin.sum_univ_fun_getElem frame f).symm

theorem lineError_eq_sqDist (line : Fin 2 → ℚ) : lineError frame figure measured (line 0) (line 1) =
    sqDist (lineMatrix (fun r : Fin frame.length => figure (frame.get r)) *ᵥ line) fun r => measured (frame.get r) := by
  unfold lineError sqDist
  rw [sum_frame]
  refine Finset.sum_congr rfl fun r _ => ?_
  rw [lineMatrix_mulVec]

theorem leastLine_of_lstsq {lstsq : List ℚ → List ℚ → Except String (ℚ × ℚ)} (solves : SolvesLines lstsq) {line : ℚ × ℚ}
    (solved : lstsq (frame.map figure) (frame.map measured) = .ok line) : LeastLine frame figure measured line.1 line.2 := by
  have column : ∀ f : Sample → ℚ, frame.map f = List.ofFn fun r : Fin frame.length => f (frame.get r) :=
    fun f => (List.ofFn_getElem_eq_map frame f).symm
  rw [column figure, column measured] at solved
  obtain ⟨P, inverse, held⟩ := solves _ _ _ _ solved
  have slope : line.1 = (P *ᵥ fun r => measured (frame.get r)) 0 := (congrFun held 0).symm
  have height : line.2 = (P *ᵥ fun r => measured (frame.get r)) 1 := (congrFun held 1).symm
  rw [slope, height]
  constructor
  · intro a b
    have own := @lineError_eq_sqDist frame figure measured (P *ᵥ fun r => measured (frame.get r))
    have other := @lineError_eq_sqDist frame figure measured ![a, b]
    exact (own.trans_le (inverse.least ![a, b] _)).trans_eq other.symm
  · rw [sum_frame, sum_frame]
    exact inverse.line_balanced

end

theorem fitCalibrationFromXy_least {tools : CalibrationTools} (solves : SolvesLines tools.lstsq) {frame : List Sample}
    {plantCode : String} {cal : PhysicsCalibration ℚ} (fitted : fitCalibrationFromXy tools frame plantCode = .ok cal) :
    cal.plantCode = plantCode ∧ cal.version = "fitted" ∧ LeastCalibration frame cal := by
  unfold fitCalibrationFromXy at fitted
  obtain ⟨energy, first, fitted⟩ := bind_eq_ok.mp fitted
  obtain ⟨carbon, second, fitted⟩ := bind_eq_ok.mp fitted
  cases fitted
  exact ⟨rfl, rfl, leastLine_of_lstsq solves first, leastLine_of_lstsq solves second⟩

/-! ### What a step does to the file -/

/-- The readings of a plant that an action may fit. -/
def CalibrationAction.Offers : CalibrationAction → String → List PlantReading → Prop
  | .model (.train request), plantCode, readings => request.plantCode = plantCode ∧ request.session = some readings
  | .model (.cycle inputs), _, readings => ∃ i, (inputs i).readings = readings
  | .model (.patch _), _, _ => False
  | .calibrate call, plantCode, readings => call.plantCode = plantCode ∧ call.readings = readings

/-- At least twenty readings of the plant, as a session loads them. -/
def Loaded (readings : List PlantReading) (plantCode : String) (frame : List Sample) : Prop :=
  20 ≤ frame.length ∧ ∃ now limit lookbackHours dataset,
    loadDbDataset readings now plantCode limit lookbackHours = .ok (some dataset) ∧ dataset.frame = frame

/-- The property of a file is kept by each save of a fit over offered readings. -/
def SavesKeep (tools : CalibrationTools) (offered : String → List PlantReading → Prop) (inv : Option String → Prop) : Prop :=
  ∀ plantCode readings frame cal text file, offered plantCode readings → Loaded readings plantCode frame →
    fitCalibrationFromXy tools frame plantCode = .ok cal → saveCalibration tools.toTools cal.floats file = .ok text → inv file →
      inv (some text)

section
variable {M : Type} {learner : Learner M} {cfg : Settings} {store : ModelStore M} {inv : Option String → Prop}
  {offered : String → List PlantReading → Prop}

theorem logToMlflow_calibration {model : M} {kind : ModelKind} {plantCode : String} {mapeValue : ExtRat}
    {metrics : TrainMetrics} {dataset : MLDataset} {mlflow : MlflowRun} :
    (logToMlflow cfg store model kind plantCode mapeValue metrics dataset mlflow).1.calibration = store.calibration := by
  unfold logToMlflow
  split
  · rfl
  · cases mlflow <;> rfl

theorem registerFit_calibration {request : TrainRequest} {dataset : MLDataset} {version : Option String} {fit : Fit M} :
    (registerFit cfg store request dataset version fit).1.calibration = store.calibration := by
  unfold registerFit
  dsimp only
  split
  · rfl
  · exact logToMlflow_calibration

theorem prepareDataset_loaded {session : Option (List PlantReading)} {now : Int} {plantCode : String} {dataset : MLDataset}
    (prepared : prepareDataset learner cfg session now plantCode = .ok dataset) (plant : dataset.source = "timescaledb") :
    ∃ readings limit lookbackHours, session = some readings ∧
      loadDbDataset readings now plantCode limit lookbackHours = .ok (some dataset) := by
  have synthetic : .ok (buildSyntheticDataset learner cfg plantCode) ≠ (.ok dataset : Except TrainError MLDataset) := by
    rintro ⟨⟩
    exact absurd plant (by decide : "synthetic" ≠ "timescaledb")
  unfold prepareDataset at prepared
  split at prepared
  · rename_i readings
    split at prepared
    · cases prepared
    · rename_i dbDs loaded
      split at prepared
      · rename_i ds enough
        cases prepared
        rw [(Option.filter_eq_some_iff.mp enough).1] at loaded
        exact ⟨readings, _, _, rfl, loaded⟩
      · split at prepared
        · cases prepared
        · exact absurd prepared synthetic
  · split at prepared
    · cases prepared
    · exact absurd prepared synthetic

theorem trainModel_file {request : TrainRequest} (keeps : SavesKeep learner.calibration offered inv)
    (offers : ∀ readings, request.session = some readings → offered request.plantCode readings) (held : inv store.calibration) :
    inv (trainModel learner cfg store request).1.calibration := by
  unfold trainModel
  split
  · exact held
  · rename_i dataset prepared
    split
    · exact held
    · rename_i calibrated version done
      have saved : inv calibrated.calibration := by
        have written := calibrateStep_ok done
        split at written
        · rename_i calibrating
          obtain ⟨cal, text, fitted, written, rfl⟩ := written
          unfold calibrates at calibrating
          simp only [Bool.and_eq_true, decide_eq_true_eq, beq_iff_eq] at calibrating
          obtain ⟨⟨_, plant⟩, enough⟩ := calibrating
          obtain ⟨readings, limit, hours, session, loaded⟩ := prepareDataset_loaded prepared plant
          exact keeps _ readings dataset.frame cal text _ (offers readings session)
            ⟨enough, _, limit, hours, dataset, loaded, rfl⟩ fitted written held
        · rw [written]
          exact held
      split
      · exact saved
      · rw [registerFit_calibration]
        exact saved

theorem runOnce_file {inputs : Nat → TrainerInput} (keeps : SavesKeep learner.calibration offered inv)
    (offers : ∀ plantCode i, offered plantCode (inputs i).readings) (held : inv store.calibration) :
    inv (runOnce learner cfg store inputs).1.calibration := by
  unfold runOnce
  generalize (turns cfg).zipIdx = todo
  generalize Dict.empty = results
  induction todo generalizing store results with
  | nil => exact held
  | cons turn rest ih =>
    rw [List.foldl_cons]
    refine ih ?_ _
    split
    · exact held
    · exact held
    · refine trainModel_file keeps ?_ held
      rintro readings ⟨⟩
      exact offers _ _

theorem fitAndSave_ok {plantCode : String} {frame : List Sample} {cal : PhysicsCalibration ℚ} {text : String}
    (done : fitAndSave learner store plantCode frame = .ok (cal, text)) :
    fitCalibrationFromXy learner.calibration frame plantCode = .ok cal ∧
      saveCalibration learner.calibration.toTools cal.floats store.calibration = .ok text := by
  unfold fitAndSave at done
  obtain ⟨cal, fitted, done⟩ := bind_eq_ok.mp done
  obtain ⟨text, saved, done⟩ := bind_eq_ok.mp done
  cases done
  exact ⟨fitted, saved⟩

/-- A request for a fit is refused without an effect, or answered with what is saved. -/
theorem fitCalibration_cases (call : CalibrateCall) :
    (∃ refusal, fitCalibration learner cfg store call = (.error refusal, store)) ∨
      ∃ frame cal text, Loaded call.readings call.plantCode frame ∧
        fitCalibrationFromXy learner.calibration frame call.plantCode = .ok cal ∧
        saveCalibration learner.calibration.toTools cal.floats store.calibration = .ok text ∧
        fitCalibration learner cfg store call = (.ok ⟨cal, frame.length⟩, { store with calibration := some text }) := by
  unfold fitCalibration
  dsimp only
  cases loaded : loadDbDataset call.readings call.now call.plantCode 5000 cfg.mlLookbackHours with
  | error error => exact .inl ⟨_, rfl⟩
  | ok found =>
    cases found with
    | none => exact .inl ⟨_, rfl⟩
    | some dataset =>
      dsimp only
      by_cases few : dataset.frame.length < 20
      · rw [if_pos few]
        exact .inl ⟨_, rfl⟩
      · rw [if_neg few]
        cases done : fitAndSave learner store call.plantCode dataset.frame with
        | error message => exact .inl ⟨_, rfl⟩
        | ok both =>
          obtain ⟨fitted, saved⟩ := fitAndSave_ok done
          exact .inr ⟨dataset.frame, both.1, both.2, ⟨not_lt.mp few, _, _, _, dataset, loaded, rfl⟩, fitted, saved, rfl⟩

theorem calibrationStep_file {s : ModelServer M} {action : CalibrationAction}
    (keeps : SavesKeep learner.calibration action.Offers inv) (held : inv s.store.calibration) :
    inv (calibrationStep learner s action).store.calibration := by
  cases action with
  | model action =>
    cases action with
    | train request => exact trainModel_file keeps (fun readings session => ⟨rfl, session⟩) held
    | cycle inputs => exact runOnce_file keeps (fun plantCode i => ⟨i, rfl⟩) held
    | patch body => exact held
  | calibrate call =>
    show inv (fitCalibration learner s.process.settings s.store call).2.calibration
    rcases @fitCalibration_cases M learner s.process.settings s.store call with
      ⟨refusal, same⟩ | ⟨frame, cal, text, loaded, fitted, saved, same⟩
    · rw [same]
      exact held
    · rw [same]
      exact keeps _ _ frame cal text _ ⟨rfl, rfl⟩ loaded fitted saved held

end

/-! ### Runs of the routes -/

/-- Of the readings of a plant that some action offered, no correction of the formulas errs less. -/
def FittedIn (actions : List CalibrationAction) (plantCode : String) (fit : PhysicsCalibration ℚ) : Prop :=
  fit.version = "fitted" ∧ ∃ action ∈ actions, ∃ readings frame, action.Offers plantCode readings ∧
    Loaded readings plantCode frame ∧ LeastCalibration frame fit

/-- The corrected figures of an operating point are those of the lines, but for the rounding. -/
def Corrects (fit : PhysicsCalibration ℚ) (power fuel steam feed temp : ℚ) (reading : CalibratedReading) : Prop :=
  ∃ ei ce, reading.energyIntensityKgoeTon = .finite ei ∧ reading.carbonEmissionKgco2Ton = .finite ce ∧
    |ei - (fit.energyScale * energyIntensity fuel steam feed temp + fit.energyOffset)| ≤ (|fit.energyScale| + 1) / 200 ∧
    |ce - (fit.carbonScale * carbonEmissionIntensity fuel steam power + fit.carbonOffset)| ≤ (|fit.carbonScale| + 1) / 200

/-- What is read of a plant: the formulas as they are, or a fit of its readings; and the figures are corrected with it. -/
structure ReadsFit {M : Type} (tools : Tools) (actions : List CalibrationAction) (store : ModelStore M)
    (plantCode : String) (fit : PhysicsCalibration ℚ) : Prop where
  read : getCalibration tools store plantCode = .ok fit.floats
  origin : fit = uncorrected plantCode fit.version ∨ FittedIn actions plantCode fit
  corrected : ∀ power fuel steam feed temp, ∃ reading,
    calibratedEnrich tools store plantCode power fuel steam feed temp = .ok reading ∧
      Corrects fit power fuel steam feed temp reading

/-- A request for a fit that is refused leaves the store alone; an answered one is read back, and no other plant's
figures change by it. -/
structure FitsOnly {M : Type} (learner : Learner M) (cfg : Settings) (store : ModelStore M) (call : CalibrateCall) :
    Prop where
  refused : ∀ refusal after, fitCalibration learner cfg store call = (.error refusal, after) → after = store
  answered : ∀ out after, fitCalibration learner cfg store call = (.ok out, after) →
    getCalibration learner.calibration.toTools after call.plantCode = .ok out.cal.floats ∧ after.registry = store.registry ∧
      ∀ plantCode, plantCode ≠ call.plantCode → ∀ cal, getCalibration learner.calibration.toTools store plantCode = .ok cal →
        ∃ version, getCalibration learner.calibration.toTools after plantCode = .ok { cal with version := version }

/-- Every entry of the file is a fit of the readings that some action offered for its plant. -/
def RunFile (registry : CalibrationTools) (actions : List CalibrationAction) (file : Option String) : Prop :=
  ∃ plants, FileHolds registry.toTools file plants ∧
    ∀ plantCode scales, plants.get? plantCode = some scales → FittedIn actions plantCode (fitOf plantCode scales)

theorem FittedIn.mono {before actions : List CalibrationAction} {plantCode : String} {fit : PhysicsCalibration ℚ}
    (fitted : FittedIn before plantCode fit) (part : before ⊆ actions) : FittedIn actions plantCode fit := by
  obtain ⟨version, action, member, rest⟩ := fitted
  exact ⟨version, action, part member, rest⟩

section
variable {M : Type} {learner : Learner M} {tools : Tools}

theorem savesKeep_runFile {registry : CalibrationTools} (keeps : KeepsFile registry.toTools) (solves : SolvesLines registry.lstsq)
    (before : List CalibrationAction) (action : CalibrationAction) :
    SavesKeep registry action.Offers (RunFile registry (before ++ [action])) := by
  intro plantCode readings frame cal text file offers loaded fitted saved held
  obtain ⟨plants, holds, entries⟩ := held
  obtain ⟨rfl, version, least⟩ := fitCalibrationFromXy_least solves fitted
  refine ⟨plants.set cal.plantCode (scalesOf cal), .inr ⟨cal.version, ?_⟩, fun other scales found => ?_⟩
  · rw [saveCalibration_holds keeps holds saved]
  · rw [Dict.get?_set] at found
    split at found
    · rename_i own
      cases found
      subst own
      exact ⟨version, action, by simp, readings, frame, offers, loaded, least⟩
    · exact entries other scales found

theorem run_file (keeps : KeepsFile learner.calibration.toTools) (solves : SolvesLines learner.calibration.lstsq)
    (process : ProcessSettings) (actions : List CalibrationAction) :
    RunFile learner.calibration actions
      (run (calibrationStep learner) ⟨process, .empty, none⟩ actions).store.calibration := by
  have keep : ∀ before action,
      RunFile learner.calibration before (run (calibrationStep learner) ⟨process, .empty, none⟩ before).store.calibration →
        RunFile learner.calibration (before ++ [action])
          (calibrationStep learner (run (calibrationStep learner) ⟨process, .empty, none⟩ before) action).store.calibration := by
    intro before action held
    refine calibrationStep_file (savesKeep_runFile keeps solves before action) ?_
    obtain ⟨plants, holds, entries⟩ := held
    exact ⟨plants, holds, fun plantCode scales found => (entries plantCode scales found).mono (List.subset_append_left _ _)⟩
  have start : RunFile learner.calibration [] (⟨process, .empty, none⟩ : ModelServer M).store.calibration :=
    ⟨.empty, .inl ⟨rfl, rfl⟩, fun plantCode scales found => by cases found⟩
  exact @run_history _ _ (calibrationStep learner)
    (fun actions s => RunFile learner.calibration actions s.store.calibration) _ keep start actions

/-- A figure that is rounded before it is corrected and again afterwards. -/
theorem rounded_line (scale offset x : ℚ) :
    |roundTo 2 (scale * roundTo 2 x + offset) - (scale * x + offset)| ≤ (|scale| + 1) / 200 := by
  have outer := roundTo_error (scale * roundTo 2 x + offset)
  have inner : |scale * (roundTo 2 x - x)| ≤ |scale| * (1 / 200) := by
    rw [abs_mul]
    exact mul_le_mul_of_nonneg_left (roundTo_error x) (abs_nonneg scale)
  calc |roundTo 2 (scale * roundTo 2 x + offset) - (scale * x + offset)|
      = |(roundTo 2 (scale * roundTo 2 x + offset) - (scale * roundTo 2 x + offset)) + scale * (roundTo 2 x - x)| := by
        congr 1
        ring
    _ ≤ 1 / 200 + |scale| * (1 / 200) := (abs_add_le _ _).trans (add_le_add outer inner)
    _ = (|scale| + 1) / 200 := by ring

theorem calibratedEnrich_corrects {store : ModelStore M} {plantCode : String} {fit : PhysicsCalibration ℚ}
    (read : getCalibration tools store plantCode = .ok fit.floats) (power fuel steam feed temp : ℚ) :
    ∃ reading, calibratedEnrich tools store plantCode power fuel steam feed temp = .ok reading ∧
      Corrects fit power fuel steam feed temp reading := by
  unfold getCalibration at read
  unfold calibratedEnrich
  rw [read]
  exact ⟨_, rfl, _, _, rfl, rfl, rounded_line _ _ _, rounded_line _ _ _⟩

theorem heldFit_origin {plants : Dict String PlantScales} {actions : List CalibrationAction}
    (entries : ∀ plantCode scales, plants.get? plantCode = some scales → FittedIn actions plantCode (fitOf plantCode scales))
    (version plantCode : String) :
    heldFit plants version plantCode = uncorrected plantCode (heldFit plants version plantCode).version ∨
      FittedIn actions plantCode (heldFit plants version plantCode) := by
  unfold heldFit
  cases held : plants.get? plantCode with
  | none => exact .inl rfl
  | some scales => exact .inr (entries plantCode scales held)

theorem fitsOnly_of_holds {cfg : Settings} {store : ModelStore M} {plants : Dict String PlantScales}
    (keeps : KeepsFile learner.calibration.toTools) (solves : SolvesLines learner.calibration.lstsq)
    (holds : FileHolds learner.calibration.toTools store.calibration plants) (call : CalibrateCall) : FitsOnly learner cfg store call := by
  rcases @fitCalibration_cases M learner cfg store call with ⟨refusal, same⟩ | ⟨frame, cal, text, _, fitted, saved, same⟩
  · refine ⟨fun refusal' after done => ?_, fun out after done => ?_⟩
    · rw [same] at done
      cases done
      rfl
    · rw [same] at done
      cases done
  · refine ⟨fun refusal after done => ?_, fun out after done => ?_⟩
    · rw [same] at done
      cases done
    · rw [same] at done
      cases done
      obtain ⟨own, _, _⟩ := fitCalibrationFromXy_least solves fitted
      rw [saveCalibration_holds keeps holds saved]
      obtain ⟨before, old⟩ := loadCalibration_holds keeps holds
      obtain ⟨version, new⟩ := loadCalibration_holds keeps
        (.inr ⟨_, rfl⟩ : FileHolds learner.calibration.toTools (some (learner.calibration.safeDump (payloadValue
          ⟨cal.version, plants.set cal.plantCode (scalesOf cal)⟩))) _)
      simp only [heldFit_set] at new
      refine ⟨?_, rfl, fun plantCode other found read => ?_⟩
      · rw [← own]
        exact (new cal.plantCode).trans (by rw [if_pos rfl])
      · rw [← own] at other
        have after := new plantCode
        rw [if_neg other] at after
        obtain ⟨shown, same⟩ := heldFit_version plants before version plantCode
        rw [same] at after
        unfold getCalibration at read
        rw [old plantCode] at read
        cases read
        exact ⟨shown, after⟩

end

/-- In every state of a run from no calibration file, each plant is read either without a correction or with a fit of
at least twenty of its own readings, than which no correction errs less; the figures are corrected with it up to the
rounding, and a request for a fit changes what is read of its own plant only. -/
theorem calibrations_fitted {M : Type} (learner : Learner M)
    (keeps : KeepsFile learner.calibration.toTools) (solves : SolvesLines learner.calibration.lstsq)
    (process : ProcessSettings) (actions : List CalibrationAction) :
    let s := run (calibrationStep learner) ⟨process, .empty, none⟩ actions
    (∀ plantCode, ∃ fit, ReadsFit learner.calibration.toTools actions s.store plantCode fit) ∧
      ∀ call, FitsOnly learner s.process.settings s.store call := by
  intro s
  obtain ⟨plants, holds, entries⟩ := @run_file M learner keeps solves process actions
  constructor
  · intro plantCode
    obtain ⟨version, read⟩ := loadCalibration_holds keeps holds
    exact ⟨_, read plantCode, heldFit_origin entries version plantCode, calibratedEnrich_corrects (read plantCode)⟩
  · exact fun call => fitsOnly_of_holds keeps solves holds call

/-! ### One fit -/

/-- The line through points that are not all above each other. -/
def lineFit (xs ys : List ℚ) : Except String (ℚ × ℚ) :=
  let total := xs.sum
  let squares := (xs.map (· ^ 2)).sum
  let width := xs.length * squares - total ^ 2
  if width = 0 then .error "SVD did not converge"
  else .ok (((xs.zip ys).map fun point => (xs.length * point.1 - total) / width * point.2).sum,
    ((xs.zip ys).map fun point => (squares - total * point.1) / width * point.2).sum)

theorem lineFit_solves : SolvesLines lineFit := by
  intro n x y line solved
  unfold lineFit at solved
  dsimp only at solved
  have points : (List.ofFn x).zip (List.ofFn y) = List.ofFn fun i => (x i, y i) := by
    apply List.ext_getElem <;> simp
  split at solved
  · cases solved
  · rename_i apart
    cases solved
    simp only [points, List.length_ofFn, List.map_ofFn, List.sum_ofFn, Function.comp_def] at apart ⊢
    refine ⟨linePinv x (n * ∑ i, x i ^ 2 - (∑ i, x i) ^ 2), linePinv_inverts (by rw [Fintype.card_fin]) apart, ?_⟩
    simp [linePinv, dotProduct]

def lineLearner : Learner (ℚ × ℚ) := { meanLearner with calibration := { fileTools with lstsq := lineFit } }

/-- Twenty readings at two operating points, with twice the rise that the formulas give. -/
def riseCall : CalibrateCall where
  plantCode := "olefin"
  readings := (List.range 20).map fun i : Nat =>
    { time := i * 1000000
      plantCode := "olefin"
      electricityPowerMw := some 15
      fuelGasFlowKm3h := some (if i < 10 then 100 else 120)
      steamFlowTonh := some 10
      feedFlowTonh := some 200
      reactorTempC := some 100
      energyIntensityKgoeTon := some (if i < 10 then 750 else 770)
      carbonEmissionKgco2Ton := some (if i < 10 then 61 / 2 else 77 / 2) }
  now := 20000000

theorem calibrations_fitted_rise :
    let s := run (calibrationStep lineLearner) ⟨{}, .empty, none⟩ [.calibrate riseCall]
    s.store.calibration = some ("version: fitted\nplants:\n  olefin:\n    energy_scale: 2.0\n    energy_offset: -610.0\n" ++
        "    carbon_scale: 2.0\n    carbon_offset: -17.0\n    version: fitted\n") ∧
      (∀ plantCode, ∃ fit, ReadsFit fileTools [.calibrate riseCall] s.store plantCode fit) ∧
      ∀ call, FitsOnly lineLearner s.process.settings s.store call :=
  ⟨by decide +kernel, calibrations_fitted lineLearner fileTools_keeps lineFit_solves {} [.calibrate riseCall]⟩

end Iems.Api
