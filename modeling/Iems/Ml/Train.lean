import Iems.Lib.Raising
import Iems.Ml.Registry

/-! Training: dataset, calibration, fit, holdout error, the gate of trusted mode, and what is persisted. -/
namespace Iems.Ml
open Lib Iems.Core
open CalibrationFile (saveCalibration)

/-- The numeric code that training rests on: generators, the networks and their forecasts. -/
structure Learner (M : Type) where
  numpy : Numpy ℚ
  calibration : CalibrationTools
  shuffle : Int → Nat → List Nat
  syntheticFrame : Nat → String → Int → List Sample
  virtualSamples : List Sample → String → Int → Int → Except String (List Sample)
  trainElm : List Sample → Nat → Int → Except String M
  trainLstm : List Sample → Nat → Nat → Int → ℚ → Int → Bool → Except String M
  predict : M → List (List ℚ) → Except String (List (List ExtRat))

/-- One call of `train_model`, with the readings that its session sees, if it has one. -/
structure TrainRequest where
  kind : ModelKind
  plantCode : String
  session : Option (List PlantReading)
  now : Int
  calibratePhysics : Bool := true
  stamp : SaveStamp
  mlflow : MlflowRun := .failed

structure TrainResult (M : Type) where
  kind : ModelKind
  plantCode : String
  mape : ExtRat
  trainSize : Nat
  testSize : Nat
  vsgSamples : Nat
  dataSource : String
  registered : RegisteredModel M
  meetsMapeTarget : Bool
  mlflowRunId : Option String
  trusted : Bool
  holdoutTemporal : Bool
  physicsCalVersion : Option String
  featureRef : FeatureReference ℚ

section
variable {M : Type} (learner : Learner M) (cfg : Settings)

def buildSyntheticDataset (plantCode : String) : MLDataset :=
  { frame := learner.syntheticFrame cfg.mlSyntheticSamples plantCode cfg.mlSeed
    source := "synthetic"
    plantCode := plantCode }

def prepareDataset (session : Option (List PlantReading)) (now : Int) (plantCode : String) :
    Except TrainError MLDataset :=
  match session with
  | some readings =>
    match loadDbDataset readings now plantCode cfg.mlTrainSampleLimit cfg.mlLookbackHours with
    | .error raised => .error raised
    | .ok dbDs =>
      match dbDs.filter fun ds => cfg.mlMinRealSamples ≤ ds.frame.length with
      | some ds => .ok ds
      | none =>
        if cfg.trustedModeActive || !cfg.allowMlSynthetic then
          let have_ := (dbDs.map fun ds => ds.frame.length).getD 0
          .error (.notEnoughSamples cfg.mlMinRealSamples plantCode have_)
        else .ok (buildSyntheticDataset learner cfg plantCode)
  | none =>
    if cfg.trustedModeActive || !cfg.allowMlSynthetic then .error .noSession
    else .ok (buildSyntheticDataset learner cfg plantCode)

def raised {α : Type} : Except String α → Except TrainError α
  | .ok value => .ok value
  | .error message => .error (.other message)

/-- Whether `train_model` fits the calibration on its dataset. -/
def calibrates (request : TrainRequest) (dataset : MLDataset) : Bool :=
  request.calibratePhysics && dataset.source == "timescaledb" && 20 ≤ dataset.frame.length

/-- The calibration step: the store afterwards and the version that was written. -/
def calibrateStep (store : ModelStore M) (request : TrainRequest) (dataset : MLDataset) :
    Except TrainError (ModelStore M × Option String) :=
  if calibrates request dataset then do
    let cal ← raised (fitCalibrationFromXy learner.calibration dataset.frame request.plantCode)
    let text ← raised (saveCalibration learner.calibration.toTools cal.floats store.calibration)
    return ({ store with calibration := some text }, some cal.version)
  else .ok (store, none)

/-- `_vsg_augment_xy`: the training rows with virtual ones behind them. -/
def vsgAugment (trainRows : List Sample) : Except TrainError (List Sample × Nat) :=
  if cfg.trustedModeActive && !cfg.mlAllowVsgInTrusted then .ok (trainRows, 0)
  else if cfg.mlVsgSamples ≤ 0 then .ok (trainRows, 0)
  else do
    let virtual ← raised (learner.virtualSamples trainRows cfg.mlVsgMethod cfg.mlVsgSamples cfg.mlSeed)
    return (trainRows ++ virtual, virtual.length)

/-- A fitted model and its holdout error, before anything is registered. -/
structure Fit (M : Type) where
  model : M
  mape : ExtRat
  trainSize : Nat
  testSize : Nat
  vsgSamples : Nat
  holdoutTemporal : Bool
  featureRef : FeatureReference ℚ

def fitModel (kind : ModelKind) (rows : List Sample) : Except String M :=
  match kind with
  | .elm => learner.trainElm rows cfg.mlElmHidden cfg.mlSeed
  | .lstm =>
    learner.trainLstm rows cfg.mlLstmLookback cfg.mlLstmHidden cfg.mlLstmEpochs cfg.mlLstmLr cfg.mlSeed
      cfg.mlPreferTorchLstm

/-- From the split to the holdout error. -/
def fitAndScore (kind : ModelKind) (dataset : MLDataset) : Except TrainError (Fit M) := do
  let useTemporal := dataset.source == "timescaledb" || kind == .lstm
  let (trainRows, testRows) ← trainTestSplit learner.shuffle dataset
    (if useTemporal then cfg.mlHoldoutRatio else cfg.mlTestRatio) cfg.mlSeed useTemporal
  let (trainRows, vsgSamples) ← vsgAugment learner cfg trainRows
  let model ← raised (fitModel learner cfg kind trainRows)
  let yPred ← raised (learner.predict model (testRows.map Sample.features))
  let n := min yPred.length testRows.length
  let mapeValue ← multiOutputMape (lastRows n testRows) (lastRows n yPred)
  match featureReferenceStats learner.numpy (featureMatrix trainRows) with
  | none => .error (.other "zero-size array to reduction operation minimum which has no identity")
  | some featRef =>
    return {
      model := model
      mape := mapeValue
      trainSize := trainRows.length
      testSize := n
      vsgSamples := vsgSamples
      holdoutTemporal := useTemporal
      featureRef := featRef }

/-- From the gate on: registers the fit, or refuses it. -/
def registerFit (store : ModelStore M) (request : TrainRequest) (dataset : MLDataset)
    (physicsCalVersion : Option String) (fit : Fit M) : ModelStore M × Except TrainError (TrainResult M) :=
  let trusted := cfg.trustedModeActive
  let dataSource := if fit.vsgSamples = 0 then dataset.source else dataset.source ++ "+vsg"
  let metrics : TrainMetrics :=
    { mape := fit.mape
      testSize := fit.testSize
      holdoutTemporal := fit.holdoutTemporal
      trusted := trusted
      dataSource := some dataSource
      featureRef := some fit.featureRef
      physicsCalVersion := physicsCalVersion }
  let meets := fit.mape.atMost cfg.mlMapeTarget
  if trusted && !meets then (store, .error (.mapeGate fit.mape cfg.mlMapeTarget))
  else
    let (saved, registered) := saveLocal store fit.model request.kind request.plantCode fit.mape metrics dataset request.stamp
    let (logged, runId) := logToMlflow cfg saved fit.model request.kind request.plantCode fit.mape metrics.numeric dataset
      request.mlflow
    (logged, .ok
      { kind := request.kind
        plantCode := request.plantCode
        mape := fit.mape.roundTo 3
        trainSize := fit.trainSize
        testSize := fit.testSize
        vsgSamples := fit.vsgSamples
        dataSource := dataSource
        registered := if runId = none ∨ runId = some "" then registered else { registered with runId := runId }
        meetsMapeTarget := meets
        mlflowRunId := runId
        trusted := trusted
        holdoutTemporal := fit.holdoutTemporal
        physicsCalVersion := physicsCalVersion
        featureRef := fit.featureRef })

def trainModel (store : ModelStore M) (request : TrainRequest) : ModelStore M × Except TrainError (TrainResult M) :=
  match prepareDataset learner cfg request.session request.now request.plantCode with
  | .error raised => (store, .error raised)
  | .ok dataset =>
    match calibrateStep learner store request dataset with
    | .error raised => (store, .error raised)
    | .ok (calibrated, physicsCalVersion) =>
      match fitAndScore learner cfg request.kind dataset with
      | .error raised => (calibrated, .error raised)
      | .ok fit => registerFit cfg calibrated request dataset physicsCalVersion fit

end

/-! ### What a run may register -/

section
variable {M : Type} {learner : Learner M} {cfg : Settings} {store : ModelStore M} {request : TrainRequest}
  {dataset : MLDataset}

theorem loadDbDataset_source {readings : List PlantReading} {now : Int} {plantCode : String} {limit : Nat}
    {lookbackHours : Int} (loaded : loadDbDataset readings now plantCode limit lookbackHours = .ok (some dataset)) :
    dataset.source = "timescaledb" := by
  unfold loadDbDataset at loaded
  dsimp only at loaded
  split at loaded
  · cases loaded
  · split at loaded
    · cases loaded
    · cases loaded
      rfl

theorem prepareDataset_trusted {session : Option (List PlantReading)} {now : Int} {plantCode : String}
    (trusted : cfg.trustedModeActive = true) (prepared : prepareDataset learner cfg session now plantCode = .ok dataset) :
    dataset.source = "timescaledb" := by
  unfold prepareDataset at prepared
  split at prepared
  · split at prepared
    · cases prepared
    · rename_i dbDs loaded
      split at prepared
      · rename_i ds enough
        cases prepared
        rw [(Option.filter_eq_some_iff.mp enough).1] at loaded
        exact loadDbDataset_source loaded
      · simp [trusted] at prepared
  · simp [trusted] at prepared

@[simp] theorem raised_eq_ok {α : Type} {x : Except String α} {value : α} : raised x = .ok value ↔ x = .ok value := by
  cases x <;> simp [raised]

/-- A calibration step that returns has written the fitted scales, where the run calibrates at all. -/
theorem calibrateStep_ok {calibrated : ModelStore M} {version : Option String}
    (done : calibrateStep learner store request dataset = .ok (calibrated, version)) :
    if calibrates request dataset then
      ∃ cal text, fitCalibrationFromXy learner.calibration dataset.frame request.plantCode = .ok cal ∧
        saveCalibration learner.calibration.toTools cal.floats store.calibration = .ok text ∧
        calibrated = { store with calibration := some text }
    else calibrated = store := by
  unfold calibrateStep at done
  split at done
  · rename_i calibrating
    rw [if_pos calibrating]
    obtain ⟨cal, fitted, rest⟩ := bind_eq_ok.mp done
    obtain ⟨text, saved, same⟩ := bind_eq_ok.mp rest
    cases same
    exact ⟨cal, text, raised_eq_ok.mp fitted, raised_eq_ok.mp saved, rfl⟩
  · rename_i idle
    cases done
    rw [if_neg idle]

theorem calibrateStep_registry {calibrated : ModelStore M} {version : Option String}
    (done : calibrateStep learner store request dataset = .ok (calibrated, version)) :
    calibrated.registry = store.registry := by
  have written := calibrateStep_ok done
  split at written
  · obtain ⟨cal, text, -, -, rfl⟩ := written
    rfl
  · rw [written]

/-- An entry that a run may leave behind: in trusted mode trained on plant data, its holdout error within the target. -/
def Vouched (cfg : Settings) (entry : Registration M) : Prop :=
  entry.dataset.source = "timescaledb" ∧ entry.registered.mape.atMost cfg.mlMapeTarget = true

theorem saveLocal_entries {model : M} {kind : ModelKind} {plantCode : String} {mapeValue : ExtRat}
    {metrics : TrainMetrics} {stamp : SaveStamp} {key : String × ModelKind} {entry : Registration M}
    (found : (saveLocal store model kind plantCode mapeValue metrics dataset stamp).1.registry.get? key = some entry) :
    store.registry.get? key = some entry ∨ entry.dataset = dataset ∧ entry.registered.mape = mapeValue := by
  unfold saveLocal at found
  dsimp only at found
  rw [Dict.get?_set] at found
  split at found
  · cases found
    exact Or.inr ⟨rfl, rfl⟩
  · exact Or.inl found

theorem logToMlflow_entries {model : M} {kind : ModelKind} {plantCode : String} {mapeValue : ExtRat}
    {metrics : TrainMetrics} {mlflow : MlflowRun} {key : String × ModelKind} {entry : Registration M}
    (found : (logToMlflow cfg store model kind plantCode mapeValue metrics dataset mlflow).1.registry.get? key =
      some entry) :
    store.registry.get? key = some entry ∨ entry.dataset = dataset ∧ entry.registered.mape = mapeValue := by
  unfold logToMlflow at found
  split at found
  · exact Or.inl found
  · cases mlflow with
    | failed => exact Or.inl found
    | savedOnly stamp => exact saveLocal_entries found
    | logged stamp runId => exact saveLocal_entries found

/-- The gate: what trusted mode registers is vouched for. -/
theorem registerFit_entries {version : Option String} {fit : Fit M} (trusted : cfg.trustedModeActive = true)
    (plant : dataset.source = "timescaledb") {key : String × ModelKind} {entry : Registration M}
    (found : (registerFit cfg store request dataset version fit).1.registry.get? key = some entry) :
    store.registry.get? key = some entry ∨ Vouched cfg entry := by
  unfold registerFit at found
  dsimp only at found
  split at found
  · exact Or.inl found
  · rename_i passed
    have good : fit.mape.atMost cfg.mlMapeTarget = true := by simpa [trusted] using passed
    have vouch : entry.dataset = dataset ∧ entry.registered.mape = fit.mape → Vouched cfg entry := by
      rintro ⟨rfl, same⟩
      exact ⟨plant, same ▸ good⟩
    rcases logToMlflow_entries found with saved | logged
    · exact (saveLocal_entries saved).imp_right vouch
    · exact Or.inr (vouch logged)

/-- Whatever a registration says of its entry, a training says of the entries that it adds. -/
theorem trainModel_new {key : String × ModelKind} {entry : Registration M} {P : Prop}
    (registers : ∀ (calibrated : ModelStore M) dataset version fit,
      prepareDataset learner cfg request.session request.now request.plantCode = .ok dataset →
      fitAndScore learner cfg request.kind dataset = .ok fit →
      (registerFit cfg calibrated request dataset version fit).1.registry.get? key = some entry →
        calibrated.registry.get? key = some entry ∨ P)
    (found : (trainModel learner cfg store request).1.registry.get? key = some entry) :
    store.registry.get? key = some entry ∨ P := by
  unfold trainModel at found
  split at found
  · exact Or.inl found
  · rename_i dataset prepared
    split at found
    · exact Or.inl found
    · rename_i calibrated version done
      rw [← calibrateStep_registry done]
      split at found
      · exact Or.inl found
      · rename_i fit scored
        exact registers calibrated dataset version fit prepared scored found

theorem trainModel_entries (trusted : cfg.trustedModeActive = true) {key : String × ModelKind} {entry : Registration M}
    (found : (trainModel learner cfg store request).1.registry.get? key = some entry) :
    store.registry.get? key = some entry ∨ Vouched cfg entry :=
  trainModel_new (fun _ _ _ _ prepared _ registered =>
    registerFit_entries trusted (prepareDataset_trusted trusted prepared) registered) found

/-! ### What a refused run leaves behind -/

theorem raised_not_trusted {α : Type} {x : Except String α} {e : TrainError} (stopped : raised x = .error e) :
    e.isTrustedData = false := by
  cases x with
  | ok value => cases stopped
  | error message =>
    cases stopped
    rfl

theorem calibrateStep_not_trusted {e : TrainError} (stopped : calibrateStep learner store request dataset = .error e) :
    e.isTrustedData = false := by
  unfold calibrateStep at stopped
  split at stopped
  · rcases bind_eq_error stopped with fit | ⟨cal, -, rest⟩
    · exact raised_not_trusted fit
    · rcases bind_eq_error rest with save | ⟨text, -, done⟩
      · exact raised_not_trusted save
      · cases done
  · cases stopped

theorem registerFit_refused {version : Option String} {fit : Fit M} {refusal : TrainError}
    (refused : (registerFit cfg store request dataset version fit).2 = .error refusal) :
    (registerFit cfg store request dataset version fit).1 = store := by
  unfold registerFit at refused ⊢
  dsimp only at refused ⊢
  split at refused
  · rename_i gate
    rw [if_pos gate]
  · cases refused

/-- A refused run has prepared no dataset and written nothing, or it has written what its calibration step wrote. -/
theorem trainModel_refused {refusal : TrainError} (refused : (trainModel learner cfg store request).2 = .error refusal)
    (trustedData : refusal.isTrustedData = true) :
    (∃ raised, prepareDataset learner cfg request.session request.now request.plantCode = .error raised) ∧
        (trainModel learner cfg store request).1 = store ∨
      ∃ dataset version, prepareDataset learner cfg request.session request.now request.plantCode = .ok dataset ∧
        calibrateStep learner store request dataset = .ok ((trainModel learner cfg store request).1, version) := by
  unfold trainModel at refused ⊢
  cases prepared : prepareDataset learner cfg request.session request.now request.plantCode with
  | error raised => exact Or.inl ⟨⟨raised, rfl⟩, rfl⟩
  | ok dataset =>
    rw [prepared] at refused
    dsimp only at refused ⊢
    refine Or.inr ?_
    cases done : calibrateStep learner store request dataset with
    | error stopped =>
      rw [done] at refused
      cases refused
      rw [calibrateStep_not_trusted done] at trustedData
      cases trustedData
    | ok written =>
      obtain ⟨calibrated, version⟩ := written
      rw [done] at refused
      dsimp only at refused ⊢
      refine ⟨dataset, version, rfl, ?_⟩
      cases scored : fitAndScore learner cfg request.kind dataset with
      | error _ => exact done
      | ok fit =>
        rw [scored] at refused
        dsimp only at refused ⊢
        rw [registerFit_refused refused]
        exact done

/-- The file already holds the text that calibrating on the dataset writes. -/
def AlreadyCalibrated (learner : Learner M) (store : ModelStore M) (request : TrainRequest) (dataset : MLDataset) : Prop :=
  ∃ cal text, fitCalibrationFromXy learner.calibration dataset.frame request.plantCode = .ok cal ∧
    saveCalibration learner.calibration.toTools cal.floats store.calibration = .ok text ∧ store.calibration = some text

end

/-- A refused run leaves both stores as they were exactly when it had no dataset, does not calibrate on it, or
finds the file already calibrated so. -/
theorem refused_unchanged_iff {M : Type} (learner : Learner M) (cfg : Settings) (store : ModelStore M)
    (request : TrainRequest) (refusal : TrainError) (trustedData : refusal.isTrustedData = true)
    (refused : (trainModel learner cfg store request).2 = .error refusal) :
    (trainModel learner cfg store request).1 = store ↔
      ∀ dataset, prepareDataset learner cfg request.session request.now request.plantCode = .ok dataset →
        calibrates request dataset = true → AlreadyCalibrated learner store request dataset := by
  rcases trainModel_refused refused trustedData with ⟨⟨raised, none_⟩, same⟩ | ⟨dataset, version, prepared, done⟩
  · simp [none_, same]
  · have written := calibrateStep_ok done
    constructor
    · intro same other again calibrating
      rw [prepared] at again
      cases again
      rw [if_pos calibrating, same] at written
      obtain ⟨cal, text, fitted, saved, equal⟩ := written
      exact ⟨cal, text, fitted, saved, congrArg ModelStore.calibration equal⟩
    · intro already
      split at written
      · rename_i calibrating
        obtain ⟨cal, text, fitted, saved, equal⟩ := written
        obtain ⟨again, textAgain, fittedAgain, savedAgain, held⟩ := already dataset prepared calibrating
        rw [fitted] at fittedAgain
        cases fittedAgain
        rw [saved] at savedAgain
        cases savedAgain
        rw [equal, ← held]
      · exact written

/-! ### A forecaster of means -/

def refusalOf {α : Type} : Except TrainError α → Option TrainError
  | .error refusal => some refusal
  | .ok _ => none

theorem refusalOf_eq_some {α : Type} {outcome : Except TrainError α} {refusal : TrainError} :
    refusalOf outcome = some refusal ↔ outcome = .error refusal := by
  cases outcome <;> simp [refusalOf]

/-- Over equal abscissas: the least of the lines through the mean. -/
def leastLine (xs ys : List ℚ) : Except String (ℚ × ℚ) :=
  let x := average xs
  .ok (average ys * x / (x ^ 2 + 1), average ys / (x ^ 2 + 1))

def steadySample : Sample :=
  { electricityPowerMw := 15
    fuelGasFlowKm3h := 100
    steamFlowTonh := 30
    feedFlowTonh := 100
    reactorTempC := 400
    energyIntensityKgoeTon := 600
    carbonEmissionKgco2Ton := 50 }

/-- It answers the mean of what it was trained on, as the networks do where that is constant. -/
def meanLearner : Learner (ℚ × ℚ) where
  numpy := ⟨fun x => x, fun x => x, fun _ _ _ => []⟩
  calibration :=
    { lstsq := leastLine
      safeLoad := fun _ => .ok .null
      safeDump := fun _ => "version: fitted"
      parseFloat := fun _ => none
      shown := fun _ => "" }
  shuffle := fun _ n => List.range n
  syntheticFrame := fun n _ _ => List.replicate n steadySample
  virtualSamples := fun _ _ _ _ => .ok []
  trainElm := fun rows _ _ =>
    .ok (average (rows.map (·.energyIntensityKgoeTon)), average (rows.map (·.carbonEmissionKgco2Ton)))
  trainLstm := fun rows _ _ _ _ _ _ =>
    .ok (average (rows.map (·.energyIntensityKgoeTon)), average (rows.map (·.carbonEmissionKgco2Ton)))
  predict := fun model rows => .ok (rows.map fun _ => [.finite model.1, .finite model.2])

/-- Twenty readings at one operating point; the last four need a sixth more energy. -/
def shiftedReadings : List PlantReading :=
  (List.range 20).map fun i : Nat =>
    { time := i * 1000000
      plantCode := "olefin"
      electricityPowerMw := some 15
      fuelGasFlowKm3h := some 100
      steamFlowTonh := some 30
      feedFlowTonh := some 100
      reactorTempC := some 400
      energyIntensityKgoeTon := some (if i < 16 then 600 else 700)
      carbonEmissionKgco2Ton := some 50 }

def trustedSettings : Settings := { mlTrustedMode := true, mlMinRealSamples := 20 }

def shiftedRequest : TrainRequest :=
  { kind := .elm
    plantCode := "olefin"
    session := some shiftedReadings
    now := 20000000
    stamp := ⟨"20260701T120000Z", "2026-07-01T12:00:00+00:00"⟩ }

def emptyStore : ModelStore (ℚ × ℚ) := { registry := .empty, calibration := none }

theorem shifted_refused :
    (trainModel meanLearner trustedSettings emptyStore shiftedRequest).2 = .error (.mapeGate (.finite (50 / 7)) 5) :=
  refusalOf_eq_some.mp (by decide +kernel)

theorem refused_unchanged_iff_shifted :
    (trainModel meanLearner trustedSettings emptyStore shiftedRequest).1 = emptyStore ↔
      ∀ dataset, prepareDataset meanLearner trustedSettings shiftedRequest.session shiftedRequest.now
          shiftedRequest.plantCode = .ok dataset →
        calibrates shiftedRequest dataset = true → AlreadyCalibrated meanLearner emptyStore shiftedRequest dataset :=
  refused_unchanged_iff meanLearner trustedSettings emptyStore shiftedRequest _ rfl shifted_refused

/-- A run that the gate refuses has written the calibration file. -/
theorem refused_run_calibrates :
    ∃ refusal : TrainError, refusal.isTrustedData = true ∧
      (trainModel meanLearner trustedSettings emptyStore shiftedRequest).2 = .error refusal ∧
      (trainModel meanLearner trustedSettings emptyStore shiftedRequest).1.calibration ≠ emptyStore.calibration :=
  ⟨_, rfl, shifted_refused, by decide +kernel⟩

end Iems.Ml
