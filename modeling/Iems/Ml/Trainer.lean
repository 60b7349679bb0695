import Iems.Ml.Train

/-! Drift of the registered models and the trainer's cycle over all plants. -/
namespace Iems.Ml
open Lib Iems.Core

/-- The answer of `evaluate_drift` by its status. -/
inductive DriftEvaluation where
  | noModel
  | noFeatureRef
  | insufficientCurrentData
  | ok (report : DriftReport ℚ) (modelVersion : String) (holdoutMape : ExtRat) (trusted : Bool)
    (dataSource : Option String)

/-- What a cycle reports for one plant and kind. -/
inductive TrainerOutcome where
  | skipped (maxPsi : ℚ)
  | trained (mape : ExtRat) (meetsTarget : Bool) (version dataSource : String) (trusted holdoutTemporal : Bool)
  | trustedBlocked (detail : TrainError)
  | failed

/-- The readings, instants and saves that one turn of the cycle meets. -/
structure TrainerInput where
  driftReadings : List PlantReading
  driftNow : Int
  readings : List PlantReading
  now : Int
  stamp : SaveStamp
  mlflow : MlflowRun := .failed

section
variable {M : Type} (learner : Learner M) (cfg : Settings)

def evaluateDrift (store : ModelStore M) (readings : List PlantReading) (now : Int) (plantCode : String)
    (kind : ModelKind) : Except TrainError DriftEvaluation :=
  match loadLatest store kind plantCode with
  | none => .ok .noModel
  | some registered =>
    match registered.metrics.featureRef with
    | none => .ok .noFeatureRef
    | some ref =>
      match loadDbDataset readings now plantCode 2000 (min 6 cfg.mlLookbackHours) with
      | .error raised => .error raised
      | .ok none => .ok .insufficientCurrentData
      | .ok (some current) =>
        if current.frame.length < 10 then .ok .insufficientCurrentData
        else
          let report := driftReport learner.numpy (referenceMatrixFromStats learner.numpy ref)
            (featureMatrix current.frame) cfg.mlDriftPsiThreshold
          .ok (.ok report registered.version registered.mape registered.metrics.trusted registered.metrics.dataSource)

/-- The greatest index of a turn that is skipped: trusted mode leaves a model alone that shows no drift. -/
def skips (store : ModelStore M) (plantCode : String) (kind : ModelKind) (input : TrainerInput) :
    Except TrainError (Option ℚ) :=
  if cfg.trustedModeActive then
    match evaluateDrift learner cfg store input.driftReadings input.driftNow plantCode kind with
    | .error raised => .error raised
    | .ok (.ok report _ _ _ _) => .ok (if report.driftAlert then none else some report.maxPsi)
    | .ok _ => .ok none
  else .ok none

def trainerOutcome : Except TrainError (TrainResult M) → TrainerOutcome
  | .ok outcome =>
    .trained outcome.mape outcome.meetsMapeTarget outcome.registered.version outcome.dataSource outcome.trusted
      outcome.holdoutTemporal
  | .error raised => if raised.isTrustedData then .trustedBlocked raised else .failed

/-- One turn: a raise is reported and the cycle goes on. -/
def trainerTurn (store : ModelStore M) (plantCode : String) (kind : ModelKind) (input : TrainerInput) :
    ModelStore M × TrainerOutcome :=
  match skips learner cfg store plantCode kind input with
  | .error _ => (store, .failed)
  | .ok (some maxPsi) => (store, .skipped maxPsi)
  | .ok none =>
    let (trained, outcome) := trainModel learner cfg store
      { kind := kind
        plantCode := plantCode
        session := some input.readings
        now := input.now
        stamp := input.stamp
        mlflow := input.mlflow }
    (trained, trainerOutcome outcome)

def turns : List (String × ModelKind) :=
  cfg.unitCodeList.flatMap fun plant => [(plant, .elm), (plant, .lstm)]

/-- The results are keyed `plant:kind`; `inputs` are what the turns meet, in their order. -/
def runOnce (store : ModelStore M) (inputs : Nat → TrainerInput) : ModelStore M × Dict String TrainerOutcome :=
  (turns cfg).zipIdx.foldl (fun (store, results) (turn, i) =>
    let (trained, outcome) := trainerTurn learner cfg store turn.1 turn.2 (inputs i)
    (trained, results.set (turn.1 ++ ":" ++ turn.2.code) outcome)) (store, .empty)

end

/-! ### New entries -/

section
variable {M : Type} {learner : Learner M} {cfg : Settings} {store : ModelStore M} {key : String × ModelKind}
  {entry : Registration M}

/-- What holds of the entries that a training adds holds of those that a cycle adds. -/
theorem runOnce_new {P : Prop}
    (trains : ∀ (store : ModelStore M) request, (trainModel learner cfg store request).1.registry.get? key = some entry →
      store.registry.get? key = some entry ∨ P) {inputs : Nat → TrainerInput}
    (found : (runOnce learner cfg store inputs).1.registry.get? key = some entry) :
    store.registry.get? key = some entry ∨ P := by
  unfold runOnce at found
  generalize (turns cfg).zipIdx = todo at found
  generalize Dict.empty = results at found
  induction todo generalizing store results with
  | nil => exact .inl found
  | cons turn rest ih =>
    rw [List.foldl_cons] at found
    refine (ih _ found).elim (fun before => ?_) .inr
    split at before
    · exact .inl before
    · exact .inl before
    · exact trains store _ before

theorem runOnce_entries (trusted : cfg.trustedModeActive = true) {inputs : Nat → TrainerInput}
    (found : (runOnce learner cfg store inputs).1.registry.get? key = some entry) :
    store.registry.get? key = some entry ∨ Vouched cfg entry :=
  runOnce_new (fun _ _ => trainModel_entries trusted) found

end

end Iems.Ml
