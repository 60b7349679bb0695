import Iems.Ml.LiveFeatures
import Iems.Ml.Trust

/-! What the trust route says about a registered model, against what the forecast route serves, while training runs,
trainer cycles and changes of the runtime settings go on. -/
namespace Iems.Api
open Lib Iems.Core Iems.Carbon Iems.Ml

/-! ### Runtime settings -/

/-- The settings of a process, with those that only the routes read. -/
structure ProcessSettings where
  settings : Settings := {}
  mlMaxLatencyMs : ℚ := 3000
  ingestionRateHz : ℚ := 1

structure RuntimeSettingsOut where
  appEnv : String
  authEnforce : Bool
  staleDataSeconds : ℚ
  unitCodes : List String
  mlMapeTarget : ℚ
  mlMaxLatencyMs : ℚ
  carbonReportIntervalSeconds : Int
  ingestionRateHz : ℚ

structure RuntimeSettingsUpdate where
  staleDataSeconds : Option { x : ℚ // 1 ≤ x ∧ x ≤ 3600 } := none
  mlMapeTarget : Option { x : ℚ // 1 / 10 ≤ x ∧ x ≤ 50 } := none
  mlMaxLatencyMs : Option { x : ℚ // 100 ≤ x ∧ x ≤ 30000 } := none
  carbonReportIntervalSeconds : Option { n : Int // 30 ≤ n ∧ n ≤ 86400 } := none
  ingestionRateHz : Option { x : ℚ // 1 / 10 ≤ x ∧ x ≤ 10 } := none

def getSettingsView (p : ProcessSettings) : RuntimeSettingsOut where
  appEnv := p.settings.appEnv
  authEnforce := p.settings.authEnforce
  staleDataSeconds := p.settings.staleDataSeconds
  unitCodes := p.settings.unitCodeList
  mlMapeTarget := p.settings.mlMapeTarget
  mlMaxLatencyMs := p.mlMaxLatencyMs
  carbonReportIntervalSeconds := p.settings.carbonReportIntervalSeconds
  ingestionRateHz := p.ingestionRateHz

def RuntimeSettingsUpdate.apply (body : RuntimeSettingsUpdate) (p : ProcessSettings) : ProcessSettings where
  settings :=
    { p.settings with
      staleDataSeconds := (body.staleDataSeconds.map Subtype.val).getD p.settings.staleDataSeconds
      mlMapeTarget := (body.mlMapeTarget.map Subtype.val).getD p.settings.mlMapeTarget
      carbonReportIntervalSeconds :=
        (body.carbonReportIntervalSeconds.map Subtype.val).getD p.settings.carbonReportIntervalSeconds }
  mlMaxLatencyMs := (body.mlMaxLatencyMs.map Subtype.val).getD p.mlMaxLatencyMs
  ingestionRateHz := (body.ingestionRateHz.map Subtype.val).getD p.ingestionRateHz

def patchSettings (body : RuntimeSettingsUpdate) (p : ProcessSettings) : RuntimeSettingsOut × ProcessSettings :=
  (getSettingsView (body.apply p), body.apply p)

/-! ### The two routes -/

/-- What the trust route says of a registered model. -/
structure ModelTrust where
  modelVersion : String
  holdoutMape : ExtRat
  meetsMapeTarget : Bool
  holdoutTemporal : Bool
  dataSource : Option String
  physicsCalVersion : Option String
  trustOk : Bool

/-- The answer of the trust route; `model` is missing where none is registered. -/
structure TrustStatus where
  status : String
  plantCode : String
  kind : ModelKind
  trustedMode : Bool
  allowSynthetic : Bool
  allowPhysicsFallback : Bool
  model : Option ModelTrust

/-- `"timescaledb" in str(meta.get("data_source", ""))`. -/
def plantData (metrics : TrainMetrics) : Bool := decide ("timescaledb".toList <:+: (metrics.dataSource.getD "").toList)

def modelTrustStatus {M : Type} (cfg : Settings) (store : ModelStore M) (plantCode : String) (kind : ModelKind) : TrustStatus :=
  match loadLatest store kind plantCode with
  | none =>
    { status := "unavailable"
      plantCode := plantCode
      kind := kind
      trustedMode := cfg.trustedModeActive
      allowSynthetic := cfg.allowMlSynthetic
      allowPhysicsFallback := cfg.allowMlPhysicsFallback
      model := none }
  | some registered =>
    let mapeOk := registered.mape.atMost cfg.mlMapeTarget
    let trustOk := !cfg.trustedModeActive || (plantData registered.metrics && mapeOk)
    { status := if trustOk && mapeOk then "trusted" else "registered"
      plantCode := plantCode
      kind := kind
      trustedMode := cfg.trustedModeActive
      allowSynthetic := cfg.allowMlSynthetic
      allowPhysicsFallback := cfg.allowMlPhysicsFallback
      model := some
        { modelVersion := registered.version
          holdoutMape := registered.mape
          meetsMapeTarget := mapeOk
          holdoutTemporal := registered.metrics.holdoutTemporal
          dataSource := registered.metrics.dataSource
          physicsCalVersion := registered.metrics.physicsCalVersion
          trustOk := trustOk } }

structure PredictionResponse where
  plantCode : String
  horizonMinutes : ℚ
  model : ModelKind
  predictedEnergyKwh : ExtRat
  predictedCarbonKgco2 : ExtRat
  latencyMs : ℚ
  mapeEstimate : Option ExtRat
  modelVersion : Option String
  source : PredictionSource
  note : String
  trusted : Bool

inductive PredictRefusal where
  | unavailable (detail : String)
  | gatewayTimeout (detail : String)
  | raised (message : String)

def sourceText : PredictionSource → String
  | .mlModel => "ml_model"
  | .physicsFallback => "physics_fallback"

/-- One request for a forecast: the readings that its session sees, and how long the model takes. -/
structure PredictCall where
  plants : Dict String Nat
  session : Option ReadingTable
  now : Int
  plantCode : String
  horizonMinutes : ℚ
  model : ModelKind
  latencyMs : ℚ

section
variable {M : Type} (learner : Learner M) (factors : Dict String EmissionFactors)

/-- `shown` writes a latency into the detail of a timeout. -/
def predict (shown : ℚ → String) (p : ProcessSettings) (store : ModelStore M) (call : PredictCall) :
    Except PredictRefusal PredictionResponse :=
  match predictForPlant p.settings call.plants call.now learner factors store call.session call.plantCode
      call.horizonMinutes call.model .empty with
  | .error (.modelUnavailable message) => .error (.unavailable message)
  | .error (.other message) => .error (.raised message)
  | .ok result =>
    if p.mlMaxLatencyMs ≤ roundTo 3 call.latencyMs then
      .error (.gatewayTimeout ("Prediction exceeded latency budget (" ++ shown (roundTo 3 call.latencyMs) ++ " ms)"))
    else .ok
      { plantCode := call.plantCode
        horizonMinutes := call.horizonMinutes
        model := result.model
        predictedEnergyKwh := result.predictedEnergyKwh
        predictedCarbonKgco2 := result.predictedCarbonKgco2
        latencyMs := roundTo 3 call.latencyMs
        mapeEstimate := result.mapeEstimate
        modelVersion := result.modelVersion
        source := result.source
        note := "Served from " ++ sourceText result.source ++
          (match result.modelVersion with
            | some version => if version = "" then "" else " version=" ++ version
            | none => "")
        trusted := result.trusted }

/-! ### Runs -/

structure ModelServer (M : Type) where
  process : ProcessSettings
  store : ModelStore M

inductive ModelAction where
  | train (request : TrainRequest)
  | cycle (inputs : Nat → TrainerInput)
  | patch (body : RuntimeSettingsUpdate)

def modelStep (s : ModelServer M) : ModelAction → ModelServer M
  | .train request => { s with store := (trainModel learner s.process.settings s.store request).1 }
  | .cycle inputs => { s with store := (runOnce learner s.process.settings s.store inputs).1 }
  | .patch body => { s with process := (patchSettings body s.process).2 }

end

/-- The data source that an entry carries is that of its dataset, unless the tracking server has saved it again. -/
def SourceRecorded {M : Type} (cfg : Settings) (entry : Registration M) : Prop :=
  entry.registered.metrics.dataSource = some entry.dataset.source ∨
    entry.registered.metrics.dataSource = some (entry.dataset.source ++ "+vsg") ∨
    entry.registered.metrics.dataSource = none ∧ cfg.mlflowEnabled = true

section
variable {M : Type} {learner : Learner M} {cfg : Settings} {store : ModelStore M} {request : TrainRequest}
  {dataset : MLDataset} {key : String × ModelKind} {entry : Registration M}

theorem saveLocal_metrics {model : M} {kind : ModelKind} {plantCode : String} {mapeValue : ExtRat} {metrics : TrainMetrics}
    {stamp : SaveStamp}
    (found : (saveLocal store model kind plantCode mapeValue metrics dataset stamp).1.registry.get? key = some entry) :
    store.registry.get? key = some entry ∨ entry.dataset = dataset ∧ entry.registered.metrics = metrics := by
  unfold saveLocal at found
  dsimp only at found
  rw [Dict.get?_set] at found
  split at found
  · cases found
    exact .inr ⟨rfl, rfl⟩
  · exact .inl found

theorem registerFit_recorded {version : Option String} {fit : Fit M}
    (found : (registerFit cfg store request dataset version fit).1.registry.get? key = some entry) :
    store.registry.get? key = some entry ∨ SourceRecorded cfg entry := by
  unfold registerFit at found
  dsimp only at found
  split at found
  · exact .inl found
  · have own : ∀ {stamp : SaveStamp} {store : ModelStore M} {mapeValue testSize holdoutTemporal trusted featureRef
        physicsCalVersion}, (saveLocal store fit.model request.kind request.plantCode fit.mape ⟨mapeValue, testSize,
          holdoutTemporal, trusted, some (if fit.vsgSamples = 0 then dataset.source else dataset.source ++ "+vsg"),
          featureRef, physicsCalVersion⟩ dataset stamp).1.registry.get? key = some entry →
        store.registry.get? key = some entry ∨ SourceRecorded cfg entry := by
      intro stamp store mapeValue testSize holdoutTemporal trusted featureRef physicsCalVersion found
      refine (saveLocal_metrics found).imp_right ?_
      rintro ⟨rfl, metrics⟩
      unfold SourceRecorded
      rw [metrics]
      dsimp only
      split
      · exact .inl rfl
      · exact .inr (.inl rfl)
    unfold logToMlflow at found
    split at found
    · exact own found
    · rename_i enabled
      have logged : cfg.mlflowEnabled = true := by simpa using enabled
      have again : ∀ {stamp : SaveStamp} {store : ModelStore M} {metrics : TrainMetrics},
          (saveLocal store fit.model request.kind request.plantCode fit.mape metrics.numeric dataset stamp).1.registry.get?
            key = some entry → store.registry.get? key = some entry ∨ SourceRecorded cfg entry := by
        intro stamp store metrics found
        refine (saveLocal_metrics found).imp_right ?_
        rintro ⟨_, stripped⟩
        exact .inr (.inr ⟨congrArg TrainMetrics.dataSource stripped, logged⟩)
      cases log : request.mlflow with
      | failed =>
        rw [log] at found
        exact own found
      | savedOnly stamp =>
        rw [log] at found
        exact (again found).elim own .inr
      | logged stamp runId =>
        rw [log] at found
        exact (again found).elim own .inr

theorem trainModel_recorded (found : (trainModel learner cfg store request).1.registry.get? key = some entry) :
    store.registry.get? key = some entry ∨ SourceRecorded cfg entry :=
  trainModel_new (fun _ _ _ _ _ _ registered => registerFit_recorded registered) found

end

/-! ### What a run leaves registered -/

section
variable {M : Type} {learner : Learner M}

/-- What the runtime settings leave alone. -/
theorem modelStep_rest (s : ModelServer M) (action : ModelAction) :
    (modelStep learner s action).process.settings.trustedModeActive = s.process.settings.trustedModeActive ∧
      (modelStep learner s action).process.settings.mlflowEnabled = s.process.settings.mlflowEnabled := by
  cases action <;> exact ⟨rfl, rfl⟩

theorem modelStep_new {P : Prop} (s : ModelServer M) (action : ModelAction)
    {key : String × ModelKind} {entry : Registration M}
    (trains : ∀ (store : ModelStore M) request,
      (trainModel learner s.process.settings store request).1.registry.get? key = some entry →
        store.registry.get? key = some entry ∨ P)
    (found : (modelStep learner s action).store.registry.get? key = some entry) :
    s.store.registry.get? key = some entry ∨ P := by
  cases action with
  | train request => exact trains s.store request found
  | cycle inputs => exact runOnce_new trains found
  | patch body => exact .inl found

/-- The mode and the tracking of a run are those of its start. -/
theorem run_rest (start : ModelServer M) (actions : List ModelAction) :
    (run (modelStep learner) start actions).process.settings.trustedModeActive = start.process.settings.trustedModeActive ∧
      (run (modelStep learner) start actions).process.settings.mlflowEnabled = start.process.settings.mlflowEnabled := by
  have keep : ∀ (s : ModelServer M) action,
      s.process.settings.trustedModeActive = start.process.settings.trustedModeActive ∧
          s.process.settings.mlflowEnabled = start.process.settings.mlflowEnabled →
        (modelStep learner s action).process.settings.trustedModeActive = start.process.settings.trustedModeActive ∧
          (modelStep learner s action).process.settings.mlflowEnabled = start.process.settings.mlflowEnabled :=
    fun s action held => ⟨(modelStep_rest s action).1.trans held.1, (modelStep_rest s action).2.trans held.2⟩
  exact run_invariant keep ⟨rfl, rfl⟩

/-- An entry of a run: its data source is recorded, and in trusted mode it was vouched for when it was registered. -/
structure Kept (learner : Learner M) (start : ModelServer M) (before : List ModelAction) (entry : Registration M) : Prop where
  recorded : SourceRecorded start.process.settings entry
  vouched : start.process.settings.trustedModeActive = true →
    ∃ earlier, earlier <+: before ∧ Vouched (run (modelStep learner) start earlier).process.settings entry

def RunKept (learner : Learner M) (start : ModelServer M) (before : List ModelAction) (s : ModelServer M) : Prop :=
  ∀ key entry, s.store.registry.get? key = some entry → Kept learner start before entry

theorem runKept_step (start : ModelServer M) (before : List ModelAction) (action : ModelAction)
    (kept : RunKept learner start before (run (modelStep learner) start before)) :
    RunKept learner start (before ++ [action]) (modelStep learner (run (modelStep learner) start before) action) := by
  intro key entry found
  obtain ⟨mode, tracking⟩ := @run_rest M learner start before
  generalize at_ : run (modelStep learner) start before = s at *
  have made : s.store.registry.get? key = some entry ∨ SourceRecorded start.process.settings entry ∧
      (start.process.settings.trustedModeActive = true → Vouched s.process.settings entry) := by
    refine modelStep_new s action ?_ found
    intro store request registered
    rcases trainModel_recorded registered with old | recorded
    · exact .inl old
    · by_cases trusted : start.process.settings.trustedModeActive = true
      · refine (trainModel_entries (mode.trans trusted) registered).imp_right fun vouched => ⟨?_, fun _ => vouched⟩
        unfold SourceRecorded at recorded ⊢
        rwa [tracking] at recorded
      · refine .inr ⟨?_, fun again => absurd again trusted⟩
        unfold SourceRecorded at recorded ⊢
        rwa [tracking] at recorded
  rcases made with old | ⟨recorded, vouched⟩
  · obtain ⟨recorded, vouched⟩ := kept key entry old
    refine ⟨recorded, fun trusted => ?_⟩
    obtain ⟨earlier, part, vouch⟩ := vouched trusted
    exact ⟨earlier, part.trans (List.prefix_append _ _), vouch⟩
  · refine ⟨recorded, fun trusted => ⟨before, List.prefix_append _ _, ?_⟩⟩
    rw [at_]
    exact vouched trusted

theorem runKept (process : ProcessSettings) (calibration : Option String) (actions : List ModelAction) :
    RunKept learner ⟨process, .empty, calibration⟩ actions
      (run (modelStep learner) ⟨process, .empty, calibration⟩ actions) := by
  have start : RunKept learner ⟨process, .empty, calibration⟩ [] ⟨process, .empty, calibration⟩ := by
    intro key entry found
    cases found
  exact run_history (runKept_step _) start actions

end

/-! ### The report and the forecasts -/

section
variable {M : Type}

/-- What the trust route and the forecast route say of one plant and kind of model in a state, and what stands behind a
model in trusted mode: plant data, and, as long as no target was above the present one, the target. -/
structure TrustAgrees (learner : Learner M) (factors : Dict String EmissionFactors) (shown : ℚ → String)
    (start : ModelServer M) (actions : List ModelAction) (plantCode : String) (kind : ModelKind) : Prop where
  refused : ∀ call : PredictCall, call.plantCode = plantCode → call.model = kind →
    let s := run (modelStep learner) start actions
    let report := modelTrustStatus s.process.settings s.store plantCode kind
    (∃ detail, predict learner factors shown s.process s.store call = .error (.unavailable detail)) ↔
      report.model.isNone = true ∧ report.allowPhysicsFallback = false
  served : ∀ call : PredictCall, call.plantCode = plantCode → call.model = kind → ∀ response,
    let s := run (modelStep learner) start actions
    let report := modelTrustStatus s.process.settings s.store plantCode kind
    predict learner factors shown s.process s.store call = .ok response →
      response.modelVersion = report.model.map (·.modelVersion) ∧
        response.mapeEstimate = report.model.map (·.holdoutMape.roundTo 3) ∧
        (response.trusted = true ↔ report.trustedMode = true ∧ report.model.isSome = true)
  trustOk :
    let s := run (modelStep learner) start actions
    let report := modelTrustStatus s.process.settings s.store plantCode kind
    ∀ m, report.model = some m →
      (m.trustOk = true ↔ (report.trustedMode = true → m.meetsMapeTarget = true ∧ m.dataSource.isSome = true)) ∧
        (s.process.settings.mlflowEnabled = false → m.dataSource.isSome = true)
  target :
    let s := run (modelStep learner) start actions
    let report := modelTrustStatus s.process.settings s.store plantCode kind
    report.trustedMode = true →
      (∀ earlier, earlier <+: actions → (run (modelStep learner) start earlier).process.settings.mlMapeTarget ≤
        s.process.settings.mlMapeTarget) →
      ∀ m, report.model = some m → m.meetsMapeTarget = true
  trained : ∀ (request : TrainRequest) result, request.plantCode = plantCode → request.kind = kind →
    let s := run (modelStep learner) start actions
    let after := trainModel learner s.process.settings s.store request
    after.2 = .ok result → ∃ m, (modelTrustStatus s.process.settings after.1 plantCode kind).model = some m ∧
      (m.dataSource.isSome = true ↔ (s.process.settings.mlflowEnabled = true → request.mlflow = .failed))

variable {learner : Learner M} {factors : Dict String EmissionFactors} {shown : ℚ → String} {p : ProcessSettings}
  {store : ModelStore M} {call : PredictCall}

theorem predictRegistered_result {cfg : Settings} {registered : RegisteredModel M} {request : PredictionRequest}
    {result : PredictionResult} (answered : predictRegistered learner cfg registered request = .ok result) :
    result.modelVersion = some registered.version ∧ result.mapeEstimate = some (registered.mape.roundTo 3) := by
  unfold predictRegistered at answered
  split at answered
  · cases answered
  · split at answered
    · cases answered
    · cases answered
    · cases answered
      exact ⟨rfl, rfl⟩

theorem predictRegistered_error {cfg : Settings} {registered : RegisteredModel M} {request : PredictionRequest}
    {detail : String} : predictRegistered learner cfg registered request ≠ .error (.modelUnavailable detail) := by
  intro failed
  unfold predictRegistered at failed
  split at failed
  · cases failed
  · split at failed <;> cases failed

theorem predict_unavailable {detail : String} :
    predict learner factors shown p store call = .error (.unavailable detail) ↔
      predictForPlant p.settings call.plants call.now learner factors store call.session call.plantCode call.horizonMinutes
        call.model .empty = .error (.modelUnavailable detail) := by
  unfold predict
  cases predictForPlant p.settings call.plants call.now learner factors store call.session call.plantCode call.horizonMinutes
    call.model .empty with
  | error refusal => cases refusal <;> simp
  | ok result =>
    dsimp only
    split <;> simp

theorem predict_ok {response : PredictionResponse} (answered : predict learner factors shown p store call = .ok response) :
    ∃ result, predictForPlant p.settings call.plants call.now learner factors store call.session call.plantCode
        call.horizonMinutes call.model .empty = .ok result ∧ response.modelVersion = result.modelVersion ∧
      response.mapeEstimate = result.mapeEstimate ∧ response.trusted = result.trusted := by
  unfold predict at answered
  split at answered
  · cases answered
  · cases answered
  · rename_i result made
    split at answered
    · cases answered
    · cases answered
      exact ⟨result, made, rfl, rfl, rfl⟩

theorem refused_iff :
    (∃ detail, predict learner factors shown p store call = .error (.unavailable detail)) ↔
      (modelTrustStatus p.settings store call.plantCode call.model).model.isNone = true ∧
        (modelTrustStatus p.settings store call.plantCode call.model).allowPhysicsFallback = false := by
  simp only [predict_unavailable]
  unfold predictForPlant predictWithModel modelTrustStatus
  dsimp only
  cases loadLatest store call.model call.plantCode with
  | some registered =>
    refine iff_of_false ?_ fun both => Bool.false_ne_true both.1
    rintro ⟨detail, failed⟩
    exact predictRegistered_error failed
  | none =>
    cases p.settings.allowMlPhysicsFallback with
    | true =>
      refine iff_of_false ?_ fun both => Bool.noConfusion both.2
      rintro ⟨detail, failed⟩
      cases failed
    | false => exact iff_of_true ⟨_, rfl⟩ ⟨rfl, rfl⟩

theorem served_report {response : PredictionResponse}
    (answered : predict learner factors shown p store call = .ok response) :
    response.modelVersion = (modelTrustStatus p.settings store call.plantCode call.model).model.map (·.modelVersion) ∧
      response.mapeEstimate =
        (modelTrustStatus p.settings store call.plantCode call.model).model.map (·.holdoutMape.roundTo 3) ∧
      (response.trusted = true ↔ (modelTrustStatus p.settings store call.plantCode call.model).trustedMode = true ∧
        (modelTrustStatus p.settings store call.plantCode call.model).model.isSome = true) := by
  obtain ⟨result, made, version, mape, trusted⟩ := predict_ok answered
  rw [version, mape, trusted]
  unfold predictForPlant predictWithModel at made
  unfold modelTrustStatus
  dsimp only at made ⊢
  cases found : loadLatest store call.model call.plantCode with
  | some registered =>
    rw [found] at made
    obtain ⟨version, mape⟩ := predictRegistered_result made
    refine ⟨version, mape, ?_⟩
    rw [predictRegistered_trusted made]
    simp
  | none =>
    rw [found] at made
    dsimp only at made
    split at made
    · cases made
    · cases made
      refine ⟨rfl, rfl, iff_of_false Bool.false_ne_true fun both => Bool.false_ne_true both.2⟩

theorem report_entry {cfg : Settings} {plantCode : String} {kind : ModelKind} {m : ModelTrust}
    (reported : (modelTrustStatus cfg store plantCode kind).model = some m) :
    ∃ entry, store.registry.get? (plantCode, kind) = some entry ∧
      m.dataSource = entry.registered.metrics.dataSource ∧
      m.meetsMapeTarget = entry.registered.mape.atMost cfg.mlMapeTarget ∧
      m.trustOk = (!cfg.trustedModeActive || (plantData entry.registered.metrics && m.meetsMapeTarget)) := by
  unfold modelTrustStatus loadLatest at reported
  cases found : store.registry.get? (plantCode, kind) with
  | none =>
    rw [found] at reported
    cases reported
  | some entry =>
    rw [found] at reported
    cases reported
    exact ⟨entry, rfl, rfl, rfl, rfl⟩

theorem report_mode {cfg : Settings} {plantCode : String} {kind : ModelKind} :
    (modelTrustStatus cfg store plantCode kind).trustedMode = cfg.trustedModeActive := by
  unfold modelTrustStatus
  split <;> rfl

/-- What is recorded of plant data names it. -/
theorem plantData_iff {cfg : Settings} {entry : Registration M} (recorded : SourceRecorded cfg entry)
    (plant : entry.dataset.source = "timescaledb") :
    plantData entry.registered.metrics = true ↔ entry.registered.metrics.dataSource.isSome = true := by
  unfold plantData
  rcases recorded with own | augmented | ⟨stripped, _⟩
  · rw [own, plant]
    decide
  · rw [augmented, plant]
    decide
  · rw [stripped]
    decide

theorem trainModel_answered {cfg : Settings} {request : TrainRequest} {result : TrainResult M}
    (answered : (trainModel learner cfg store request).2 = .ok result) :
    ∃ calibrated dataset version fit,
      trainModel learner cfg store request = registerFit cfg calibrated request dataset version fit := by
  unfold trainModel at answered ⊢
  split at answered
  · cases answered
  · rename_i dataset _
    split at answered
    · cases answered
    · rename_i calibrated version _
      split at answered
      · cases answered
      · rename_i fit _
        exact ⟨calibrated, dataset, version, fit, rfl⟩

theorem logToMlflow_source {cfg : Settings} {model : M} {kind : ModelKind} {plantCode : String} {mapeValue : ExtRat}
    {metrics : TrainMetrics} {dataset : MLDataset} {stamp : SaveStamp} {mlflow : MlflowRun}
    (known : metrics.dataSource.isSome = true) :
    ∃ entry, (logToMlflow cfg (saveLocal store model kind plantCode mapeValue metrics dataset stamp).1 model kind plantCode
        mapeValue metrics.numeric dataset mlflow).1.registry.get? (plantCode, kind) = some entry ∧
      (entry.registered.metrics.dataSource.isSome = true ↔ (cfg.mlflowEnabled = true → mlflow = .failed)) := by
  unfold logToMlflow
  cases cfg.mlflowEnabled with
  | false => exact ⟨_, Dict.get?_set_self _ _ _, iff_of_true known fun on => Bool.noConfusion on⟩
  | true =>
    cases mlflow with
    | failed => exact ⟨_, Dict.get?_set_self _ _ _, iff_of_true known fun _ => rfl⟩
    | savedOnly stamp =>
      exact ⟨_, Dict.get?_set_self _ _ _, iff_of_false Bool.false_ne_true fun failed => MlflowRun.noConfusion (failed rfl)⟩
    | logged stamp runId =>
      exact ⟨_, Dict.get?_set_self _ _ _, iff_of_false Bool.false_ne_true fun failed => MlflowRun.noConfusion (failed rfl)⟩

/-- What a training registers carries its data source, unless it was logged. -/
theorem trainModel_source {cfg : Settings} {request : TrainRequest} {result : TrainResult M}
    (answered : (trainModel learner cfg store request).2 = .ok result) :
    ∃ entry, (trainModel learner cfg store request).1.registry.get? (request.plantCode, request.kind) = some entry ∧
      (entry.registered.metrics.dataSource.isSome = true ↔ (cfg.mlflowEnabled = true → request.mlflow = .failed)) := by
  obtain ⟨calibrated, dataset, version, fit, same⟩ := trainModel_answered answered
  rw [same] at answered ⊢
  unfold registerFit at answered ⊢
  dsimp only at answered ⊢
  split at answered
  · cases answered
  · rename_i passed
    rw [if_neg passed]
    exact logToMlflow_source rfl

theorem atMost_mono {x : ExtRat} {low high : ℚ} (rises : low ≤ high) (within : x.atMost low = true) : x.atMost high = true := by
  cases x with
  | nan => exact within
  | infinite negative => exact within
  | finite a => exact decide_eq_true ((of_decide_eq_true within).trans rises)

end

/-- In every state of a run from an empty registry, and for every plant and kind of model: the trust route reports no model
exactly where a forecast is refused for want of one or made of the physics; else the forecast is the reported model's, and
flagged exactly in trusted mode. A model of trusted mode is reported as one to trust as long as it meets the target and
was not logged to the tracking server, which leaves its data source out. -/
theorem trust_agrees {M : Type} (learner : Learner M) (factors : Dict String EmissionFactors) (shown : ℚ → String)
    (process : ProcessSettings) (calibration : Option String) (actions : List ModelAction) (plantCode : String)
    (kind : ModelKind) : TrustAgrees learner factors shown ⟨process, .empty, calibration⟩ actions plantCode kind := by
  have kept := @runKept M learner process calibration actions
  obtain ⟨mode, tracking⟩ := @run_rest M learner ⟨process, .empty, calibration⟩ actions
  refine ⟨?_, ?_, ?_, ?_, ?_⟩
  · rintro call rfl rfl
    exact refused_iff
  · rintro call rfl rfl response
    exact served_report
  · intro s report m reported
    obtain ⟨entry, found, source, meets, ok⟩ := report_entry reported
    obtain ⟨recorded, vouched⟩ := kept _ entry found
    rw [source]
    refine ⟨?_, fun off => ?_⟩
    · rw [ok]
      show (!s.process.settings.trustedModeActive || (plantData entry.registered.metrics && m.meetsMapeTarget)) = true ↔
        (report.trustedMode = true → _)
      rw [show report.trustedMode = s.process.settings.trustedModeActive from report_mode]
      cases trusted : s.process.settings.trustedModeActive with
      | false => simp
      | true =>
        obtain ⟨earlier, _, plant, _⟩ := vouched (mode.symm.trans trusted)
        simp only [Bool.not_true, Bool.false_or, Bool.and_eq_true, plantData_iff recorded plant, true_implies]
        exact and_comm
    · rcases recorded with own | augmented | ⟨_, tracked⟩
      · rw [own]
        rfl
      · rw [augmented]
        rfl
      · cases tracked.symm.trans (tracking.symm.trans off)
  · intro s report trusted highest m reported
    obtain ⟨entry, found, source, meets, ok⟩ := report_entry reported
    rw [show report.trustedMode = s.process.settings.trustedModeActive from report_mode] at trusted
    obtain ⟨earlier, part, _, within⟩ := (kept _ entry found).vouched (mode.symm.trans trusted)
    rw [meets]
    exact atMost_mono (highest earlier part) within
  · rintro request result rfl rfl s after answered
    obtain ⟨entry, found, source⟩ := trainModel_source answered
    unfold modelTrustStatus loadLatest
    rw [found]
    exact ⟨_, rfl, source⟩

end Iems.Api
