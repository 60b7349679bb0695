import Iems.Ml.Features
import Iems.Optimization.Store

/-! Approve, apply and impact of a recommendation. -/
namespace Iems.Optimization
open Lib Iems.Core Ingestion Ml

/-! ### Approve -/

structure ApproveRequest where
  recommendationId : Nat
  actor : String
  comment : Option String := none
  now : Int

def approveCheck (body : ApproveRequest) (db : RecStore) : Except RecError OptimizationRecommendation :=
  match getRecommendation db body.recommendationId with
  | none => .error (notFound body.recommendationId)
  | some rec =>
    if rec.status ≠ .accepted then
      .error (.workflow ("Approve requires status=accepted (current=" ++ rec.status.text ++ ")"))
    else .ok rec

def approveEdit (body : ApproveRequest) (rec : OptimizationRecommendation) :
    OptimizationRecommendation :=
  { rec with status := .approved, approvedBy := some body.actor, approvedAt := some body.now }

def approveEvent (body : ApproveRequest) : RecommendationAuditEvent where
  recommendationId := body.recommendationId
  eventType := .approved
  actor := body.actor
  detail := .comment body.comment

def approveCommit (body : ApproveRequest) (rec : OptimizationRecommendation) (db : RecStore) : RecStore :=
  appendAudit (save db body.recommendationId rec (approveEdit body rec)) (approveEvent body)

def approveRecommendation (body : ApproveRequest) (db : RecStore) :
    Except RecError (Option OptimizationRecommendation) × RecStore :=
  match approveCheck body db with
  | .error e => (.error e, db)
  | .ok rec =>
    let committed := approveCommit body rec db
    (.ok (getRecommendation committed body.recommendationId), committed)

/-! ### Apply -/

structure ApplyRequest where
  recommendationId : Nat
  actor : String
  dryRun : Option Bool := none
  now : Int

/-- What an apply runs in; `loadUnitState` is `none` where the live state cannot be loaded. -/
structure ApplyContext where
  cfg : Settings
  tagMap : TagMap
  loadUnitState : String → Option UnitOperatingState
  faults : OpcFaults := {}
  commitFails : Bool := false

structure ApplyOutcome where
  recommendationId : Nat
  status : RecStatus
  applyMode : ApplyMode
  dryRun : Bool
  planned : List WrittenItem
  written : List WrittenItem
  skipped : List String
  detail : String
  baselineIntensity : Option ℚ
  baselineEfficiency : Option ℚ
  deriving DecidableEq

def applyCheck (cfg : Settings) (body : ApplyRequest) (db : RecStore) :
    Except RecError OptimizationRecommendation :=
  match getRecommendation db body.recommendationId with
  | none => .error (notFound body.recommendationId)
  | some rec =>
    if rec.status ≠ .approved then
      .error (.workflow ("Apply requires status=approved (current=" ++ rec.status.text ++ ")"))
    else if cfg.optRequireSimBeforeApply ∧ rec.simulatedIntensityDelta = none then
      .error (.workflow "Simulate before apply (OPT_REQUIRE_SIM_BEFORE_APPLY=true)")
    else .ok rec

def captureBaseline (ctx : ApplyContext) (rec : OptimizationRecommendation) : Option ℚ × Option ℚ :=
  match ctx.loadUnitState rec.plantCode with
  | some state => (some state.energyIntensityKgoeTon, some state.energyEfficiencyPercent)
  | none =>
    let intensity := (rec.current.get? "energy_intensity_kgoe_ton").getD 0
    (if intensity = 0 then none else some intensity, none)

/-- The write attempt of an apply: the dry-run default is resolved here and again by the writer. -/
def applyWrites (ctx : ApplyContext) (body : ApplyRequest) (rec : OptimizationRecommendation) : WriteRun :=
  writeSetpoints ctx.cfg ctx.tagMap ctx.faults rec.plantCode rec.proposed
    (some (effectiveDryRun ctx.cfg body.dryRun))

def applyMode (result : WriteResult) : ApplyMode :=
  if result.dryRun then .dryRun else .live

def appliedEdit (ctx : ApplyContext) (body : ApplyRequest) (rec : OptimizationRecommendation)
    (result : WriteResult) : OptimizationRecommendation :=
  { rec with
    status := .applied
    appliedBy := some body.actor
    appliedAt := some body.now
    applyMode := some (applyMode result)
    baselineIntensity := (captureBaseline ctx rec).1
    baselineEfficiency := (captureBaseline ctx rec).2
    resolvedAt := some body.now }

def appliedEvent (ctx : ApplyContext) (body : ApplyRequest) (rec : OptimizationRecommendation)
    (result : WriteResult) : RecommendationAuditEvent where
  recommendationId := body.recommendationId
  eventType := .applied
  actor := body.actor
  detail := .applied (applyMode result) result.dryRun (result.planned.map (·.writtenItem))
    result.written result.skipped result.detail (captureBaseline ctx rec).1 (captureBaseline ctx rec).2

def applyOutcome (ctx : ApplyContext) (body : ApplyRequest) (rec : OptimizationRecommendation)
    (result : WriteResult) : ApplyOutcome where
  recommendationId := body.recommendationId
  status := .applied
  applyMode := applyMode result
  dryRun := result.dryRun
  planned := result.planned.map (·.writtenItem)
  written := result.written
  skipped := result.skipped
  detail := result.detail
  baselineIntensity := (captureBaseline ctx rec).1
  baselineEfficiency := (captureBaseline ctx rec).2

def failedEdit (rec : OptimizationRecommendation) : OptimizationRecommendation :=
  { rec with status := .failed }

def failedEvent (ctx : ApplyContext) (body : ApplyRequest) (message : String) :
    RecommendationAuditEvent where
  recommendationId := body.recommendationId
  eventType := .applyFailed
  actor := body.actor
  detail := .applyFailed message (effectiveDryRun ctx.cfg body.dryRun)

/-- What follows the write attempt: only a refused write is recorded, any other exception leaves
the transaction to be rolled back. -/
def applyCommit (ctx : ApplyContext) (body : ApplyRequest) (rec : OptimizationRecommendation)
    (db : RecStore) : Except RecError ApplyOutcome × RecStore :=
  match (applyWrites ctx body rec).outcome with
  | .error (.notAllowed message) =>
    if ctx.commitFails then (.error .commit, db)
    else
      (.error (.workflow message),
        appendAudit (save db body.recommendationId rec (failedEdit rec)) (failedEvent ctx body message))
  | .error (.io stage) => (.error (.io stage), db)
  | .ok result =>
    if ctx.commitFails then (.error .commit, db)
    else
      (.ok (applyOutcome ctx body rec result),
        appendAudit (save db body.recommendationId rec (appliedEdit ctx body rec result))
          (appliedEvent ctx body rec result))

structure ApplyRun where
  events : List PlantEvent
  outcome : Except RecError ApplyOutcome
  db : RecStore

def applyRecommendation (ctx : ApplyContext) (body : ApplyRequest) (db : RecStore) : ApplyRun :=
  match applyCheck ctx.cfg body db with
  | .error e => ⟨[], .error e, db⟩
  | .ok rec =>
    let (outcome, committed) := applyCommit ctx body rec db
    ⟨(applyWrites ctx body rec).events, outcome, committed⟩

/-! ### Impact -/

structure ImpactRequest where
  recommendationId : Nat
  actor : String := "system"

structure HistorySample where
  energyIntensityKgoeTon : Option ℚ
  energyEfficiencyPercent : Option ℚ

structure ImpactContext where
  cfg : Settings
  getHistory : String → (minutes limit : Nat) → List HistorySample

structure ImpactOutcome where
  recommendationId : Nat
  plantCode : String
  status : RecStatus
  baselineIntensity : Option ℚ
  currentIntensity : Option ℚ
  baselineEfficiency : Option ℚ
  currentEfficiency : Option ℚ
  estimatedSavingKwhPerH : Option ℚ
  realizedSavingKwhPerH : Option ℚ
  windowMinutes : Nat
  samples : Nat
  detail : String
  deriving DecidableEq

def mean (values : List ℚ) : Option ℚ :=
  if values = [] then none else some (values.sum / values.length)

def impactCheck (body : ImpactRequest) (db : RecStore) : Except RecError OptimizationRecommendation :=
  match getRecommendation db body.recommendationId with
  | none => .error (notFound body.recommendationId)
  | some rec =>
    if rec.status ≠ .applied ∧ rec.status ≠ .approved ∧ rec.status ≠ .accepted then
      .error (.workflow
        ("Impact tracking expects accepted/approved/applied (current=" ++ rec.status.text ++ ")"))
    else .ok rec

def realizedSaving (rec : OptimizationRecommendation) (baseline current : ℚ) : ℚ :=
  let proposedFeed := (rec.proposed.get? "feed_flow_tonh").getD 0
  let feed := if proposedFeed = 0 then 100 else proposedFeed
  roundTo 2 (intensityToEnergyKwh baseline feed 60 - intensityToEnergyKwh current feed 60)

/-- What a measurement records: the realized saving and its audit detail, when there is one. -/
def impactRecord (ctx : ImpactContext) (rec : OptimizationRecommendation)
    (intensities : List ℚ) (baseline : Option ℚ) : Option (ℚ × AuditDetail) :=
  match baseline, mean intensities with
  | some before, some after =>
    let realized := realizedSaving rec before after
    some (realized,
      .impact before after realized ctx.cfg.optImpactWindowMinutes intensities.length)
  | _, _ =>
    match rec.estimatedEnergySavingKwhPerH with
    | some estimate =>
      if rec.status = .applied then some (estimate, .estimate estimate "estimate") else none
    | none => none

def impactDetail : Option (ℚ × AuditDetail) → String
  | none => "insufficient_post_apply_samples"
  | some (_, .estimate _ _) => "using_estimate_until_plant_samples"
  | some _ => "realized_from_history"

def impactEdit (rec : OptimizationRecommendation) (realized : ℚ) : OptimizationRecommendation :=
  { rec with realizedSavingKwhPerH := some realized }

def impactEvent (body : ImpactRequest) (detail : AuditDetail) : RecommendationAuditEvent where
  recommendationId := body.recommendationId
  eventType := .impact
  actor := body.actor
  detail := detail

def measureImpact (ctx : ImpactContext) (body : ImpactRequest) (db : RecStore) :
    Except RecError ImpactOutcome × RecStore :=
  match impactCheck body db with
  | .error e => (.error e, db)
  | .ok rec =>
    let minutes := ctx.cfg.optImpactWindowMinutes
    let history := ctx.getHistory rec.plantCode minutes (max 60 (minutes * 60))
    let intensities := history.filterMap (·.energyIntensityKgoeTon)
    let efficiencies := history.filterMap (·.energyEfficiencyPercent)
    let baseline := rec.baselineIntensity.or (rec.current.get? "energy_intensity_kgoe_ton")
    let record := impactRecord ctx rec intensities baseline
    (.ok
      { recommendationId := body.recommendationId
        plantCode := rec.plantCode
        status := rec.status
        baselineIntensity := baseline
        currentIntensity := mean intensities
        baselineEfficiency := rec.baselineEfficiency
        currentEfficiency := mean efficiencies
        estimatedSavingKwhPerH := rec.estimatedEnergySavingKwhPerH
        realizedSavingKwhPerH := record.map Prod.fst
        windowMinutes := minutes
        samples := intensities.length
        detail := impactDetail record },
      match record with
      | none => db
      | some (realized, detail) =>
        appendAudit (save db body.recommendationId rec (impactEdit rec realized))
          (impactEvent body detail))

end Iems.Optimization
