import Iems.Api.Deps
import Iems.Demo.MemoryRecs
import Iems.Lib.Agreement
import Iems.Optimization.Recommendations
import Iems.Optimization.Snapshots

/-! The recommendation routes, over the records in memory and over the database. -/
namespace Iems.Api
open Lib Iems.Optimization Iems.Services Iems.Demo

structure RecServer where
  memory : MemoryRecStore
  db : RecStore

inductive RouteRequest where
  | feedback (decision operator : String) (comment : Option String) (now : Int)
  | simulate (ctx : SimulateContext) (model : String)
  | approve (actor : String) (comment : Option String) (now : Int)
  | apply (ctx : ApplyContext) (actor : String) (dryRun : Option Bool) (now : Int)
  | impact (ctx : ImpactContext) (live : String → Option (LiveReading ℚ)) (actor : String)

structure FeedbackOut where
  recommendationId : Nat
  decision : String
  operator : String
  comment : Option String
  status : RecStatus
  createdAt : Int

structure SetpointAdviceOut where
  id : Nat
  advice : SetpointAdvice
  simulatedIntensityDelta : Option ℚ
  simulatedEfficiencyDeltaPp : Option ℚ
  status : RecStatus
  applyMode : Option String
  realizedSavingKwhPerH : Option ℚ
  approvedBy : Option String
  appliedBy : Option String

/-- A planned setpoint; the memory route knows no node and no raw value. -/
structure PlannedSetpoint where
  field : String
  value : ℚ
  node : Option (String × ℚ) := none

structure ApplyOut where
  recommendationId : Nat
  status : RecStatus
  applyMode : String
  dryRun : Bool
  planned : List PlannedSetpoint
  written : List PlannedSetpoint
  skipped : List String
  detail : String
  baselineIntensity : Option ℚ
  baselineEfficiency : Option ℚ

inductive RouteOut where
  | feedback (out : FeedbackOut)
  | simulation (out : AdviceSimulation)
  | advice (out : SetpointAdviceOut)
  | apply (out : ApplyOut)
  | impact (out : ImpactOutcome)

def recommendationNotFound : HttpError := ⟨404, "Recommendation not found"⟩

/-! ### The records in memory -/

def memoryAdvice (rec : MemoryRecommendation) : SetpointAdvice where
  plantCode := rec.plantCode
  priority := rec.priority
  title := rec.title
  rationale := rec.rationale
  current := rec.current
  proposed := rec.proposed
  deltas := rec.deltas
  estimatedSecReductionPct := rec.estimatedSecReductionPct
  estimatedEnergySavingKwhPerH := rec.estimatedEnergySavingKwhPerH
  estimatedEfficiencyGainPp := rec.estimatedEfficiencyGainPp
  benchmarkPlant := rec.benchmarkPlant
  tags := rec.tags

def memoryRowToAdvice (rec : MemoryRecommendation) : SetpointAdviceOut where
  id := rec.id
  advice := memoryAdvice rec
  simulatedIntensityDelta := rec.simulatedIntensityDelta
  simulatedEfficiencyDeltaPp := rec.simulatedEfficiencyDeltaPp
  status := rec.status
  applyMode := rec.applyMode
  realizedSavingKwhPerH := rec.realizedSavingKwhPerH
  approvedBy := rec.approvedBy
  appliedBy := rec.appliedBy

/-- A status change answers with `out` of the edited record; what it raises is not caught. -/
def changeStatus (memory : MemoryRecStore) (id : Nat) (status : RecStatus) (actor : String) (comment : Option String)
    (extra : List Extra) (out : MemoryRecommendation → RouteOut) : Except HttpError RouteOut × MemoryRecStore :=
  let (changed, outcome) := memory.setStatus id status actor comment extra
  match outcome with
  | .error _ => (.error internalError, changed)
  | .ok rec => (.ok (out rec), changed)

def memoryFeedback (memory : MemoryRecStore) (id : Nat) (rec : MemoryRecommendation) (decision operator : String)
    (comment : Option String) (now : Int) : Except HttpError RouteOut × MemoryRecStore :=
  if decision ≠ "accepted" ∧ decision ≠ "rejected" then
    (.error ⟨400, "decision must be accepted or rejected"⟩, memory)
  else if rec.status ≠ .pending ∧ rec.status ≠ .accepted then
    (.error ⟨400, "Cannot " ++ decision ++ " in status=" ++ rec.status.text⟩, memory)
  else
    changeStatus memory id (decidedStatus decision) operator comment
      [.resolvedAt (if decision = "rejected" then some now else none)] fun _ =>
      .feedback
        { recommendationId := id
          decision := decision
          operator := operator
          comment := comment
          status := decidedStatus decision
          createdAt := now }

def memorySimulate (memory : MemoryRecStore) (id : Nat) (rec : MemoryRecommendation) (ctx : SimulateContext)
    (model : String) : Except HttpError RouteOut × MemoryRecStore :=
  match (ctx.loadUnitState rec.plantCode).bind fun state =>
      simulateAdvice ctx.simulateWhatIfMl state (memoryAdvice rec) model with
  | none => (.error internalError, memory)
  | some sim =>
    (.ok (.simulation sim),
      { memory with
        recs := memory.recs.set id
          { rec with
            simulatedIntensityDelta := some sim.intensityDelta
            simulatedEfficiencyDeltaPp := some sim.efficiencyDeltaPp } })

def memoryApprove (memory : MemoryRecStore) (id : Nat) (rec : MemoryRecommendation) (actor : String)
    (comment : Option String) (now : Int) : Except HttpError RouteOut × MemoryRecStore :=
  if rec.status ≠ .accepted then
    (.error ⟨409, "Approve requires status=accepted (current=" ++ rec.status.text ++ ")"⟩, memory)
  else
    changeStatus memory id .approved actor comment [.approvedBy actor, .approvedAt now] fun updated =>
      .advice (memoryRowToAdvice updated)

/-- No simulation is required and no write is attempted. -/
def memoryApply (memory : MemoryRecStore) (id : Nat) (rec : MemoryRecommendation) (actor : String)
    (dryRun : Option Bool) (now : Int) : Except HttpError RouteOut × MemoryRecStore :=
  if rec.status ≠ .approved then
    (.error ⟨409, "Apply requires status=approved (current=" ++ rec.status.text ++ ")"⟩, memory)
  else
    let dryRun := dryRun.getD true
    let planned := rec.proposed.items.map fun item => { field := item.1, value := item.2 : PlannedSetpoint }
    let mode := if dryRun then "dry_run" else "write"
    changeStatus memory id .applied actor none [.applyMode mode, .appliedBy actor, .appliedAt now] fun _ =>
      .apply
        { recommendationId := id
          status := .applied
          applyMode := mode
          dryRun := dryRun
          planned := planned
          written := if dryRun then [] else planned
          skipped := []
          detail := "demo memory apply"
          baselineIntensity := none
          baselineEfficiency := none }

/-- The status is not looked at. -/
def memoryImpact (memory : MemoryRecStore) (id : Nat) (rec : MemoryRecommendation)
    (live : String → Option (LiveReading ℚ)) (actor : String) : Except HttpError RouteOut × MemoryRecStore :=
  match live rec.plantCode with
  | none => (.error internalError, memory)
  | some reading =>
    let est := rec.estimatedEnergySavingKwhPerH
    changeStatus memory id rec.status actor none [.realizedSavingKwhPerH (est * (85 / 100))] fun _ =>
      .impact
        { recommendationId := id
          plantCode := rec.plantCode
          status := rec.status
          baselineIntensity := rec.baselineIntensity
          currentIntensity := some reading.energyIntensityKgoeTon
          baselineEfficiency := rec.baselineEfficiency
          currentEfficiency := some reading.energyEfficiencyPercent
          estimatedSavingKwhPerH := some est
          realizedSavingKwhPerH := some (est * (85 / 100))
          windowMinutes := 15
          samples := 1
          detail := "demo memory impact from live reading" }

def handleMemory (memory : MemoryRecStore) (id : Nat) (request : RouteRequest) :
    Except HttpError RouteOut × MemoryRecStore :=
  match memory.get id with
  | none => (.error recommendationNotFound, memory)
  | some rec =>
    match request with
    | .feedback decision operator comment now => memoryFeedback memory id rec decision operator comment now
    | .simulate ctx model => memorySimulate memory id rec ctx model
    | .approve actor comment now => memoryApprove memory id rec actor comment now
    | .apply _ actor dryRun now => memoryApply memory id rec actor dryRun now
    | .impact _ live actor => memoryImpact memory id rec live actor

/-! ### The database -/

/-- The `except` clauses of the routes; what they do not name is answered with 500. -/
def httpOf : RecError → HttpError
  | .keyError _ => recommendationNotFound
  | .valueError message => ⟨400, message⟩
  | .workflow message => ⟨409, message⟩
  | .http statusCode detail => ⟨statusCode, detail⟩
  | .io _ | .commit | .simulation => internalError

def applyModeText : ApplyMode → String
  | .dryRun => "dry_run"
  | .live => "live"

def rowToAdvice (id : Nat) (rec : OptimizationRecommendation) : SetpointAdviceOut where
  id := id
  advice := rowAdvice rec
  simulatedIntensityDelta := rec.simulatedIntensityDelta
  simulatedEfficiencyDeltaPp := rec.simulatedEfficiencyDeltaPp
  status := rec.status
  applyMode := rec.applyMode.map applyModeText
  realizedSavingKwhPerH := rec.realizedSavingKwhPerH
  approvedBy := rec.approvedBy
  appliedBy := rec.appliedBy

def plannedSetpoint (item : Ingestion.WrittenItem) : PlannedSetpoint :=
  { field := item.field, value := item.value, node := some (item.nodeId, item.raw) }

def answer {α : Type} (out : α → RouteOut) : Except RecError α → Except HttpError RouteOut
  | .error raised => .error (httpOf raised)
  | .ok value => .ok (out value)

def feedbackOut (body : FeedbackRequest) (row : Option OptimizationRecommendation × RecommendationFeedback) : RouteOut :=
  .feedback
    { recommendationId := body.recommendationId
      decision := row.2.decision
      operator := row.2.operator
      comment := row.2.comment
      status := (row.1.map (·.status)).getD (decidedStatus body.decision)
      createdAt := body.now }

def applyOut (outcome : ApplyOutcome) : RouteOut :=
  .apply
    { recommendationId := outcome.recommendationId
      status := outcome.status
      applyMode := applyModeText outcome.applyMode
      dryRun := outcome.dryRun
      planned := outcome.planned.map plannedSetpoint
      written := outcome.written.map plannedSetpoint
      skipped := outcome.skipped
      detail := outcome.detail
      baselineIntensity := outcome.baselineIntensity
      baselineEfficiency := outcome.baselineEfficiency }

def handleDb (db : RecStore) (id : Nat) (request : RouteRequest) : Except HttpError RouteOut × RecStore :=
  match request with
  | .feedback decision operator comment now =>
    let body : FeedbackRequest := { recommendationId := id, decision, operator, comment, now }
    let (outcome, committed) := submitFeedback body db
    (answer (feedbackOut body) outcome, committed)
  | .simulate ctx model =>
    let (outcome, committed) := simulateRecommendation ctx id model db
    (answer .simulation outcome, committed)
  | .approve actor comment now =>
    match approveRecommendation { recommendationId := id, actor, comment, now } db with
    | (.error raised, committed) => (.error (httpOf raised), committed)
    | (.ok none, committed) => (.error internalError, committed)
    | (.ok (some row), committed) => (.ok (.advice (rowToAdvice id row)), committed)
  | .apply ctx actor dryRun now =>
    let ran := applyRecommendation ctx { recommendationId := id, actor, dryRun, now } db
    (answer applyOut ran.outcome, ran.db)
  | .impact ctx _ actor =>
    let (outcome, committed) := measureImpact ctx { recommendationId := id, actor } db
    (answer .impact outcome, committed)

/-! ### One server -/

def handle (server : RecServer) (id : Nat) (request : RouteRequest) : Except HttpError RouteOut × RecServer :=
  if isMemoryId id then
    let (response, memory) := handleMemory server.memory id request
    (response, { server with memory := memory })
  else
    let (response, db) := handleDb server.db id request
    (response, { server with db := db })

def statusOf (server : RecServer) (id : Nat) : Option RecStatus :=
  if isMemoryId id then (server.memory.get id).map (·.status)
  else (getRecommendation server.db id).map (·.status)

def accepts (server : RecServer) (id : Nat) (request : RouteRequest) : Bool := (handle server id request).1.isOk

end Iems.Api
