import Iems.Ingestion.OpcuaWrite
import Iems.Lib.Newest
import Iems.Lib.Sessions
import Iems.Lib.Table
import Iems.Optimization.Simulate

/-! The recommendation store: advice rows, operator feedback and the audit trail. -/
namespace Iems.Optimization
open Lib Lib.Sessions Ingestion

inductive RecStatus where
  | pending | accepted | rejected | approved | applied | failed
  deriving DecidableEq

def RecStatus.text : RecStatus → String
  | .pending => "pending"
  | .accepted => "accepted"
  | .rejected => "rejected"
  | .approved => "approved"
  | .applied => "applied"
  | .failed => "failed"

inductive ApplyMode where
  | dryRun | live
  deriving DecidableEq

structure OptimizationRecommendation where
  plantCode : String
  priority : Priority
  title : String
  rationale : String
  current : Dict String ℚ
  proposed : Dict String ℚ
  deltas : Dict String ℚ
  tags : List String
  benchmarkPlant : Option String
  estimatedSecReductionPct : Option ℚ
  estimatedEnergySavingKwhPerH : Option ℚ
  estimatedEfficiencyGainPp : Option ℚ
  simulatedIntensityDelta : Option ℚ
  simulatedEfficiencyDeltaPp : Option ℚ
  status : RecStatus := .pending
  approvedBy : Option String := none
  approvedAt : Option Int := none
  appliedBy : Option String := none
  appliedAt : Option Int := none
  applyMode : Option ApplyMode := none
  baselineIntensity : Option ℚ := none
  baselineEfficiency : Option ℚ := none
  realizedSavingKwhPerH : Option ℚ := none
  createdAt : Int
  resolvedAt : Option Int := none
  deriving DecidableEq

structure RecommendationFeedback where
  recommendationId : Nat
  decision : String
  operator : String
  comment : Option String
  deriving DecidableEq

inductive EventType where
  | created | accepted | rejected | approved | applied | applyFailed | impact
  deriving DecidableEq

inductive AuditDetail where
  | created (plantCode title : String)
  | comment (comment : Option String)
  | applied (applyMode : ApplyMode) (dryRun : Bool) (planned written : List WrittenItem)
      (skipped : List String) (detail : String) (baselineIntensity baselineEfficiency : Option ℚ)
  | applyFailed (error : String) (dryRun : Bool)
  | impact (baselineIntensity currentIntensity realizedSavingKwhPerH : ℚ) (windowMinutes samples : Nat)
  | estimate (realizedSavingKwhPerH : ℚ) (source : String)
  deriving DecidableEq

structure RecommendationAuditEvent where
  recommendationId : Nat
  eventType : EventType
  actor : String
  detail : AuditDetail
  deriving DecidableEq

structure RecStore where
  recommendations : Table OptimizationRecommendation
  feedback : Table RecommendationFeedback
  auditEvents : Table RecommendationAuditEvent

def RecStore.empty : RecStore := ⟨.empty, .empty, .empty⟩

/-- The exceptions of the recommendation workflow, with their texts. -/
inductive RecError where
  | keyError (message : String)
  | valueError (message : String)
  | workflow (message : String)
  | http (statusCode : Nat) (detail : String)
  | io (stage : IoStage)
  | commit
  | simulation
  deriving DecidableEq

def notFound (recommendationId : Nat) : RecError :=
  .keyError ("Recommendation " ++ toString recommendationId ++ " not found")

def appendAudit (db : RecStore) (event : RecommendationAuditEvent) : RecStore :=
  { db with auditEvents := db.auditEvents.insert event }

def getRecommendation (db : RecStore) (recommendationId : Nat) : Option OptimizationRecommendation :=
  db.recommendations.find? recommendationId

/-- `ORDER BY created_at DESC LIMIT limit`, with the optional filters. -/
def listRecommendations (db : RecStore) (plantCode status : Option String) (limit : Nat) :
    List (Nat × OptimizationRecommendation) :=
  let wanted := db.recommendations.rows.filter fun row =>
    (plantCode.getD "" = "" ∨ plantCode = some row.2.plantCode) ∧ (status.getD "" = "" ∨ status = some row.2.status.text)
  (orderBy (fun row => -row.2.createdAt) wanted).take limit

/-- The audit trail of one recommendation, in the order it was written. -/
def auditTrail (db : RecStore) (recommendationId : Nat) : List RecommendationAuditEvent :=
  db.auditEvents.values.filter (·.recommendationId = recommendationId)

/-- The `UPDATE` a session sends for a row it loaded and edited, run on the current row. -/
def flush (loaded edited current : OptimizationRecommendation) : OptimizationRecommendation where
  plantCode := column loaded.plantCode edited.plantCode current.plantCode
  priority := column loaded.priority edited.priority current.priority
  title := column loaded.title edited.title current.title
  rationale := column loaded.rationale edited.rationale current.rationale
  current := column loaded.current edited.current current.current
  proposed := column loaded.proposed edited.proposed current.proposed
  deltas := column loaded.deltas edited.deltas current.deltas
  tags := column loaded.tags edited.tags current.tags
  benchmarkPlant := column loaded.benchmarkPlant edited.benchmarkPlant current.benchmarkPlant
  estimatedSecReductionPct :=
    column loaded.estimatedSecReductionPct edited.estimatedSecReductionPct
      current.estimatedSecReductionPct
  estimatedEnergySavingKwhPerH :=
    column loaded.estimatedEnergySavingKwhPerH edited.estimatedEnergySavingKwhPerH
      current.estimatedEnergySavingKwhPerH
  estimatedEfficiencyGainPp :=
    column loaded.estimatedEfficiencyGainPp edited.estimatedEfficiencyGainPp
      current.estimatedEfficiencyGainPp
  simulatedIntensityDelta :=
    column loaded.simulatedIntensityDelta edited.simulatedIntensityDelta
      current.simulatedIntensityDelta
  simulatedEfficiencyDeltaPp :=
    column loaded.simulatedEfficiencyDeltaPp edited.simulatedEfficiencyDeltaPp
      current.simulatedEfficiencyDeltaPp
  status := column loaded.status edited.status current.status
  approvedBy := column loaded.approvedBy edited.approvedBy current.approvedBy
  approvedAt := column loaded.approvedAt edited.approvedAt current.approvedAt
  appliedBy := column loaded.appliedBy edited.appliedBy current.appliedBy
  appliedAt := column loaded.appliedAt edited.appliedAt current.appliedAt
  applyMode := column loaded.applyMode edited.applyMode current.applyMode
  baselineIntensity :=
    column loaded.baselineIntensity edited.baselineIntensity current.baselineIntensity
  baselineEfficiency :=
    column loaded.baselineEfficiency edited.baselineEfficiency current.baselineEfficiency
  realizedSavingKwhPerH :=
    column loaded.realizedSavingKwhPerH edited.realizedSavingKwhPerH current.realizedSavingKwhPerH
  createdAt := column loaded.createdAt edited.createdAt current.createdAt
  resolvedAt := column loaded.resolvedAt edited.resolvedAt current.resolvedAt

@[simp] theorem flush_current (loaded edited : OptimizationRecommendation) :
    flush loaded edited loaded = edited := by
  simp only [flush, column_current]

def save (db : RecStore) (recommendationId : Nat) (loaded edited : OptimizationRecommendation) :
    RecStore :=
  { db with recommendations := db.recommendations.update recommendationId (flush loaded edited) }

/-! ### Persisting advice -/

def newRecommendation (now : Int) (simulations : Dict String AdviceSimulation)
    (advice : SetpointAdvice) : OptimizationRecommendation :=
  let sim := simulations.get? advice.plantCode
  { plantCode := advice.plantCode
    priority := advice.priority
    title := advice.title
    rationale := advice.rationale
    current := advice.current
    proposed := advice.proposed
    deltas := advice.deltas
    tags := advice.tags
    benchmarkPlant := advice.benchmarkPlant
    estimatedSecReductionPct := some advice.estimatedSecReductionPct
    estimatedEnergySavingKwhPerH := some advice.estimatedEnergySavingKwhPerH
    estimatedEfficiencyGainPp := some advice.estimatedEfficiencyGainPp
    simulatedIntensityDelta := sim.map (·.intensityDelta)
    simulatedEfficiencyDeltaPp := sim.map (·.efficiencyDeltaPp)
    status := .pending
    createdAt := now }

def createdEvent (row : Nat × OptimizationRecommendation) : RecommendationAuditEvent where
  recommendationId := row.1
  eventType := .created
  actor := "system"
  detail := .created row.2.plantCode row.2.title

/-- All rows in one commit, then one audit event a row. -/
def persistRecommendations (now : Int) (adviceItems : List SetpointAdvice)
    (simulations : Dict String AdviceSimulation) (db : RecStore) :
    List (Nat × OptimizationRecommendation) × RecStore :=
  let (rows, recommendations) :=
    db.recommendations.insertAll (adviceItems.map (newRecommendation now simulations))
  (rows,
    { db with
      recommendations := recommendations
      auditEvents := (db.auditEvents.insertAll (rows.map createdEvent)).2 })

/-! ### Operator feedback -/

structure FeedbackRequest where
  recommendationId : Nat
  decision : String
  operator : String
  comment : Option String := none
  now : Int

def decidedStatus (decision : String) : RecStatus :=
  if decision = "rejected" then .rejected else .accepted

def decidedEvent (decision : String) : EventType :=
  if decision = "rejected" then .rejected else .accepted

def feedbackCheck (body : FeedbackRequest) (db : RecStore) :
    Except RecError OptimizationRecommendation :=
  match getRecommendation db body.recommendationId with
  | none => .error (notFound body.recommendationId)
  | some rec =>
    if body.decision ≠ "accepted" ∧ body.decision ≠ "rejected" then
      .error (.valueError "decision must be accepted or rejected")
    else if rec.status ≠ .pending ∧ rec.status ≠ .accepted then
      .error (.valueError
        ("Cannot " ++ body.decision ++ " recommendation in status=" ++ rec.status.text))
    else .ok rec

def feedbackEdit (body : FeedbackRequest) (rec : OptimizationRecommendation) :
    OptimizationRecommendation :=
  { rec with
    status := decidedStatus body.decision
    resolvedAt := if body.decision = "rejected" then some body.now else rec.resolvedAt }

def feedbackRow (body : FeedbackRequest) : RecommendationFeedback where
  recommendationId := body.recommendationId
  decision := body.decision
  operator := body.operator
  comment := body.comment

def feedbackEvent (body : FeedbackRequest) : RecommendationAuditEvent where
  recommendationId := body.recommendationId
  eventType := decidedEvent body.decision
  actor := body.operator
  detail := .comment body.comment

def feedbackCommit (body : FeedbackRequest) (rec : OptimizationRecommendation) (db : RecStore) :
    RecStore :=
  let saved := save db body.recommendationId rec (feedbackEdit body rec)
  appendAudit { saved with feedback := saved.feedback.insert (feedbackRow body) } (feedbackEvent body)

/-- The row comes back refreshed, as the committed store has it. -/
def submitFeedback (body : FeedbackRequest) (db : RecStore) :
    Except RecError (Option OptimizationRecommendation × RecommendationFeedback) × RecStore :=
  match feedbackCheck body db with
  | .error e => (.error e, db)
  | .ok rec =>
    let committed := feedbackCommit body rec db
    (.ok (getRecommendation committed body.recommendationId, feedbackRow body), committed)

/-! ### Rows and trails -/

@[simp] theorem auditTrail_save (db : RecStore) (id other : Nat)
    (loaded edited : OptimizationRecommendation) :
    auditTrail (save db id loaded edited) other = auditTrail db other := rfl

theorem auditTrail_appendAudit (db : RecStore) (event : RecommendationAuditEvent) (id : Nat) :
    auditTrail (appendAudit db event) id =
      auditTrail db id ++ if event.recommendationId = id then [event] else [] :=
  Table.filter_insert _ _ _

theorem auditTrail_appendAudit_own {db : RecStore} {event : RecommendationAuditEvent} {id : Nat}
    (own : event.recommendationId = id) :
    auditTrail (appendAudit db event) id = auditTrail db id ++ [event] := by
  rw [auditTrail_appendAudit, if_pos own]

@[simp] theorem getRecommendation_appendAudit (db : RecStore) (event : RecommendationAuditEvent)
    (id : Nat) : getRecommendation (appendAudit db event) id = getRecommendation db id := rfl

theorem getRecommendation_save (db : RecStore) (id other : Nat)
    (loaded edited : OptimizationRecommendation) :
    getRecommendation (save db id loaded edited) other =
      if other = id then (getRecommendation db other).map (flush loaded edited)
      else getRecommendation db other :=
  Table.find?_update _ _ _ _

theorem getRecommendation_persist (now : Int) (adviceItems : List SetpointAdvice)
    (simulations : Dict String AdviceSimulation) (db : RecStore) (id : Nat) :
    getRecommendation (persistRecommendations now adviceItems simulations db).2 id =
      (getRecommendation db id).or
        ((persistRecommendations now adviceItems simulations db).1.lookup id) :=
  Table.find?_insertAll _ _ _

end Iems.Optimization
