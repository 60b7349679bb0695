import Iems.Lib.Runs
import Iems.Optimization.Apply

/-! Whole requests on the recommendation store, and what one of them can do to a row and its trail. -/
namespace Iems.Optimization
open Lib

/-! ### Simulate -/

structure SimulateContext where
  loadUnitState : String → Option UnitOperatingState
  simulateWhatIfMl : WhatIfInput → Option WhatIfResult

def rowAdvice (rec : OptimizationRecommendation) : SetpointAdvice where
  plantCode := rec.plantCode
  priority := rec.priority
  title := rec.title
  rationale := rec.rationale
  current := rec.current
  proposed := rec.proposed
  deltas := rec.deltas
  estimatedSecReductionPct := rec.estimatedSecReductionPct.getD 0
  estimatedEnergySavingKwhPerH := rec.estimatedEnergySavingKwhPerH.getD 0
  estimatedEfficiencyGainPp := rec.estimatedEfficiencyGainPp.getD 0
  benchmarkPlant := rec.benchmarkPlant
  tags := rec.tags

def simulateEdit (rec : OptimizationRecommendation) (sim : AdviceSimulation) :
    OptimizationRecommendation :=
  { rec with
    simulatedIntensityDelta := some sim.intensityDelta
    simulatedEfficiencyDeltaPp := some sim.efficiencyDeltaPp }

/-- The endpoint that simulates a stored recommendation, whatever its status. -/
def simulateRecommendation (ctx : SimulateContext) (recommendationId : Nat) (model : String)
    (db : RecStore) : Except RecError AdviceSimulation × RecStore :=
  match getRecommendation db recommendationId with
  | none => (.error (.http 404 "Recommendation not found"), db)
  | some rec =>
    match (ctx.loadUnitState rec.plantCode).bind fun state =>
        simulateAdvice ctx.simulateWhatIfMl state (rowAdvice rec) model with
    | none => (.error .simulation, db)
    | some sim => (.ok sim, save db recommendationId rec (simulateEdit rec sim))

/-! ### Whole requests -/

inductive RecOp where
  | persist (now : Int) (adviceItems : List SetpointAdvice) (simulations : Dict String AdviceSimulation)
  | feedback (body : FeedbackRequest)
  | simulate (ctx : SimulateContext) (recommendationId : Nat) (model : String)
  | approve (body : ApproveRequest)
  | apply (ctx : ApplyContext) (body : ApplyRequest)
  | impact (ctx : ImpactContext) (body : ImpactRequest)

def exec (db : RecStore) : RecOp → RecStore
  | .persist now adviceItems simulations => (persistRecommendations now adviceItems simulations db).2
  | .feedback body => (submitFeedback body db).2
  | .simulate ctx recommendationId model => (simulateRecommendation ctx recommendationId model db).2
  | .approve body => (approveRecommendation body db).2
  | .apply ctx body => (applyRecommendation ctx body db).db
  | .impact ctx body => (measureImpact ctx body db).2

/-- What one request can do to the row of one recommendation, with the events it appends to its trail. -/
inductive RowStep (id : Nat) : RecOp → Option OptimizationRecommendation →
    Option OptimizationRecommendation → List RecommendationAuditEvent → Prop where
  | same (op : RecOp) (rec : Option OptimizationRecommendation) : RowStep id op rec rec []
  | created (now : Int) (adviceItems : List SetpointAdvice) (advice : SetpointAdvice)
      (simulations : Dict String AdviceSimulation) :
      RowStep id (.persist now adviceItems simulations) none
        (some (newRecommendation now simulations advice))
        [createdEvent (id, newRecommendation now simulations advice)]
  | decided (body : FeedbackRequest) (rec : OptimizationRecommendation)
      (open_ : rec.status = .pending ∨ rec.status = .accepted) :
      RowStep id (.feedback body) (some rec) (some (feedbackEdit body rec)) [feedbackEvent body]
  | simulated (ctx : SimulateContext) (model : String) (rec : OptimizationRecommendation)
      (sim : AdviceSimulation) :
      RowStep id (.simulate ctx id model) (some rec) (some (simulateEdit rec sim)) []
  | approved (body : ApproveRequest) (rec : OptimizationRecommendation)
      (accepted : rec.status = .accepted) :
      RowStep id (.approve body) (some rec) (some (approveEdit body rec)) [approveEvent body]
  | applied (ctx : ApplyContext) (body : ApplyRequest) (rec : OptimizationRecommendation)
      (result : Ingestion.WriteResult) (approved : rec.status = .approved)
      (simulated : ctx.cfg.optRequireSimBeforeApply = true → rec.simulatedIntensityDelta ≠ none) :
      RowStep id (.apply ctx body) (some rec) (some (appliedEdit ctx body rec result))
        [appliedEvent ctx body rec result]
  | failed (ctx : ApplyContext) (body : ApplyRequest) (rec : OptimizationRecommendation)
      (message : String) (approved : rec.status = .approved) :
      RowStep id (.apply ctx body) (some rec) (some (failedEdit rec)) [failedEvent ctx body message]
  | measured (ctx : ImpactContext) (body : ImpactRequest) (rec : OptimizationRecommendation)
      (realized : ℚ) (detail : AuditDetail)
      (tracked : rec.status = .applied ∨ rec.status = .approved ∨ rec.status = .accepted) :
      RowStep id (.impact ctx body) (some rec) (some (impactEdit rec realized)) [impactEvent body detail]

/-- The move a request makes on one recommendation, between two states of the store. -/
def Moves (id : Nat) (op : RecOp) (db next : RecStore) : Prop :=
  ∃ events, auditTrail next id = auditTrail db id ++ events ∧
    RowStep id op (getRecommendation db id) (getRecommendation next id) events

theorem moves_refl (id : Nat) (op : RecOp) (db : RecStore) : Moves id op db db :=
  ⟨[], (List.append_nil _).symm, .same op _⟩

/-- A request that saves one row and records one event moves that row and no other. -/
theorem moves_saved {id target : Nat} {op : RecOp} {db next : RecStore}
    {loaded edited : OptimizationRecommendation} {event : RecommendationAuditEvent}
    (found : getRecommendation db target = some loaded)
    (rows : next.recommendations = (save db target loaded edited).recommendations)
    (events : next.auditEvents = db.auditEvents.insert event)
    (own : event.recommendationId = target)
    (change : RowStep target op (some loaded) (some edited) [event]) : Moves id op db next := by
  have row : getRecommendation next id = getRecommendation (save db target loaded edited) id := by
    unfold getRecommendation
    rw [rows]
  have trail : auditTrail next id = auditTrail (appendAudit db event) id := by
    unfold auditTrail appendAudit
    rw [events]
  rw [auditTrail_appendAudit, own] at trail
  rw [getRecommendation_save] at row
  by_cases here : id = target
  · subst here
    rw [if_pos rfl] at trail
    rw [if_pos rfl, found, Option.map_some, flush_current] at row
    refine ⟨[event], trail, ?_⟩
    rw [row, found]
    exact change
  · rw [if_neg (Ne.symm here)] at trail
    rw [if_neg here] at row
    refine ⟨[], trail, ?_⟩
    rw [row]
    exact .same op _

theorem feedbackCheck_ok {body : FeedbackRequest} {db : RecStore} {rec : OptimizationRecommendation}
    (passed : feedbackCheck body db = .ok rec) :
    getRecommendation db body.recommendationId = some rec ∧
      (body.decision = "accepted" ∨ body.decision = "rejected") ∧
      (rec.status = .pending ∨ rec.status = .accepted) := by
  unfold feedbackCheck at passed
  split at passed
  · cases passed
  · rename_i row found
    split at passed
    · cases passed
    · rename_i known
      split at passed
      · cases passed
      · rename_i open_
        cases passed
        refine ⟨found, ?_, ?_⟩
        · simpa [or_iff_not_imp_left] using known
        · simpa [or_iff_not_imp_left] using open_

theorem approveCheck_ok {body : ApproveRequest} {db : RecStore} {rec : OptimizationRecommendation}
    (passed : approveCheck body db = .ok rec) :
    getRecommendation db body.recommendationId = some rec ∧ rec.status = .accepted := by
  unfold approveCheck at passed
  split at passed
  · cases passed
  · rename_i row found
    split at passed
    · cases passed
    · rename_i accepted
      cases passed
      exact ⟨found, not_not.mp accepted⟩

theorem applyCheck_ok {cfg : Core.Settings} {body : ApplyRequest} {db : RecStore}
    {rec : OptimizationRecommendation} (passed : applyCheck cfg body db = .ok rec) :
    getRecommendation db body.recommendationId = some rec ∧ rec.status = .approved ∧
      (cfg.optRequireSimBeforeApply = true → rec.simulatedIntensityDelta ≠ none) := by
  unfold applyCheck at passed
  split at passed
  · cases passed
  · rename_i row found
    split at passed
    · cases passed
    · rename_i approved
      split at passed
      · cases passed
      · rename_i gate
        cases passed
        exact ⟨found, not_not.mp approved, fun required missing => gate ⟨required, missing⟩⟩

theorem impactCheck_ok {body : ImpactRequest} {db : RecStore} {rec : OptimizationRecommendation}
    (passed : impactCheck body db = .ok rec) :
    getRecommendation db body.recommendationId = some rec ∧
      (rec.status = .applied ∨ rec.status = .approved ∨ rec.status = .accepted) := by
  unfold impactCheck at passed
  split at passed
  · cases passed
  · rename_i row found
    split at passed
    · cases passed
    · rename_i tracked
      cases passed
      refine ⟨found, ?_⟩
      simpa [or_iff_not_imp_left] using tracked

theorem submitFeedback_moves (body : FeedbackRequest) (db : RecStore) (id : Nat) :
    Moves id (.feedback body) db (submitFeedback body db).2 := by
  unfold submitFeedback
  split
  · exact moves_refl id _ db
  · rename_i rec passed
    obtain ⟨found, _, open_⟩ := feedbackCheck_ok passed
    exact moves_saved found rfl rfl rfl (.decided body rec open_)

theorem approveRecommendation_moves (body : ApproveRequest) (db : RecStore) (id : Nat) :
    Moves id (.approve body) db (approveRecommendation body db).2 := by
  unfold approveRecommendation
  split
  · exact moves_refl id _ db
  · rename_i rec passed
    obtain ⟨found, accepted⟩ := approveCheck_ok passed
    exact moves_saved found rfl rfl rfl (.approved body rec accepted)

theorem applyRecommendation_moves (ctx : ApplyContext) (body : ApplyRequest) (db : RecStore) (id : Nat) :
    Moves id (.apply ctx body) db (applyRecommendation ctx body db).db := by
  unfold applyRecommendation
  split
  · exact moves_refl id _ db
  · rename_i rec passed
    obtain ⟨found, approved, simulated⟩ := applyCheck_ok passed
    simp only [applyCommit]
    split
    · rename_i message refused
      split
      · exact moves_refl id _ db
      · exact moves_saved found rfl rfl rfl (.failed ctx body rec message approved)
    · exact moves_refl id _ db
    · rename_i result written
      split
      · exact moves_refl id _ db
      · exact moves_saved found rfl rfl rfl (.applied ctx body rec result approved simulated)

theorem measureImpact_moves (ctx : ImpactContext) (body : ImpactRequest) (db : RecStore) (id : Nat) :
    Moves id (.impact ctx body) db (measureImpact ctx body db).2 := by
  unfold measureImpact
  split
  · exact moves_refl id _ db
  · rename_i rec passed
    obtain ⟨found, tracked⟩ := impactCheck_ok passed
    dsimp only
    split
    · exact moves_refl id _ db
    · rename_i realized detail recorded
      exact moves_saved found rfl rfl rfl (.measured ctx body rec realized detail tracked)

theorem simulateRecommendation_moves (ctx : SimulateContext) (recommendationId : Nat) (model : String)
    (db : RecStore) (id : Nat) : Moves id (.simulate ctx recommendationId model) db
      (simulateRecommendation ctx recommendationId model db).2 := by
  unfold simulateRecommendation
  split
  · exact moves_refl id _ db
  · rename_i rec found
    split
    · exact moves_refl id _ db
    · rename_i sim simulated
      refine ⟨[], (List.append_nil _).symm, ?_⟩
      rw [getRecommendation_save]
      split
      · rename_i here
        subst here
        rw [found, Option.map_some, flush_current]
        exact .simulated ctx model rec sim
      · exact .same _ _

theorem auditTrail_persist (now : Int) (adviceItems : List SetpointAdvice)
    (simulations : Dict String AdviceSimulation) (db : RecStore) (id : Nat) :
    auditTrail (persistRecommendations now adviceItems simulations db).2 id =
      auditTrail db id ++
        ((persistRecommendations now adviceItems simulations db).1.lookup id).toList.map
          fun row => createdEvent (id, row) := by
  have distinct := Table.distinct_insertAll db.recommendations
    (adviceItems.map (newRecommendation now simulations))
  unfold auditTrail persistRecommendations
  rw [Table.values_insertAll, List.filter_append, List.filter_map]
  congr 1
  show List.map createdEvent (List.filter (fun row => row.1 = id) _) = _
  rw [filter_key distinct, List.map_map]
  rfl

theorem persistRecommendations_moves (now : Int) (adviceItems : List SetpointAdvice)
    (simulations : Dict String AdviceSimulation) (db : RecStore) (id : Nat) :
    Moves id (.persist now adviceItems simulations) db
      (persistRecommendations now adviceItems simulations db).2 := by
  refine ⟨_, auditTrail_persist now adviceItems simulations db id, ?_⟩
  rw [getRecommendation_persist]
  cases old : getRecommendation db id with
  | some rec =>
    have absent : (persistRecommendations now adviceItems simulations db).1.lookup id = none :=
      Table.lookup_insertAll_old old
    rw [absent]
    exact .same _ _
  | none =>
    cases fresh : (persistRecommendations now adviceItems simulations db).1.lookup id with
    | none => exact .same _ _
    | some row =>
      have member := (lookup_iff_mem (Table.distinct_insertAll _ _)).mp fresh
      have inserted : row ∈ adviceItems.map (newRecommendation now simulations) := by
        rw [← Table.new_insertAll db.recommendations (adviceItems.map (newRecommendation now simulations))]
        exact List.mem_map.mpr ⟨(id, row), member, rfl⟩
      obtain ⟨advice, _, rfl⟩ := List.mem_map.mp inserted
      exact .created now adviceItems advice simulations

theorem exec_moves (db : RecStore) (op : RecOp) (id : Nat) : Moves id op db (exec db op) := by
  cases op with
  | persist now adviceItems simulations => exact persistRecommendations_moves now adviceItems simulations db id
  | feedback body => exact submitFeedback_moves body db id
  | simulate ctx recommendationId model => exact simulateRecommendation_moves ctx recommendationId model db id
  | approve body => exact approveRecommendation_moves body db id
  | apply ctx body => exact applyRecommendation_moves ctx body db id
  | impact ctx body => exact measureImpact_moves ctx body db id

end Iems.Optimization
