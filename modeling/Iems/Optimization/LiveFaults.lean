import Iems.Optimization.Lifecycle
import Iems.Optimization.WriteGate

/-! Faults in the middle of a live apply: when the trail keeps account of what reached the plant. -/
namespace Iems.Optimization
open Lib Iems.Core Ingestion

def recordedWrites : AuditDetail → List NodeWrite
  | .applied _ _ _ written _ _ _ _ => written.map fun item => ⟨item.nodeId, item.raw⟩
  | _ => []

/-- If anything was written to the plant, the persisted trail records it and a retry is refused. -/
def WritesRecorded (ctx : ApplyContext) (body : ApplyRequest) (db : RecStore) : Prop :=
  let attempt := applyRecommendation ctx body db
  nodeWrites attempt.events ≠ [] →
    (∃ event ∈ auditTrail attempt.db body.recommendationId,
      recordedWrites event.detail = nodeWrites attempt.events) ∧
    ∃ rec, getRecommendation attempt.db body.recommendationId = some rec ∧ rec.status ≠ .approved

/-- The gates are open, the connection comes up and the first node write gets through. -/
structure FirstWriteLands (ctx : ApplyContext) (rec : OptimizationRecommendation) : Prop where
  simulated : ctx.cfg.optRequireSimBeforeApply = true → rec.simulatedIntensityDelta ≠ none
  gates : LiveGates ctx.cfg ctx.tagMap ctx.faults rec.plantCode rec.proposed
  connects : ctx.faults.connect = false
  writes : ctx.faults.write 0 = false

/-- No node write of the plan, nor the disconnect, nor the final commit raises. -/
structure NothingRaises (ctx : ApplyContext) (rec : OptimizationRecommendation) : Prop where
  writes : ∀ plant, ctx.tagMap.get? rec.plantCode = some plant →
    ∀ k < (owedWrites ctx.cfg plant rec.proposed).length, ctx.faults.write k = false
  disconnects : ctx.faults.disconnect = false
  commits : ctx.commitFails = false

section
variable {ctx : ApplyContext} {body : ApplyRequest} {db : RecStore} {rec : OptimizationRecommendation}

theorem applyCheck_passes (found : getRecommendation db body.recommendationId = some rec)
    (approved : rec.status = .approved)
    (simulated : ctx.cfg.optRequireSimBeforeApply = true → rec.simulatedIntensityDelta ≠ none) :
    applyCheck ctx.cfg body db = .ok rec := by
  unfold applyCheck
  rw [found]
  dsimp only
  rw [if_neg (not_not_intro approved), if_neg]
  rintro ⟨required, missing⟩
  exact simulated required missing

theorem applyRecommendation_passed (passed : applyCheck ctx.cfg body db = .ok rec) :
    applyRecommendation ctx body db = ⟨(applyWrites ctx body rec).events,
      (applyCommit ctx body rec db).1, (applyCommit ctx body rec db).2⟩ := by
  unfold applyRecommendation
  rw [passed]

theorem applyWrites_live (live : effectiveDryRun ctx.cfg body.dryRun = false)
    (gates : LiveGates ctx.cfg ctx.tagMap ctx.faults rec.plantCode rec.proposed) :
    ∃ plan plant, ctx.tagMap.get? rec.plantCode = some plant ∧
      plan.planned.map (·.nodeWrite) = owedWrites ctx.cfg plant rec.proposed ∧
      plan.planned ≠ [] ∧ applyWrites ctx body rec = liveWrite ctx.cfg ctx.faults plan := by
  obtain ⟨plant, known, _⟩ := gates.writable
  unfold applyWrites
  rcases @writeSetpoints_cases ctx.cfg ctx.tagMap ctx.faults rec.plantCode rec.proposed
    (some (effectiveDryRun ctx.cfg body.dryRun)) with
    ⟨plan, _, dry, _⟩ | ⟨message, _, unknown | ⟨_, closed⟩⟩ | ⟨plan, planned, _, _, attempt⟩
  · rw [live] at dry
    cases dry
  · rw [known] at unknown
    cases unknown
  · exact absurd gates closed
  · exact ⟨plan, plant, known, plan_owes planned known,
      (planned_ne_nil_iff planned).mpr gates.writable, attempt⟩

/-- Whatever was written, an attempt that raises leaves the store as it was. -/
theorem applyCommit_rolls_back
    (raises : ctx.commitFails = true ∨ ∃ stage, (applyWrites ctx body rec).outcome = .error (.io stage)) :
    (applyCommit ctx body rec db).2 = db := by
  unfold applyCommit
  split
  · rename_i message refused
    rcases raises with commit | ⟨stage, io⟩
    · rw [if_pos commit]
    · rw [refused] at io
      cases io
  · rfl
  · rename_i result completed
    rcases raises with commit | ⟨stage, io⟩
    · rw [if_pos commit]
    · rw [completed] at io
      cases io

/-- Something is written to the plant exactly when the gates are open and the first write gets through. -/
theorem applyWrites_sent_iff : nodeWrites (applyWrites ctx body rec).events ≠ [] ↔
    effectiveDryRun ctx.cfg body.dryRun = false ∧
      LiveGates ctx.cfg ctx.tagMap ctx.faults rec.plantCode rec.proposed ∧
      ctx.faults.connect = false ∧ ctx.faults.write 0 = false := by
  constructor
  · intro written
    unfold applyWrites at written
    rcases @writeSetpoints_cases ctx.cfg ctx.tagMap ctx.faults rec.plantCode rec.proposed
      (some (effectiveDryRun ctx.cfg body.dryRun)) with
      ⟨plan, _, _, dry⟩ | ⟨message, refused, _⟩ | ⟨plan, planned, live, gates, attempt⟩
    · simp [dry, nodeWrites] at written
    · simp [refused, nodeWrites] at written
    · rw [attempt, nodeWrites_liveWrite] at written
      cases connect : ctx.faults.connect with
      | true => simp [connect] at written
      | false =>
        rw [connect, if_neg (by simp)] at written
        exact ⟨live, gates, rfl, (writeItems_sent_iff.mp written).2⟩
  · rintro ⟨live, gates, connects, first⟩
    obtain ⟨plan, plant, known, _, some_, attempt⟩ := applyWrites_live live gates
    rw [attempt, nodeWrites_liveWrite, connects]
    exact writeItems_sent_iff.mpr ⟨some_, first⟩

theorem nodeWrites_apply_iff (found : getRecommendation db body.recommendationId = some rec)
    (approved : rec.status = .approved) (live : effectiveDryRun ctx.cfg body.dryRun = false) :
    nodeWrites (applyRecommendation ctx body db).events ≠ [] ↔ FirstWriteLands ctx rec := by
  constructor
  · intro written
    unfold applyRecommendation at written
    split at written
    · exact absurd rfl written
    · rename_i row passed
      obtain ⟨present, _, simulated⟩ := applyCheck_ok passed
      cases found.symm.trans present
      obtain ⟨_, gates, connects, first⟩ := applyWrites_sent_iff.mp written
      exact ⟨simulated, gates, connects, first⟩
  · intro lands
    have passed := applyCheck_passes found approved lands.simulated
    rw [applyRecommendation_passed passed]
    exact applyWrites_sent_iff.mpr ⟨live, lands.gates, lands.connects, lands.writes⟩

theorem applyCommit_applied {result : WriteResult} (completed : (applyWrites ctx body rec).outcome = .ok result)
    (commits : ctx.commitFails = false) : (applyCommit ctx body rec db).2 =
      appendAudit (save db body.recommendationId rec (appliedEdit ctx body rec result))
        (appliedEvent ctx body rec result) := by
  unfold applyCommit
  rw [completed]
  dsimp only
  rw [commits, if_neg (by simp)]

theorem applyWrites_completes (live : effectiveDryRun ctx.cfg body.dryRun = false)
    (lands : FirstWriteLands ctx rec) (quiet : NothingRaises ctx rec) :
    ∃ plan, (applyWrites ctx body rec).outcome =
        .ok (liveResult plan (plan.planned.map (·.writtenItem))) ∧
      nodeWrites (applyWrites ctx body rec).events = plan.planned.map (·.nodeWrite) := by
  obtain ⟨plan, plant, known, owed, _, performed⟩ := applyWrites_live live lands.gates
  have clear : ∀ k < plan.planned.length, ctx.faults.write k = false := by
    intro k within
    apply quiet.writes plant known k
    rw [← owed, List.length_map]
    exact within
  have sent := @writeItems_ok ctx.faults 0 plan.planned [] (fun k within => by
    rw [Nat.zero_add]
    exact clear k within)
  refine ⟨plan, ?_, ?_⟩
  · rw [performed]
    exact liveWrite_complete lands.connects quiet.disconnects clear
  · rw [performed, nodeWrites_liveWrite, lands.connects, sent]
    rfl

/-- When nothing raises, the committed trail has every write and the recommendation is applied. -/
theorem writesRecorded_complete (found : getRecommendation db body.recommendationId = some rec)
    (approved : rec.status = .approved) (live : effectiveDryRun ctx.cfg body.dryRun = false)
    (lands : FirstWriteLands ctx rec) (quiet : NothingRaises ctx rec) : WritesRecorded ctx body db := by
  have passed := applyCheck_passes found approved lands.simulated
  obtain ⟨plan, completed, sent⟩ := @applyWrites_completes ctx body rec live lands quiet
  obtain ⟨result, full⟩ : ∃ result, result = liveResult plan (plan.planned.map (·.writtenItem)) :=
    ⟨_, rfl⟩
  rw [← full] at completed
  unfold WritesRecorded
  rw [applyRecommendation_passed passed, applyCommit_applied completed quiet.commits]
  dsimp only
  rw [sent]
  intro _
  refine ⟨⟨appliedEvent ctx body rec result, ?_, ?_⟩, appliedEdit ctx body rec result, ?_, ?_⟩
  · have own : (appliedEvent ctx body rec result).recommendationId = body.recommendationId := rfl
    rw [auditTrail_appendAudit_own own]
    exact List.mem_append_right _ (List.mem_singleton_self _)
  · simp [appliedEvent, recordedWrites, full, liveResult, WritePlanItem.writtenItem, WritePlanItem.nodeWrite,
      Function.comp_def]
  · rw [getRecommendation_appendAudit, getRecommendation_save, if_pos rfl, found, Option.map_some,
      flush_current]
  · simp [appliedEdit]

/-- When something raises after the first write, the rollback leaves the recommendation approved. -/
theorem nothingRaises_of_recorded (found : getRecommendation db body.recommendationId = some rec)
    (approved : rec.status = .approved) (live : effectiveDryRun ctx.cfg body.dryRun = false)
    (lands : FirstWriteLands ctx rec) (recorded : WritesRecorded ctx body db) : NothingRaises ctx rec := by
  have passed := applyCheck_passes found approved lands.simulated
  obtain ⟨_, row, present, moved⟩ := recorded ((nodeWrites_apply_iff found approved live).mpr lands)
  rw [applyRecommendation_passed passed] at present
  have kept : ¬ (ctx.commitFails = true ∨
      ∃ stage, (applyWrites ctx body rec).outcome = .error (.io stage)) := by
    intro raises
    rw [applyCommit_rolls_back raises, found] at present
    cases present
    exact moved approved
  obtain ⟨plan, plant, known, owed, _, performed⟩ := applyWrites_live live lands.gates
  rw [performed] at kept
  cases outcome : (liveWrite ctx.cfg ctx.faults plan).outcome with
  | error e =>
    obtain ⟨stage, rfl⟩ := liveWrite_error outcome
    exact absurd (Or.inr ⟨stage, outcome⟩) kept
  | ok result =>
    obtain ⟨_, disconnects, clear, _⟩ := liveWrite_ok outcome
    refine ⟨fun other same k within => ?_, disconnects, ?_⟩
    · cases known.symm.trans same
      rw [← owed, List.length_map] at within
      exact clear k within
    · by_contra fails
      exact kept (Or.inl (by simpa using fails))

/-- A live apply keeps account of its writes exactly when its first write does not get through or
nothing raises after it. -/
theorem writesRecorded_iff (found : getRecommendation db body.recommendationId = some rec)
    (approved : rec.status = .approved) (live : effectiveDryRun ctx.cfg body.dryRun = false) :
    WritesRecorded ctx body db ↔ ¬ FirstWriteLands ctx rec ∨ NothingRaises ctx rec := by
  constructor
  · intro recorded
    by_cases lands : FirstWriteLands ctx rec
    · exact Or.inr (nothingRaises_of_recorded found approved live lands recorded)
    · exact Or.inl lands
  · rintro (blocked | quiet)
    · intro written
      exact absurd ((nodeWrites_apply_iff found approved live).mp written) blocked
    · by_cases lands : FirstWriteLands ctx rec
      · exact writesRecorded_complete found approved live lands quiet
      · intro written
        exact absurd ((nodeWrites_apply_iff found approved live).mp written) lands

end

/-- The approved sample recommendation, applied live while the second node write raises. -/
def secondWriteRaises : ApplyContext :=
  { sampleContext with faults := { write := fun k => k == 1 } }

theorem sample_approved :
    ∃ rec, getRecommendation (run exec .empty sampleApproval) 1 = some rec ∧ rec.status = .approved := by
  have some_ : (getRecommendation (run exec .empty sampleApproval) 1).isSome := by decide +kernel
  obtain ⟨rec, found⟩ := Option.isSome_iff_exists.mp some_
  have status : (getRecommendation (run exec .empty sampleApproval) 1).map (·.status) =
      some .approved := by
    decide +kernel
  rw [found] at status
  exact ⟨rec, found, Option.some.inj status⟩

theorem writesRecorded_iff_sample :
    ∃ rec, getRecommendation (run exec .empty sampleApproval) 1 = some rec ∧
      (WritesRecorded secondWriteRaises sampleBody (run exec .empty sampleApproval) ↔
        ¬ FirstWriteLands secondWriteRaises rec ∨ NothingRaises secondWriteRaises rec) := by
  obtain ⟨rec, found, approved⟩ := sample_approved
  exact ⟨rec, found, writesRecorded_iff found approved rfl⟩

/-- The first setpoint is written, the second raises: nothing is recorded and the row stays approved. -/
theorem second_write_unrecorded :
    (∃ rec, getRecommendation (run exec .empty sampleApproval) 1 = some rec ∧ rec.status = .approved) ∧
      effectiveDryRun secondWriteRaises.cfg sampleBody.dryRun = false ∧
      nodeWrites (applyRecommendation secondWriteRaises sampleBody (run exec .empty sampleApproval)).events =
        [⟨"ns=2;s=TIC.SP", 403⟩] ∧
      ¬ WritesRecorded secondWriteRaises sampleBody (run exec .empty sampleApproval) := by
  have written : nodeWrites
      (applyRecommendation secondWriteRaises sampleBody (run exec .empty sampleApproval)).events =
        [⟨"ns=2;s=TIC.SP", 403⟩] := by
    decide +kernel
  refine ⟨sample_approved, rfl, written, ?_⟩
  intro recorded
  obtain ⟨_, rec, found, moved⟩ := recorded (by rw [written]; simp)
  have status : (getRecommendation (applyRecommendation secondWriteRaises sampleBody
      (run exec .empty sampleApproval)).db 1).map (·.status) = some .approved := by
    decide +kernel
  change getRecommendation _ 1 = some rec at found
  rw [found] at status
  exact moved (Option.some.inj status)

end Iems.Optimization
