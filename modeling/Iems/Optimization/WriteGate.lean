import Iems.Optimization.Lifecycle

/-! What reaches the plant: the gates of a write and the writes of a completed live attempt. -/
namespace Iems.Optimization
open Lib Iems.Core Ingestion

/-- Every proposed field is planned or skipped with its reason, and none is both. -/
def PartitionsProposal (cfg : Settings) (plant : PlantTagMap) (proposed : Dict String ℚ)
    (result : WriteResult) : Prop :=
  ∃ skipped, result.skipped = skipped.map (fun field => field ++ skipReason cfg plant field) ∧
    (result.planned.map (·.field) ++ skipped).Perm proposed.keys ∧
    (result.planned.map (·.field)).Disjoint skipped

/-- The write for a value of a tag: to its write node, to its node where it has none, in the tag's raw unit. -/
def owedWrite (tag : TagDef) (eng : ℚ) : NodeWrite where
  nodeId := (tag.writeNodeId.filter (· ≠ "")).getD tag.nodeId
  value := (eng - tag.offset) / if tag.scale = 0 then 1 else tag.scale

/-- One write for each writable field that is proposed. -/
def owedWrites (cfg : Settings) (plant : PlantTagMap) (proposed : Dict String ℚ) : List NodeWrite :=
  proposed.items.filterMap fun item => (writableTag cfg plant item.1).map fun tag => owedWrite tag item.2

section
variable {cfg : Settings} {tagMap : TagMap} {plantCode : String} {proposed : Dict String ℚ}

theorem writeNode_eq (tag : TagDef) : writeNode tag = (tag.writeNodeId.filter (· ≠ "")).getD tag.nodeId := by
  unfold writeNode
  cases tag.writeNodeId with
  | none => rfl
  | some node => by_cases blank : node = "" <;> simp [Option.filter, blank]

theorem planItem_nodeWrite (field : String) (tag : TagDef) (eng : ℚ) :
    (planItem field tag eng).nodeWrite = owedWrite tag eng := by
  unfold owedWrite
  rw [← writeNode_eq]
  rfl

theorem planned_fields (plant : PlantTagMap) (items : List (String × ℚ)) :
    (items.filterMap fun item => (writableTag cfg plant item.1).map fun tag =>
        planItem item.1 tag item.2).map (·.field) =
      (items.filter fun item => (writableTag cfg plant item.1).isSome).map Prod.fst := by
  induction items with
  | nil => rfl
  | cons item rest ih =>
    cases tag : writableTag cfg plant item.1 with
    | none => simpa [tag] using ih
    | some tag' => simpa [tag, planItem] using ih

theorem plan_partitions {plan : WriteResult}
    (planned : planSetpointWrites cfg tagMap plantCode proposed = .ok plan) :
    ∃ plant, tagMap.get? plantCode = some plant ∧ PartitionsProposal cfg plant proposed plan := by
  obtain ⟨plant, known, items, skips⟩ := planSetpointWrites_ok planned
  refine ⟨plant, known,
    (proposed.items.filter fun item => (writableTag cfg plant item.1).isNone).map Prod.fst, ?_, ?_⟩
  · rw [skips, List.map_map]
    rfl
  · rw [items, planned_fields]
    have all : ((proposed.items.filter fun item => (writableTag cfg plant item.1).isSome).map Prod.fst ++
        (proposed.items.filter fun item => (writableTag cfg plant item.1).isNone).map Prod.fst).Perm
          proposed.keys := by
      unfold Dict.keys
      rw [← List.map_append]
      simpa using (List.filter_append_perm (fun item => (writableTag cfg plant item.1).isSome)
        proposed.items).map Prod.fst
    refine ⟨all, ?_⟩
    have distinct := all.nodup_iff.mpr proposed.distinct
    exact List.disjoint_of_nodup_append distinct

theorem plan_owes {plan : WriteResult} {plant : PlantTagMap}
    (planned : planSetpointWrites cfg tagMap plantCode proposed = .ok plan)
    (known : tagMap.get? plantCode = some plant) :
    plan.planned.map (·.nodeWrite) = owedWrites cfg plant proposed := by
  obtain ⟨other, same, items, _⟩ := planSetpointWrites_ok planned
  cases known.symm.trans same
  rw [items, List.map_filterMap]
  unfold owedWrites
  congr 1
  funext item
  rw [Option.map_map]
  congr 1
  funext tag
  exact planItem_nodeWrite item.1 tag item.2

theorem writeSetpoints_gated {faults : OpcFaults} {dryRun : Option Bool}
    (sent : (writeSetpoints cfg tagMap faults plantCode proposed dryRun).events ≠ []) :
    effectiveDryRun cfg dryRun = false ∧ cfg.opcWriteEnabled = true ∧ cfg.opcUaEndpoint ≠ "" := by
  rcases @writeSetpoints_cases cfg tagMap faults plantCode proposed dryRun with
    ⟨plan, _, _, dry⟩ | ⟨message, refused, _⟩ | ⟨plan, _, live, gates, _⟩
  · exact absurd (congrArg WriteRun.events dry) sent
  · exact absurd (congrArg WriteRun.events refused) sent
  · exact ⟨live, gates.enabled, gates.endpoint⟩

theorem writeSetpoints_live_ok {faults : OpcFaults} {dryRun : Option Bool} {result : WriteResult}
    (completed : (writeSetpoints cfg tagMap faults plantCode proposed dryRun).outcome = .ok result)
    (live : result.dryRun = false) :
    ∃ plant, tagMap.get? plantCode = some plant ∧
      nodeWrites (writeSetpoints cfg tagMap faults plantCode proposed dryRun).events =
        owedWrites cfg plant proposed := by
  rcases @writeSetpoints_cases cfg tagMap faults plantCode proposed dryRun with
    ⟨plan, _, _, dry⟩ | ⟨message, refused, _⟩ | ⟨plan, planned, _, gates, attempt⟩
  · rw [dry] at completed
    cases completed
    cases live
  · rw [refused] at completed
    cases completed
  · rw [attempt] at completed ⊢
    obtain ⟨connected, _, clear, _⟩ := liveWrite_ok completed
    obtain ⟨plant, known, _⟩ := gates.writable
    have sent := @writeItems_ok faults 0 plan.planned [] (fun j within => by
      rw [Nat.zero_add]
      exact clear j within)
    refine ⟨plant, known, ?_⟩
    rw [nodeWrites_liveWrite, connected, sent]
    exact plan_owes planned known

/-- Open gates and a plant that answers: the attempt completes, and reports what it wrote. -/
theorem writeSetpoints_completes {faults : OpcFaults} {dryRun : Option Bool}
    (live : effectiveDryRun cfg dryRun = false) (gates : LiveGates cfg tagMap faults plantCode proposed)
    (connected : faults.connect = false) (closed : faults.disconnect = false) (clear : ∀ k, faults.write k = false) :
    ∃ result, (writeSetpoints cfg tagMap faults plantCode proposed dryRun).outcome = .ok result ∧
      result.dryRun = false ∧ result.written.map (fun item => (⟨item.nodeId, item.raw⟩ : NodeWrite)) =
        nodeWrites (writeSetpoints cfg tagMap faults plantCode proposed dryRun).events := by
  rcases @writeSetpoints_cases cfg tagMap faults plantCode proposed dryRun with
    ⟨plan, _, dry, _⟩ | ⟨message, _, unknown | ⟨_, shut⟩⟩ | ⟨plan, _, _, _, attempt⟩
  · simp [live] at dry
  · obtain ⟨plant, known, _⟩ := gates.writable
    simp [unknown] at known
  · exact absurd gates shut
  · have completed := @liveWrite_complete cfg faults plan connected closed fun j _ => clear j
    have sent := @writeItems_ok faults 0 plan.planned [] fun j _ => clear (0 + j)
    refine ⟨_, by rw [attempt]; exact completed, rfl, ?_⟩
    rw [attempt, nodeWrites_liveWrite, connected, sent]
    simp [liveResult, WritePlanItem.writtenItem, WritePlanItem.nodeWrite]

theorem writeSetpoints_partitions {faults : OpcFaults} {dryRun : Option Bool} {result : WriteResult}
    (completed : (writeSetpoints cfg tagMap faults plantCode proposed dryRun).outcome = .ok result) :
    ∃ plant, tagMap.get? plantCode = some plant ∧ PartitionsProposal cfg plant proposed result := by
  rcases @writeSetpoints_cases cfg tagMap faults plantCode proposed dryRun with
    ⟨plan, planned, _, dry⟩ | ⟨message, refused, _⟩ | ⟨plan, planned, _, _, attempt⟩
  · rw [dry] at completed
    cases completed
    obtain ⟨plant, known, parts⟩ := plan_partitions planned
    exact ⟨plant, known, parts⟩
  · rw [refused] at completed
    cases completed
  · rw [attempt] at completed
    obtain ⟨_, _, _, same⟩ := liveWrite_ok completed
    subst same
    obtain ⟨plant, known, parts⟩ := plan_partitions planned
    exact ⟨plant, known, parts⟩

end

theorem applyRecommendation_gated {ctx : ApplyContext} {body : ApplyRequest} {db : RecStore}
    (sent : (applyRecommendation ctx body db).events ≠ []) :
    (∃ rec, getRecommendation db body.recommendationId = some rec ∧ rec.status = .approved) ∧
      effectiveDryRun ctx.cfg body.dryRun = false ∧ ctx.cfg.opcWriteEnabled = true ∧
      ctx.cfg.opcUaEndpoint ≠ "" := by
  unfold applyRecommendation at sent
  split at sent
  · exact absurd rfl sent
  · rename_i rec passed
    obtain ⟨found, approved, _⟩ := applyCheck_ok passed
    have gated := writeSetpoints_gated sent
    exact ⟨⟨rec, found, approved⟩, gated⟩

/-- The write gate, from the endpoint down to the plant: no write without the gates, through them the owed ones. -/
theorem setpoint_writes_gated :
    (∀ cfg tagMap faults plantCode (proposed : Dict String ℚ) dryRun,
      let attempt := writeSetpoints cfg tagMap faults plantCode proposed dryRun
      (nodeWrites attempt.events ≠ [] → dryRun.getD cfg.opcWriteDryRunDefault = false ∧
        cfg.opcWriteEnabled = true ∧ cfg.opcUaEndpoint ≠ "") ∧
      (∀ result, attempt.outcome = .ok result → result.dryRun = false →
        ∃ plant, tagMap.get? plantCode = some plant ∧
          nodeWrites attempt.events = owedWrites cfg plant proposed) ∧
      (∀ result, attempt.outcome = .ok result →
        ∃ plant, tagMap.get? plantCode = some plant ∧ PartitionsProposal cfg plant proposed result) ∧
      (dryRun.getD cfg.opcWriteDryRunDefault = false → LiveGates cfg tagMap faults plantCode proposed →
        faults.connect = false → faults.disconnect = false → (∀ k, faults.write k = false) →
        ∃ result, attempt.outcome = .ok result ∧ result.dryRun = false ∧
          result.written.map (fun item => (⟨item.nodeId, item.raw⟩ : NodeWrite)) = nodeWrites attempt.events)) ∧
    (∀ cfg tagMap plantCode (proposed : Dict String ℚ) plan,
      planSetpointWrites cfg tagMap plantCode proposed = .ok plan →
        ∃ plant, tagMap.get? plantCode = some plant ∧ PartitionsProposal cfg plant proposed plan) ∧
    ∀ ctx body db, (applyRecommendation ctx body db).events ≠ [] →
      ∃ rec, getRecommendation db body.recommendationId = some rec ∧ rec.status = .approved := by
  refine ⟨?_, ?_, ?_⟩
  · intro cfg tagMap faults plantCode proposed dryRun
    refine ⟨fun sent => ?_, fun result completed live => ?_, fun result completed => ?_,
      fun live gates connected closed clear => ?_⟩
    · apply writeSetpoints_gated
      intro silent
      exact sent (by rw [silent]; rfl)
    · exact writeSetpoints_live_ok completed live
    · exact writeSetpoints_partitions completed
    · exact writeSetpoints_completes live gates connected closed clear
  · intro cfg tagMap plantCode proposed plan planned
    exact plan_partitions planned
  · intro ctx body db sent
    exact (applyRecommendation_gated sent).1

/-- The temperature goes to its write node, the feed in half tons to its own node. -/
theorem setpoint_writes_gated_live :
    let proposed : Dict String ℚ := ⟨[("reactor_temp_c", 410), ("pressure_bar", 5), ("feed_flow_tonh", 95)], by decide⟩
    let attempt := writeSetpoints sampleContext.cfg sampleTagMap {} "olefin" proposed (some false)
    (∃ result, attempt.outcome = .ok result ∧ result.dryRun = false) ∧
      nodeWrites attempt.events = [⟨"ns=2;s=TIC.SP", 410⟩, ⟨"ns=2;s=FIC", 190⟩] := by
  intro proposed attempt
  obtain ⟨_, owed, _, completes⟩ := setpoint_writes_gated.1 sampleContext.cfg sampleTagMap {} "olefin" proposed (some false)
  have known : sampleTagMap.get? "olefin" = some (sampleTagMap.items.head (by decide)).2 := by decide +kernel
  have gates : LiveGates sampleContext.cfg sampleTagMap {} "olefin" proposed :=
    ⟨⟨_, known, ("reactor_temp_c", 410), by decide, by decide⟩, rfl, by decide, rfl⟩
  obtain ⟨result, completed, live, _⟩ := completes rfl gates rfl rfl fun _ => rfl
  obtain ⟨plant, found, writes⟩ := owed result completed live
  cases known.symm.trans found
  exact ⟨⟨result, completed, live⟩, writes.trans (by decide +kernel)⟩

end Iems.Optimization
