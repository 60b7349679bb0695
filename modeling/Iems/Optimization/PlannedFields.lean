import Iems.Optimization.Advice
import Iems.Optimization.WriteGate

/-! Which fields an apply touches, against the changes that the recommendation lists. -/
namespace Iems.Optimization
open Lib Iems.Core Ingestion

/-! ### The advice of a row -/

theorem rowAdvice_new (now : Int) (simulations : Dict String AdviceSimulation) (advice : SetpointAdvice) :
    rowAdvice (newRecommendation now simulations advice) = advice := rfl

theorem rowStep_advice {id : Nat} {op : RecOp} {rec : OptimizationRecommendation}
    {after : Option OptimizationRecommendation} {events : List RecommendationAuditEvent}
    (change : RowStep id op (some rec) after events) :
    ∃ later, after = some later ∧ rowAdvice later = rowAdvice rec := by
  cases change with
  | same => exact ⟨rec, rfl, rfl⟩
  | decided body => exact ⟨_, rfl, rfl⟩
  | simulated ctx model _ sim => exact ⟨_, rfl, rfl⟩
  | approved body => exact ⟨_, rfl, rfl⟩
  | applied ctx body _ result => exact ⟨_, rfl, rfl⟩
  | failed ctx body => exact ⟨_, rfl, rfl⟩
  | measured ctx body => exact ⟨_, rfl, rfl⟩

theorem advice_run {db : RecStore} {id : Nat} {rec : OptimizationRecommendation}
    (found : getRecommendation db id = some rec) (ops : List RecOp) :
    ∃ later, getRecommendation (run exec db ops) id = some later ∧ rowAdvice later = rowAdvice rec := by
  have keep : ∀ s op, (∃ later, getRecommendation s id = some later ∧ rowAdvice later = rowAdvice rec) →
      ∃ later, getRecommendation (exec s op) id = some later ∧ rowAdvice later = rowAdvice rec := by
    intro s op ⟨now, present, same⟩
    obtain ⟨events, _, change⟩ := exec_moves s op id
    rw [present] at change
    obtain ⟨later, next, kept⟩ := rowStep_advice change
    exact ⟨later, next, kept.trans same⟩
  exact run_invariant keep ⟨rec, found, rfl⟩

theorem persisted_found {now : Int} {adviceItems : List SetpointAdvice} {simulations : Dict String AdviceSimulation}
    {db : RecStore} {row : Nat × OptimizationRecommendation}
    (persisted : row ∈ (persistRecommendations now adviceItems simulations db).1) :
    getRecommendation (persistRecommendations now adviceItems simulations db).2 row.1 = some row.2 := by
  have fresh := (lookup_iff_mem (Table.distinct_insertAll _ _)).mpr persisted
  rw [getRecommendation_persist]
  cases old : getRecommendation db row.1 with
  | none => exact fresh
  | some rec => exact absurd (fresh.symm.trans (Table.lookup_insertAll_old old)) (by simp)

/-! ### The fields an apply touches -/

/-- The fields that an apply reports as planned or written. -/
def ApplyRun.fields (attempt : ApplyRun) : List String :=
  match attempt.outcome with
  | .ok outcome => outcome.planned.map (·.field) ++ outcome.written.map (·.field)
  | .error _ => []

/-- The field is proposed and allowlisted, and has a writable tag at the plant. -/
def ProposedWritable (ctx : ApplyContext) (plantCode : String) (proposed : Dict String ℚ) (field : String) : Prop :=
  ∃ plant tag eng, ctx.tagMap.get? plantCode = some plant ∧ writableTag ctx.cfg plant field = some tag ∧
    proposed.get? field = some eng

/-- The write goes to the tag of a field, whether or not the apply came to report it. -/
def WritesField (ctx : ApplyContext) (plantCode : String) (proposed : Dict String ℚ) (field : String) (w : NodeWrite) :
    Prop :=
  ∃ plant tag eng, ctx.tagMap.get? plantCode = some plant ∧ writableTag ctx.cfg plant field = some tag ∧
    proposed.get? field = some eng ∧ w = owedWrite tag eng

theorem planned_proposed {cfg : Settings} {tagMap : TagMap} {plantCode : String} {proposed : Dict String ℚ}
    {plan : WriteResult} (planned : planSetpointWrites cfg tagMap plantCode proposed = .ok plan) {item : WritePlanItem}
    (member : item ∈ plan.planned) : ∃ plant tag eng, tagMap.get? plantCode = some plant ∧
      writableTag cfg plant item.field = some tag ∧ proposed.get? item.field = some eng ∧
        item = planItem item.field tag eng := by
  obtain ⟨plant, known, items, _⟩ := planSetpointWrites_ok planned
  rw [items, List.mem_filterMap] at member
  obtain ⟨⟨field, eng⟩, listed, made⟩ := member
  obtain ⟨tag, writable, rfl⟩ := Option.map_eq_some_iff.mp made
  exact ⟨plant, tag, eng, known, writable, (Dict.get?_iff_mem _).mpr listed, rfl⟩

theorem plan_written {cfg : Settings} {tagMap : TagMap} {plantCode : String} {proposed : Dict String ℚ}
    {plan : WriteResult} (planned : planSetpointWrites cfg tagMap plantCode proposed = .ok plan) : plan.written = [] := by
  unfold planSetpointWrites at planned
  split at planned
  · cases planned
  · cases planned
    rfl

theorem writeItems_sent {faults : OpcFaults} {k : Nat} {items : List WritePlanItem} {written : List WrittenItem}
    {w : NodeWrite} (sent : w ∈ (writeItems faults k items written).1) : ∃ item ∈ items, w = item.nodeWrite := by
  induction items generalizing k written with
  | nil => simp [writeItems] at sent
  | cons item rest ih =>
    unfold writeItems at sent
    split at sent
    · cases sent
    · rcases List.mem_cons.mp sent with first | later
      · exact ⟨item, List.mem_cons_self, first⟩
      · obtain ⟨other, member, same⟩ := ih later
        exact ⟨other, List.mem_cons_of_mem _ member, same⟩

section Attempt
variable {cfg : Settings} {tagMap : TagMap} {faults : OpcFaults} {plantCode : String} {proposed : Dict String ℚ}
  {dryRun : Option Bool}

theorem writeSetpoints_sent {w : NodeWrite}
    (sent : w ∈ nodeWrites (writeSetpoints cfg tagMap faults plantCode proposed dryRun).events) :
    ∃ plan, planSetpointWrites cfg tagMap plantCode proposed = .ok plan ∧ ∃ item ∈ plan.planned, w = item.nodeWrite := by
  rcases @writeSetpoints_cases cfg tagMap faults plantCode proposed dryRun with
    ⟨plan, _, _, dry⟩ | ⟨message, refused, _⟩ | ⟨plan, planned, _, _, attempt⟩
  · rw [dry] at sent
    cases sent
  · rw [refused] at sent
    cases sent
  · rw [attempt, nodeWrites_liveWrite] at sent
    split at sent
    · cases sent
    · exact ⟨plan, planned, writeItems_sent sent⟩

theorem writeSetpoints_reported {result : WriteResult}
    (completed : (writeSetpoints cfg tagMap faults plantCode proposed dryRun).outcome = .ok result) :
    ∃ plan, planSetpointWrites cfg tagMap plantCode proposed = .ok plan ∧ result.planned = plan.planned ∧
      ∀ item ∈ result.written, item ∈ plan.planned.map (·.writtenItem) := by
  rcases @writeSetpoints_cases cfg tagMap faults plantCode proposed dryRun with
    ⟨plan, planned, _, dry⟩ | ⟨message, refused, _⟩ | ⟨plan, planned, _, _, attempt⟩
  · rw [dry] at completed
    cases completed
    refine ⟨plan, planned, rfl, ?_⟩
    simp [plan_written planned]
  · rw [refused] at completed
    cases completed
  · rw [attempt] at completed
    obtain ⟨_, _, _, same⟩ := liveWrite_ok completed
    subst same
    exact ⟨plan, planned, rfl, fun item member => member⟩

end Attempt

/-- An apply goes through with the loaded row, or touches nothing. -/
theorem applyRecommendation_attempt (ctx : ApplyContext) (body : ApplyRequest) (db : RecStore) :
    (∃ rec, getRecommendation db body.recommendationId = some rec ∧
      (applyRecommendation ctx body db).events = (applyWrites ctx body rec).events ∧
      (applyRecommendation ctx body db).outcome = (applyCommit ctx body rec db).1) ∨
    ((applyRecommendation ctx body db).events = [] ∧ ∃ e, (applyRecommendation ctx body db).outcome = .error e) := by
  unfold applyRecommendation
  split
  · exact Or.inr ⟨rfl, _, rfl⟩
  · rename_i rec passed
    exact Or.inl ⟨rec, (applyCheck_ok passed).1, rfl, rfl⟩

/-- An apply that answers has completed its write and recorded it. -/
theorem applyCommit_outcome {ctx : ApplyContext} {body : ApplyRequest} {rec : OptimizationRecommendation} {db : RecStore}
    {outcome : ApplyOutcome} (completed : (applyCommit ctx body rec db).1 = .ok outcome) :
    ∃ result, (applyWrites ctx body rec).outcome = .ok result ∧ outcome = applyOutcome ctx body rec result ∧
      (applyCommit ctx body rec db).2 = appendAudit (save db body.recommendationId rec (appliedEdit ctx body rec result))
        (appliedEvent ctx body rec result) := by
  unfold applyCommit at completed ⊢
  split at completed
  · split at completed <;> cases completed
  · cases completed
  · rename_i result written
    split at completed
    · cases completed
    · rename_i commits
      cases completed
      rw [if_neg commits]
      exact ⟨result, written, rfl, rfl⟩

/-- Whatever an apply touches was proposed and is writable. -/
theorem applied_fields_proposed (ctx : ApplyContext) (body : ApplyRequest) {db : RecStore}
    {rec : OptimizationRecommendation} (found : getRecommendation db body.recommendationId = some rec) :
    (∀ field ∈ (applyRecommendation ctx body db).fields, ProposedWritable ctx rec.plantCode rec.proposed field) ∧
      ∀ w ∈ nodeWrites (applyRecommendation ctx body db).events,
        ∃ field, WritesField ctx rec.plantCode rec.proposed field w := by
  obtain ⟨loaded, same, events, outcome⟩ | ⟨events, e, outcome⟩ := applyRecommendation_attempt ctx body db
  · cases found.symm.trans same
    constructor
    · intro field touched
      unfold ApplyRun.fields at touched
      rw [outcome] at touched
      split at touched
      · rename_i report completed
        obtain ⟨result, written, rfl, _⟩ := applyCommit_outcome completed
        obtain ⟨plan, plans, kept, subset⟩ := writeSetpoints_reported written
        have listed : ∃ item ∈ plan.planned, item.field = field := by
          dsimp only [applyOutcome] at touched
          rw [kept] at touched
          rcases List.mem_append.mp touched with intended | sent
          · simpa [WritePlanItem.writtenItem] using intended
          · obtain ⟨item, member, rfl⟩ := List.mem_map.mp sent
            simpa [WritePlanItem.writtenItem] using List.mem_map_of_mem (f := (·.field)) (subset item member)
        obtain ⟨item, member, rfl⟩ := listed
        obtain ⟨plant, tag, eng, known, writable, proposed, _⟩ := planned_proposed plans member
        exact ⟨plant, tag, eng, known, writable, proposed⟩
      · cases touched
    · intro w sent
      rw [events] at sent
      obtain ⟨plan, plans, item, member, rfl⟩ := writeSetpoints_sent sent
      obtain ⟨plant, tag, eng, known, writable, proposed, made⟩ := planned_proposed plans member
      refine ⟨item.field, plant, tag, eng, known, writable, proposed, ?_⟩
      rw [made]
      exact planItem_nodeWrite item.field tag eng
  · constructor
    · intro field touched
      rw [ApplyRun.fields, outcome] at touched
      cases touched
    · intro w sent
      rw [events] at sent
      cases sent

/-! ### Against the listed changes -/

/-- A field is a listed change, or is proposed to stay within 0.05 of the reading shown with it. -/
def ListedOrKept (item : SetpointAdvice) (field : String) : Prop :=
  field ∈ item.deltas.keys ∨ ∃ before after, item.current.get? field = some before ∧
    item.proposed.get? field = some after ∧ |after - before| ≤ 5 / 100

theorem advised_listedOrKept {best state : UnitOperatingState} {item : SetpointAdvice} (advises : Advises best state item)
    {field : String} {after : ℚ} (proposed : item.proposed.get? field = some after) : ListedOrKept item field := by
  have current : ∃ before, (currentSetpoints state).get? field = some before := by
    rw [advises.proposed] at proposed
    rcases setpoints_field proposed with rfl | rfl | rfl | rfl | ⟨rfl, _⟩ <;> exact ⟨_, rfl⟩
  obtain ⟨before, shown⟩ := current
  rcases lt_or_ge (5 / 100) |after - before| with moved | kept
  · refine Or.inl ?_
    rw [advises.deltas, mem_setpointDeltas_keys, ← advises.proposed, shown]
    exact ⟨after, proposed, moved⟩
  · exact Or.inr ⟨before, after, by rw [advises.current, shown], proposed, kept⟩

/-- From the analysis through any run of requests to the apply: the plant is touched in a writable field that was
proposed, and that is a listed change or is proposed to stay as it was shown. -/
theorem apply_listedOrKept {states : List UnitOperatingState} {benchmarks : List UnitBenchmark}
    {advice adviceItems : List SetpointAdvice} {item : SetpointAdvice} {now : Int}
    {simulations : Dict String AdviceSimulation} {db : RecStore} {id : Nat}
    (built : buildStructuredAdvice states benchmarks = some advice) (member : item ∈ advice)
    (persisted : (id, newRecommendation now simulations item) ∈
      (persistRecommendations now adviceItems simulations db).1)
    (ops : List RecOp) (ctx : ApplyContext) (body : ApplyRequest) (own : body.recommendationId = id) :
    let attempt := applyRecommendation ctx body (run exec (persistRecommendations now adviceItems simulations db).2 ops)
    (∀ field ∈ attempt.fields, ProposedWritable ctx item.plantCode item.proposed field ∧ ListedOrKept item field) ∧
      ∀ w ∈ nodeWrites attempt.events, ∃ field, WritesField ctx item.plantCode item.proposed field w ∧
        ListedOrKept item field := by
  intro attempt
  obtain ⟨_, best, _, _, listed⟩ := mem_buildStructuredAdvice built
  obtain ⟨state, _, bench, _, advised⟩ := (listed item).mp member
  have advises := (adviseUnit_advises advised).2
  obtain ⟨rec, found, kept⟩ := advice_run (persisted_found persisted) ops
  rw [rowAdvice_new] at kept
  have proposals : rec.proposed = item.proposed := congrArg SetpointAdvice.proposed kept
  have plants : rec.plantCode = item.plantCode := congrArg SetpointAdvice.plantCode kept
  obtain ⟨fields, writes⟩ := applied_fields_proposed ctx body (own ▸ found)
  rw [proposals, plants] at fields writes
  constructor
  · intro field touched
    obtain ⟨plant, tag, eng, known, writable, proposed⟩ := fields field touched
    exact ⟨⟨plant, tag, eng, known, writable, proposed⟩, advised_listedOrKept advises proposed⟩
  · intro w sent
    obtain ⟨field, plant, tag, eng, known, writable, proposed, made⟩ := writes w sent
    exact ⟨field, ⟨plant, tag, eng, known, writable, proposed, made⟩, advised_listedOrKept advises proposed⟩

/-- A unit that is short of feed and at the temperature of its benchmark. -/
def sampleFleet : List UnitOperatingState := [unitAt "olefin" 80 400 90, unitAt "pta" 90 400]

def sampleBenchmarks : List UnitBenchmark :=
  [{ plantCode := "olefin", energyEfficiencyPercent := 80, energyIntensityKgoeTon := 600, tier := .low,
     gapPpVsBest := 10, benchmarkPlant := some "pta" },
    { plantCode := "pta", energyEfficiencyPercent := 90, energyIntensityKgoeTon := 600, tier := .high,
      gapPpVsBest := 0, benchmarkPlant := none }]

theorem classifyUnits_sampleFleet : classifyUnits sampleFleet = sampleBenchmarks := by
  have median : medianEfficiency sampleFleet = 90 := by
    rw [medianEfficiency_sorted (by norm_num [sampleFleet, unitAt])]
    rfl
  have top : bestUnit sampleFleet = some (unitAt "pta" 90 400) := by decide +kernel
  rw [classifyUnits, top, median]
  decide +kernel

def feedAdvice : SetpointAdvice where
  plantCode := "olefin"
  priority := .high
  title := "Align 'olefin' with high-efficiency 'pta'"
  rationale := adviceRationale (unitAt "olefin" 80 400 90) (unitAt "pta" 90 400) "pta"
  current := setpoints 400 90 100 30 15
  proposed := setpoints 400 100 100 30 15
  deltas := ⟨[("feed_flow_tonh", 10)], by simp⟩
  estimatedSecReductionPct := 0
  estimatedEnergySavingKwhPerH := 0
  estimatedEfficiencyGainPp := 8
  benchmarkPlant := some "pta"
  tags := ["sec", "benchmark", "feed_ratio"]

theorem sampleFleet_advice : buildStructuredAdvice sampleFleet (classifyUnits sampleFleet) = some [feedAdvice] := by
  rw [classifyUnits_sampleFleet]
  decide +kernel

def feedApproval : List RecOp :=
  [.feedback { recommendationId := 1, decision := "accepted", operator := "shift", now := 1 },
    .approve { recommendationId := 1, actor := "lead", now := 2 }]

def feedContext : ApplyContext where
  cfg := { opcUaEndpoint := "opc.tcp://plant-host:4840", opcWriteEnabled := true, optRequireSimBeforeApply := false }
  tagMap := sampleTagMap
  loadUnitState := fun _ => none

def feedAttempt : ApplyRun :=
  applyRecommendation feedContext sampleBody
    (run exec (persistRecommendations 0 [feedAdvice] .empty .empty).2 feedApproval)

theorem apply_listedOrKept_feed : "reactor_temp_c" ∈ feedAttempt.fields ∧
    nodeWrites feedAttempt.events = [⟨"ns=2;s=TIC.SP", 400⟩, ⟨"ns=2;s=FIC", 200⟩] ∧
    (∀ field ∈ feedAttempt.fields, ProposedWritable feedContext feedAdvice.plantCode feedAdvice.proposed field ∧
        ListedOrKept feedAdvice field) ∧
      ∀ w ∈ nodeWrites feedAttempt.events, ∃ field,
        WritesField feedContext feedAdvice.plantCode feedAdvice.proposed field w ∧ ListedOrKept feedAdvice field :=
  ⟨by decide +kernel, by decide +kernel, apply_listedOrKept sampleFleet_advice (List.mem_singleton_self _)
    (by decide +kernel) feedApproval feedContext sampleBody rfl⟩

/-- The advised feed rise also writes the reactor temperature, which no listed change names. -/
theorem apply_writes_unlisted :
    ¬ ∀ (states : List UnitOperatingState) (advice adviceItems : List SetpointAdvice) (item : SetpointAdvice)
      (now : Int) (simulations : Dict String AdviceSimulation) (db : RecStore) (id : Nat) (ops : List RecOp)
      (ctx : ApplyContext) (body : ApplyRequest), buildStructuredAdvice states (classifyUnits states) = some advice →
      item ∈ advice → (id, newRecommendation now simulations item) ∈
        (persistRecommendations now adviceItems simulations db).1 → body.recommendationId = id →
      ∀ field ∈ (applyRecommendation ctx body
          (run exec (persistRecommendations now adviceItems simulations db).2 ops)).fields,
        field ∈ item.deltas.keys := by
  intro listed
  have touched : "reactor_temp_c" ∈ feedAttempt.fields := by decide +kernel
  have named := listed sampleFleet [feedAdvice] [feedAdvice] feedAdvice 0 .empty .empty 1 feedApproval feedContext
    sampleBody sampleFleet_advice (List.mem_singleton_self _) (by decide +kernel) rfl _ touched
  exact absurd named (by decide)

end Iems.Optimization
