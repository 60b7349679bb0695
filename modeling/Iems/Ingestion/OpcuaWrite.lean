import Iems.Core.Config
import Iems.Ingestion.TagMap
import Mathlib.Data.List.Perm.Basic
import Mathlib.Algebra.Order.Ring.Rat

/-! Allowlisted setpoint writes: the plan, the gates of a live write and the writes that reach the plant. -/
namespace Iems.Ingestion
open Lib Iems.Core

structure WritePlanItem where
  field : String
  nodeId : String
  value : ℚ
  engineeringValue : ℚ
  scale : ℚ
  offset : ℚ
  deriving DecidableEq

structure WrittenItem where
  field : String
  nodeId : String
  value : ℚ
  raw : ℚ
  deriving DecidableEq

structure WriteResult where
  dryRun : Bool
  plantCode : String
  planned : List WritePlanItem := []
  written : List WrittenItem := []
  skipped : List String := []
  detail : String := ""
  deriving DecidableEq

inductive IoStage where
  | connect
  | write (k : Nat)
  | disconnect
  deriving DecidableEq

inductive WriteError where
  | notAllowed (message : String)
  | io (stage : IoStage)
  deriving DecidableEq

def writeNode (tag : TagDef) : String :=
  match tag.writeNodeId with
  | none => tag.nodeId
  | some node => if node = "" then tag.nodeId else node

def planItem (field : String) (tag : TagDef) (eng : ℚ) : WritePlanItem :=
  let scale := if tag.scale = 0 then 1 else tag.scale
  { field := field
    nodeId := writeNode tag
    value := (eng - tag.offset) / scale
    engineeringValue := eng
    scale := scale
    offset := tag.offset }

/-- The loop over `proposed.items()`. -/
def planLoop (allowed : List String) (plant : PlantTagMap) :
    List (String × ℚ) → List WritePlanItem → List String → List WritePlanItem × List String
  | [], planned, skipped => (planned, skipped)
  | (field, eng) :: rest, planned, skipped =>
    if field ∉ allowed then
      planLoop allowed plant rest planned (skipped ++ [field ++ ":not_in_writable_fields"])
    else
      match plant.tags.get? field with
      | none => planLoop allowed plant rest planned (skipped ++ [field ++ ":no_tag"])
      | some tag =>
        if tag.writable then
          planLoop allowed plant rest (planned ++ [planItem field tag eng]) skipped
        else planLoop allowed plant rest planned (skipped ++ [field ++ ":tag_not_writable"])

def planSetpointWrites (cfg : Settings) (tagMap : TagMap) (plantCode : String)
    (proposed : Dict String ℚ) : Except WriteError WriteResult :=
  match tagMap.get? plantCode with
  | none => .error (.notAllowed ("Unknown plant '" ++ plantCode ++ "' in tag map"))
  | some plant =>
    let (planned, skipped) := planLoop cfg.writableFieldList plant proposed.items [] []
    .ok
      { dryRun := true
        plantCode := plantCode
        planned := planned
        skipped := skipped
        detail := "plan_only" }

structure NodeWrite where
  nodeId : String
  value : ℚ
  deriving DecidableEq

inductive PlantEvent where
  | connect (url : String) (user : Option (String × String))
  | write (w : NodeWrite)
  | disconnect
  deriving DecidableEq

def nodeWrites (events : List PlantEvent) : List NodeWrite :=
  events.filterMap fun
    | .write w => some w
    | _ => none

/-- Which calls of the OPC library raise: `write k` is the `k`-th node write of the attempt. -/
structure OpcFaults where
  missingLibrary : Bool := false
  connect : Bool := false
  write : Nat → Bool := fun _ => false
  disconnect : Bool := false

def WritePlanItem.nodeWrite (item : WritePlanItem) : NodeWrite := ⟨item.nodeId, item.value⟩

def WritePlanItem.writtenItem (item : WritePlanItem) : WrittenItem :=
  { field := item.field, nodeId := item.nodeId, value := item.engineeringValue, raw := item.value }

/-- The write loop from its `k`-th item: the writes that got through, then the `written` list or the
stage that raised. -/
def writeItems (faults : OpcFaults) :
    Nat → List WritePlanItem → List WrittenItem → List NodeWrite × Except IoStage (List WrittenItem)
  | _, [], written => ([], .ok written)
  | k, item :: rest, written =>
    if faults.write k then ([], .error (.write k))
    else
      let (sent, result) := writeItems faults (k + 1) rest (written ++ [item.writtenItem])
      (item.nodeWrite :: sent, result)

structure WriteRun where
  events : List PlantEvent
  outcome : Except WriteError WriteResult

def liveResult (plan : WriteResult) (written : List WrittenItem) : WriteResult where
  dryRun := false
  plantCode := plan.plantCode
  planned := plan.planned
  written := written
  skipped := plan.skipped
  detail := "live_write_ok"

/-- Connect, write, and disconnect in the `finally` block, whose own exception replaces an earlier one. -/
def liveWrite (cfg : Settings) (faults : OpcFaults) (plan : WriteResult) : WriteRun :=
  if faults.connect then ⟨[], .error (.io .connect)⟩
  else
    let user :=
      if cfg.opcUaUsername = "" then none else some (cfg.opcUaUsername, cfg.opcUaPassword)
    let (sent, result) := writeItems faults 0 plan.planned []
    let opened := PlantEvent.connect cfg.opcUaEndpoint user :: sent.map PlantEvent.write
    if faults.disconnect then ⟨opened, .error (.io .disconnect)⟩
    else
      { events := opened ++ [.disconnect]
        outcome :=
          match result with
          | .error stage => .error (.io stage)
          | .ok written => .ok (liveResult plan written) }

def effectiveDryRun (cfg : Settings) (dryRun : Option Bool) : Bool :=
  dryRun.getD cfg.opcWriteDryRunDefault

def writeSetpoints (cfg : Settings) (tagMap : TagMap) (faults : OpcFaults) (plantCode : String)
    (proposed : Dict String ℚ) (dryRun : Option Bool) : WriteRun :=
  match planSetpointWrites cfg tagMap plantCode proposed with
  | .error e => ⟨[], .error e⟩
  | .ok plan =>
    if effectiveDryRun cfg dryRun then
      ⟨[], .ok { plan with dryRun := true, detail := "dry_run — no OPC write performed" }⟩
    else if !cfg.opcWriteEnabled then
      ⟨[], .error (.notAllowed
        "Live OPC write blocked: set OPC_WRITE_ENABLED=true after audit readiness")⟩
    else if cfg.opcUaEndpoint = "" then
      ⟨[], .error (.notAllowed "OPC_UA_ENDPOINT required for live setpoint write")⟩
    else if plan.planned = [] then
      ⟨[], .error (.notAllowed "No allowlisted writable setpoints to apply")⟩
    else if faults.missingLibrary then
      ⟨[], .error (.notAllowed "asyncua required for live write: pip install 'iems[opcua]'")⟩
    else liveWrite cfg faults plan

/-! ### The plan -/

/-- The tag a proposed field is written to: the field is allowlisted, its tag exists and is writable. -/
def writableTag (cfg : Settings) (plant : PlantTagMap) (field : String) : Option TagDef :=
  if field ∈ cfg.writableFieldList then (plant.tags.get? field).filter (·.writable) else none

def skipReason (cfg : Settings) (plant : PlantTagMap) (field : String) : String :=
  if field ∉ cfg.writableFieldList then ":not_in_writable_fields"
  else if plant.tags.get? field = none then ":no_tag"
  else ":tag_not_writable"

theorem planLoop_eq (cfg : Settings) (plant : PlantTagMap) (items : List (String × ℚ))
    (planned : List WritePlanItem) (skipped : List String) :
    planLoop cfg.writableFieldList plant items planned skipped =
      (planned ++ items.filterMap fun item =>
          (writableTag cfg plant item.1).map fun tag => planItem item.1 tag item.2,
        skipped ++ (items.filter fun item => (writableTag cfg plant item.1).isNone).map fun item =>
          item.1 ++ skipReason cfg plant item.1) := by
  induction items generalizing planned skipped with
  | nil => simp [planLoop]
  | cons item rest ih =>
    obtain ⟨field, eng⟩ := item
    unfold planLoop
    by_cases listed : field ∈ cfg.writableFieldList
    · rw [if_neg (not_not_intro listed)]
      cases found : plant.tags.get? field with
      | none =>
        simp only [ih]
        simp [writableTag, skipReason, listed, found]
      | some tag =>
        cases writable : tag.writable with
        | true =>
          simp only [ih]
          simp [writableTag, listed, found, Option.filter, writable]
        | false =>
          simp only [ih]
          simp [writableTag, skipReason, listed, found, Option.filter, writable]
    · rw [if_pos listed, ih]
      simp [writableTag, skipReason, listed]

theorem planSetpointWrites_ok {cfg : Settings} {tagMap : TagMap} {plantCode : String}
    {proposed : Dict String ℚ} {plan : WriteResult}
    (h : planSetpointWrites cfg tagMap plantCode proposed = .ok plan) :
    ∃ plant, tagMap.get? plantCode = some plant ∧
      plan.planned = proposed.items.filterMap (fun item =>
        (writableTag cfg plant item.1).map fun tag => planItem item.1 tag item.2) ∧
      plan.skipped = (proposed.items.filter fun item => (writableTag cfg plant item.1).isNone).map
        (fun item => item.1 ++ skipReason cfg plant item.1) := by
  unfold planSetpointWrites at h
  split at h
  · cases h
  · rename_i plant found
    refine ⟨plant, found, ?_⟩
    have planned := planLoop_eq cfg plant proposed.items [] []
    rw [planned] at h
    cases h
    simp

/-! ### The write loop -/

theorem nodeWrites_sent (sent : List NodeWrite) : nodeWrites (sent.map PlantEvent.write) = sent := by
  induction sent with
  | nil => rfl
  | cons w rest ih =>
    show w :: nodeWrites (rest.map PlantEvent.write) = w :: rest
    rw [ih]

theorem nodeWrites_append (before after : List PlantEvent) :
    nodeWrites (before ++ after) = nodeWrites before ++ nodeWrites after :=
  List.filterMap_append

theorem nodeWrites_connect (url : String) (user : Option (String × String)) (events : List PlantEvent) :
    nodeWrites (.connect url user :: events) = nodeWrites events := rfl

theorem nodeWrites_disconnect : nodeWrites [.disconnect] = [] := rfl

theorem writeItems_ok {faults : OpcFaults} {k : Nat} {items : List WritePlanItem}
    {written : List WrittenItem} (clear : ∀ j < items.length, faults.write (k + j) = false) :
    writeItems faults k items written =
      (items.map (·.nodeWrite), .ok (written ++ items.map (·.writtenItem))) := by
  induction items generalizing k written with
  | nil => simp [writeItems]
  | cons item rest ih =>
    have first : faults.write k = false := clear 0 (by simp)
    have later : ∀ j < rest.length, faults.write (k + 1 + j) = false := by
      intro j within
      have shifted := clear (j + 1) (by simpa using within)
      rwa [show k + (j + 1) = k + 1 + j by omega] at shifted
    simp [writeItems, first, ih later]

theorem writeItems_fault {faults : OpcFaults} {k j : Nat} {items : List WritePlanItem}
    {written : List WrittenItem} (within : j < items.length) (raises : faults.write (k + j) = true) :
    ∃ stage, (writeItems faults k items written).2 = .error stage := by
  induction items generalizing k j written with
  | nil => simp at within
  | cons item rest ih =>
    unfold writeItems
    by_cases first : faults.write k = true
    · rw [if_pos first]
      exact ⟨_, rfl⟩
    · rw [if_neg first]
      cases j with
      | zero => exact absurd raises first
      | succ j =>
        apply ih (j := j) (by simpa using within)
        rwa [show k + 1 + j = k + (j + 1) by omega]

theorem writeItems_sent_iff {faults : OpcFaults} {k : Nat} {items : List WritePlanItem}
    {written : List WrittenItem} :
    (writeItems faults k items written).1 ≠ [] ↔ items ≠ [] ∧ faults.write k = false := by
  cases items with
  | nil => simp [writeItems]
  | cons item rest => cases first : faults.write k <;> simp [writeItems, first]

/-! ### The write attempt -/

/-- The gates of a live write: a known plant, something to write, the switch, an endpoint, the library. -/
structure LiveGates (cfg : Settings) (tagMap : TagMap) (faults : OpcFaults) (plantCode : String)
    (proposed : Dict String ℚ) : Prop where
  writable : ∃ plant, tagMap.get? plantCode = some plant ∧
    ∃ item ∈ proposed.items, (writableTag cfg plant item.1).isSome = true
  enabled : cfg.opcWriteEnabled = true
  endpoint : cfg.opcUaEndpoint ≠ ""
  library : faults.missingLibrary = false

section
variable {cfg : Settings} {tagMap : TagMap} {faults : OpcFaults} {plantCode : String}
  {proposed : Dict String ℚ} {dryRun : Option Bool}

theorem planned_ne_nil_iff {plan : WriteResult}
    (planned : planSetpointWrites cfg tagMap plantCode proposed = .ok plan) :
    plan.planned ≠ [] ↔ ∃ plant, tagMap.get? plantCode = some plant ∧
      ∃ item ∈ proposed.items, (writableTag cfg plant item.1).isSome = true := by
  obtain ⟨plant, known, items, _⟩ := planSetpointWrites_ok planned
  rw [items, ne_eq, List.filterMap_eq_nil_iff]
  constructor
  · intro some_
    push Not at some_
    obtain ⟨item, member, found⟩ := some_
    refine ⟨plant, known, item, member, ?_⟩
    cases tag : writableTag cfg plant item.1 with
    | none => simp [tag] at found
    | some _ => rfl
  · rintro ⟨other, same, item, member, found⟩ none_
    cases known.symm.trans same
    obtain ⟨tag, known'⟩ := Option.isSome_iff_exists.mp found
    have absent := none_ item member
    simp [known'] at absent

/-- Everything a write attempt can do: plan only, refuse, or go live through all the gates. -/
theorem writeSetpoints_cases :
    (∃ plan, planSetpointWrites cfg tagMap plantCode proposed = .ok plan ∧
        effectiveDryRun cfg dryRun = true ∧
        writeSetpoints cfg tagMap faults plantCode proposed dryRun =
          ⟨[], .ok { plan with dryRun := true, detail := "dry_run — no OPC write performed" }⟩) ∨
      (∃ message, writeSetpoints cfg tagMap faults plantCode proposed dryRun =
          ⟨[], .error (.notAllowed message)⟩ ∧
        (tagMap.get? plantCode = none ∨
          effectiveDryRun cfg dryRun = false ∧ ¬ LiveGates cfg tagMap faults plantCode proposed)) ∨
      (∃ plan, planSetpointWrites cfg tagMap plantCode proposed = .ok plan ∧
        effectiveDryRun cfg dryRun = false ∧ LiveGates cfg tagMap faults plantCode proposed ∧
        writeSetpoints cfg tagMap faults plantCode proposed dryRun = liveWrite cfg faults plan) := by
  unfold writeSetpoints
  split
  · rename_i e unknown
    unfold planSetpointWrites at unknown
    split at unknown
    · rename_i absent
      cases unknown
      exact Or.inr (Or.inl ⟨_, rfl, Or.inl absent⟩)
    · cases unknown
  · rename_i plan planned
    split
    · rename_i dry
      exact Or.inl ⟨plan, planned, dry, rfl⟩
    · rename_i live
      have live : effectiveDryRun cfg dryRun = false := by simpa using live
      split
      · rename_i disabled
        refine Or.inr (Or.inl ⟨_, rfl, Or.inr ⟨live, fun gates => ?_⟩⟩)
        simp [gates.enabled] at disabled
      · rename_i enabled
        split
        · rename_i missing
          exact Or.inr (Or.inl ⟨_, rfl, Or.inr ⟨live, fun gates => gates.endpoint missing⟩⟩)
        · rename_i endpoint
          split
          · rename_i nothing
            refine Or.inr (Or.inl ⟨_, rfl, Or.inr ⟨live, fun gates => ?_⟩⟩)
            exact (planned_ne_nil_iff planned).mpr gates.writable nothing
          · rename_i something
            split
            · rename_i missing
              refine Or.inr (Or.inl ⟨_, rfl, Or.inr ⟨live, fun gates => ?_⟩⟩)
              simp [gates.library] at missing
            · rename_i library
              refine Or.inr (Or.inr ⟨plan, planned, live, ?_, rfl⟩)
              exact ⟨(planned_ne_nil_iff planned).mp something, by simpa using enabled, endpoint,
                by simpa using library⟩

theorem nodeWrites_liveWrite (plan : WriteResult) : nodeWrites (liveWrite cfg faults plan).events =
    if faults.connect then [] else (writeItems faults 0 plan.planned []).1 := by
  unfold liveWrite
  split
  · rfl
  · dsimp only
    split
    · rw [nodeWrites_connect, nodeWrites_sent]
    · rw [nodeWrites_append, nodeWrites_connect, nodeWrites_sent, nodeWrites_disconnect, List.append_nil]

theorem liveWrite_ok {plan result : WriteResult} (completed : (liveWrite cfg faults plan).outcome = .ok result) :
    faults.connect = false ∧ faults.disconnect = false ∧
      (∀ j < plan.planned.length, faults.write j = false) ∧
      result = liveResult plan (plan.planned.map (·.writtenItem)) := by
  unfold liveWrite at completed
  split at completed
  · cases completed
  · rename_i connected
    dsimp only at completed
    split at completed
    · cases completed
    · rename_i closed
      have clear : ∀ j < plan.planned.length, faults.write (0 + j) = false := by
        intro j within
        by_contra raises
        have raises : faults.write (0 + j) = true := by simpa using raises
        obtain ⟨stage, failed⟩ := @writeItems_fault faults 0 j plan.planned [] within raises
        rw [failed] at completed
        cases completed
      rw [writeItems_ok clear] at completed
      cases completed
      refine ⟨by simpa using connected, by simpa using closed, fun j within => ?_, rfl⟩
      have here := clear j within
      rwa [Nat.zero_add] at here

theorem liveWrite_complete {plan : WriteResult} (connected : faults.connect = false)
    (closed : faults.disconnect = false) (clear : ∀ j < plan.planned.length, faults.write j = false) :
    (liveWrite cfg faults plan).outcome =
      .ok (liveResult plan (plan.planned.map (·.writtenItem))) := by
  have sent := @writeItems_ok faults 0 plan.planned [] (fun j within => by
    rw [Nat.zero_add]
    exact clear j within)
  unfold liveWrite
  simp [connected, closed, sent]

/-- A live write never ends in the error that the workflow records. -/
theorem liveWrite_error {plan : WriteResult} {e : WriteError}
    (raised : (liveWrite cfg faults plan).outcome = .error e) : ∃ stage, e = .io stage := by
  unfold liveWrite at raised
  split at raised
  · cases raised
    exact ⟨_, rfl⟩
  · dsimp only at raised
    split at raised
    · cases raised
      exact ⟨_, rfl⟩
    · dsimp only at raised
      split at raised
      · cases raised
        exact ⟨_, rfl⟩
      · cases raised

end

end Iems.Ingestion
