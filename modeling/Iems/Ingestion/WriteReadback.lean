import Iems.Ingestion.OpcuaClient
import Iems.Ingestion.OpcuaWrite
import Mathlib.Tactic.FieldSimp

/-! A planned raw value against what the reader makes of it: the two scalings of one tag. -/
namespace Iems.Ingestion
open Lib Iems.Core

/-- The value that the reader publishes, before rounding, once the node holds the planned raw value. -/
def readBack (item : WritePlanItem) (tag : TagDef) : ExtRat := applyScale (.finite item.value) tag.scale tag.offset

theorem readBack_planItem (field : String) (tag : TagDef) (eng : ℚ) :
    readBack (planItem field tag eng) tag = .finite (if tag.scale = 0 then tag.offset else eng) := by
  unfold readBack planItem applyScale
  rw [ExtRat.scale_finite, ExtRat.add_finite]
  congr 1
  by_cases degenerate : tag.scale = 0
  · simp [degenerate]
  · simp only [if_neg degenerate]
    field_simp
    ring

theorem readBack_planItem_iff (field : String) (tag : TagDef) (eng : ℚ) :
    readBack (planItem field tag eng) tag = .finite eng ↔ tag.scale ≠ 0 ∨ eng = tag.offset := by
  rw [readBack_planItem, ExtRat.finite.injEq]
  by_cases degenerate : tag.scale = 0
  · rw [if_pos degenerate]
    constructor
    · intro same
      exact Or.inr same.symm
    · rintro (nonzero | same)
      · exact absurd degenerate nonzero
      · exact same.symm
  · rw [if_neg degenerate]
    exact iff_of_true rfl (Or.inl degenerate)

theorem writableTag_some {cfg : Settings} {plant : PlantTagMap} {field : String} {tag : TagDef} :
    writableTag cfg plant field = some tag ↔
      field ∈ cfg.writableFieldList ∧ plant.tags.get? field = some tag ∧ tag.writable = true := by
  unfold writableTag
  split
  · rename_i listed
    simp [Option.filter_eq_some_iff, listed]
  · rename_i unlisted
    simp [unlisted]

theorem mem_planned {cfg : Settings} {tagMap : TagMap} {plantCode : String} {proposed : Dict String ℚ}
    {plan : WriteResult} (planned : planSetpointWrites cfg tagMap plantCode proposed = .ok plan) :
    ∃ plant, tagMap.get? plantCode = some plant ∧ ∀ item, item ∈ plan.planned ↔
      ∃ field tag eng, proposed.get? field = some eng ∧ writableTag cfg plant field = some tag ∧
        item = planItem field tag eng := by
  obtain ⟨plant, known, items, _⟩ := planSetpointWrites_ok planned
  refine ⟨plant, known, fun item => ?_⟩
  rw [items, List.mem_filterMap]
  constructor
  · rintro ⟨⟨field, eng⟩, member, made⟩
    obtain ⟨tag, allowed, made⟩ := Option.map_eq_some_iff.mp made
    exact ⟨field, tag, eng, (proposed.get?_iff_mem).mpr member, allowed, made.symm⟩
  · rintro ⟨field, tag, eng, asked, allowed, rfl⟩
    refine ⟨(field, eng), (proposed.get?_iff_mem).mp asked, ?_⟩
    simp [allowed]

/-- What the session's reader gathers for a field whose node holds the planned raw value. -/
theorem gather_readBack {plant : PlantTagMap} {samples : Dict String TagSample} {item : WritePlanItem} {tag : TagDef}
    {sample : TagSample} (sensor : item.field ∈ sensorFields) (mapped : plant.tags.get? item.field = some tag)
    (read : samples.get? item.field = some sample) (held : sample.value = some (.finite item.value)) :
    (gather plant samples).values.get? item.field = some (readBack item tag) := by
  rw [gather_values, if_pos sensor]
  simp [fieldValue, mapped, read, held, readBack]

/-- Every asked writable field is planned, and each planned raw value is read back as the engineering value it was
planned for unless the scale of its tag is zero. -/
theorem planned_reads_back_iff {cfg : Settings} {tagMap : TagMap} {plantCode : String} {proposed : Dict String ℚ}
    {plan : WriteResult} (planned : planSetpointWrites cfg tagMap plantCode proposed = .ok plan) :
    ∃ plant, tagMap.get? plantCode = some plant ∧
      (∀ field tag eng, proposed.get? field = some eng → writableTag cfg plant field = some tag →
        ∃ item ∈ plan.planned, item.field = field ∧ item.engineeringValue = eng) ∧
      ∀ item ∈ plan.planned, ∃ tag, writableTag cfg plant item.field = some tag ∧
        proposed.get? item.field = some item.engineeringValue ∧
        (readBack item tag = .finite item.engineeringValue ↔
          tag.scale ≠ 0 ∨ item.engineeringValue = tag.offset) ∧
        ∀ samples sample, item.field ∈ sensorFields → Dict.get? samples item.field = some sample →
          sample.value = some (.finite item.value) →
          (gather plant samples).values.get? item.field = some (readBack item tag) := by
  obtain ⟨plant, known, members⟩ := mem_planned planned
  refine ⟨plant, known, ?_, ?_⟩
  · intro field tag eng asked allowed
    exact ⟨planItem field tag eng, (members _).mpr ⟨field, tag, eng, asked, allowed, rfl⟩, rfl, rfl⟩
  · intro item member
    obtain ⟨field, tag, eng, asked, allowed, rfl⟩ := (members item).mp member
    have mapped := (writableTag_some.mp allowed).2.1
    refine ⟨tag, allowed, asked, readBack_planItem_iff field tag eng, ?_⟩
    intro samples sample sensor read held
    exact gather_readBack sensor mapped read held

/-- The map file of a plant with one writable tag, of the given scale. -/
def rawReactor (scale : ℚ) : Dict String RawPlant :=
  Dict.empty.set "olefin"
    { tags := Dict.empty.set "reactor_temp_c"
        { nodeId := some "ns=2;s=Olefin.Reactor", scale := some scale, writable := some true } }

def reactorTag (scale : ℚ) : TagDef where
  field := "reactor_temp_c"
  nodeId := "ns=2;s=Olefin.Reactor"
  unit := ""
  description := ""
  scale := scale
  writable := true

def reactorTags (scale : ℚ) : TagMap :=
  Dict.empty.set "olefin"
    { code := "olefin", name := "olefin", tags := Dict.empty.set "reactor_temp_c" (reactorTag scale) }

def reactorPlan (scale : ℚ) : WriteResult where
  dryRun := true
  plantCode := "olefin"
  planned := [planItem "reactor_temp_c" (reactorTag scale) 395]
  detail := "plan_only"

theorem reactor_planned (scale : ℚ) :
    planSetpointWrites {} (reactorTags scale) "olefin" (Dict.empty.set "reactor_temp_c" 395) =
      .ok (reactorPlan scale) := rfl

theorem planned_reads_back_iff_halved :
    ∃ plant, (reactorTags (1 / 2)).get? "olefin" = some plant ∧
      (∀ field tag eng, (Dict.empty.set "reactor_temp_c" (395 : ℚ)).get? field = some eng →
        writableTag {} plant field = some tag →
        ∃ item ∈ (reactorPlan (1 / 2)).planned, item.field = field ∧ item.engineeringValue = eng) ∧
      ∀ item ∈ (reactorPlan (1 / 2)).planned, ∃ tag, writableTag {} plant item.field = some tag ∧
        (Dict.empty.set "reactor_temp_c" (395 : ℚ)).get? item.field = some item.engineeringValue ∧
        (readBack item tag = .finite item.engineeringValue ↔
          tag.scale ≠ 0 ∨ item.engineeringValue = tag.offset) ∧
        ∀ samples sample, item.field ∈ sensorFields → Dict.get? samples item.field = some sample →
          sample.value = some (.finite item.value) →
          (gather plant samples).values.get? item.field = some (readBack item tag) :=
  planned_reads_back_iff (reactor_planned (1 / 2))

/-- A tag that the map file gives the scale zero is sent 395 degrees as 395 and read back as zero. -/
theorem zero_scale_reads_back_offset :
    loadTagMap (rawReactor 0) = some (reactorTags 0) ∧
      planSetpointWrites {} (reactorTags 0) "olefin" (Dict.empty.set "reactor_temp_c" 395) = .ok (reactorPlan 0) ∧
      ∃ item ∈ (reactorPlan 0).planned, item.engineeringValue = 395 ∧ item.value = 395 ∧
        readBack item (reactorTag 0) = .finite 0 ∧ readBack item (reactorTag 0) ≠ .finite item.engineeringValue := by
  have read : readBack (planItem "reactor_temp_c" (reactorTag 0) 395) (reactorTag 0) = .finite 0 := by
    rw [readBack_planItem]
    rfl
  refine ⟨by decide +kernel, rfl, planItem "reactor_temp_c" (reactorTag 0) 395, by simp [reactorPlan], rfl, ?_, read, ?_⟩
  · decide +kernel
  · rw [read]
    decide +kernel

end Iems.Ingestion
