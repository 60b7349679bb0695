import Iems.Lib.Dict
import Mathlib.Data.Rat.Defs

/-! The tag map: which OPC node carries each sensor field of a plant. -/
namespace Iems.Ingestion
open Lib

structure TagDef where
  field : String
  nodeId : String
  unit : String
  description : String
  scale : ℚ := 1
  offset : ℚ := 0
  writable : Bool := false
  writeNodeId : Option String := none
  deriving DecidableEq

structure PlantTagMap where
  code : String
  name : String
  tags : Dict String TagDef
  endpoint : Option String := none
  deriving DecidableEq

abbrev TagMap := Dict String PlantTagMap

def sensorFields : List String :=
  ["electricity_power_mw", "fuel_gas_flow_km3h", "steam_flow_tonh", "feed_flow_tonh", "reactor_temp_c",
    "pressure_bar"]

/-- A tag as the map file has it, before its defaults. -/
structure RawTag where
  nodeId : Option String
  unit : Option String := none
  description : Option String := none
  scale : Option ℚ := none
  offset : Option ℚ := none
  writable : Option Bool := none
  writeNodeId : Option String := none

structure RawPlant where
  name : Option String := none
  tags : Dict String RawTag
  endpoint : Option String := none

def nonEmpty (text : Option String) : Option String := text.filter (· ≠ "")

/-- A tag without a node id raises. -/
def loadTag (field : String) (raw : RawTag) : Option TagDef :=
  raw.nodeId.map fun nodeId =>
    { field := field
      nodeId := nodeId
      unit := raw.unit.getD ""
      description := raw.description.getD ""
      scale := raw.scale.getD 1
      offset := raw.offset.getD 0
      writable := raw.writable.getD false
      writeNodeId := nonEmpty raw.writeNodeId }

def loadPlant (code : String) (raw : RawPlant) : Option PlantTagMap :=
  (Dict.build? loadTag raw.tags.items .empty).map fun tags =>
    { code := code
      name := raw.name.getD code
      tags := tags
      endpoint := nonEmpty raw.endpoint }

def loadTagMap (raw : Dict String RawPlant) : Option TagMap := Dict.build? loadPlant raw.items .empty

/-- Every plant and every tag of a loaded map carries its own key. -/
structure Keyed (tagMap : TagMap) : Prop where
  code : ∀ code plant, tagMap.get? code = some plant → plant.code = code
  field : ∀ code plant, tagMap.get? code = some plant →
    ∀ field tag, plant.tags.get? field = some tag → tag.field = field

theorem loadTagMap_keyed {raw : Dict String RawPlant} {tagMap : TagMap} (loaded : loadTagMap raw = some tagMap) :
    Keyed tagMap := by
  have plantRead : ∀ code plant, tagMap.get? code = some plant → ∃ rawPlant, loadPlant code rawPlant = some plant := by
    intro code plant found
    rcases Dict.build?_get? loaded found with before | ⟨rawPlant, _, made⟩
    · cases before
    · exact ⟨rawPlant, made⟩
  constructor
  · intro code plant found
    obtain ⟨rawPlant, made⟩ := plantRead code plant found
    obtain ⟨tags, _, rfl⟩ := Option.map_eq_some_iff.mp made
    rfl
  · intro code plant found field tag present
    obtain ⟨rawPlant, made⟩ := plantRead code plant found
    obtain ⟨tags, built, rfl⟩ := Option.map_eq_some_iff.mp made
    rcases Dict.build?_get? built present with before | ⟨rawTag, _, read⟩
    · cases before
    · obtain ⟨nodeId, _, rfl⟩ := Option.map_eq_some_iff.mp read
      rfl

def olefinTag (field : String) : TagDef where
  field := field
  nodeId := "ns=2;s=Olefin." ++ field
  unit := ""
  description := ""

def olefinPlant : PlantTagMap where
  code := "olefin"
  name := "Olefin Unit"
  tags := Dict.collect (fun field => some (olefinTag field)) sensorFields .empty

def olefinTags : TagMap := Dict.empty.set "olefin" olefinPlant

def rawOlefin : Dict String RawPlant :=
  Dict.empty.set "olefin"
    { name := some "Olefin Unit"
      tags := Dict.collect (fun field => some { nodeId := some ("ns=2;s=Olefin." ++ field) }) sensorFields .empty }

theorem rawOlefin_loads : loadTagMap rawOlefin = some olefinTags := by decide +kernel

end Iems.Ingestion
