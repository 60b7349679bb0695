import Iems.Ingestion.OpcuaSession
import Iems.Services.Physics

/-! The OPC-UA reader: samples of a plant to a published reading. -/
namespace Iems.Ingestion
open Lib Iems.Core Iems.Carbon Iems.Services

/-- The published payload: its values and derived figures are flat keys of one message. -/
structure PlantReading where
  time : String
  plantCode : String
  source : String
  values : Dict String (Option ExtRat)
  derived : Option ExtEnrichedReading
  quality : QualityPayload
  deriving DecidableEq

inductive ReaderError where
  | keyError (message : String)
  | runtimeError (message : String)
  | session (error : SessionError)
  | typeError
  deriving DecidableEq

structure SimBase where
  electricityPowerMw : ℚ
  fuelGasFlowKm3h : ℚ
  steamFlowTonh : ℚ
  feedFlowTonh : ℚ
  reactorTempC : ℚ
  pressureBar : ℚ

def simOlefin : SimBase := ⟨15, 100, 30, 100, 400, 25 / 2⟩

def simPta : SimBase := ⟨18, 110, 35, 95, 405, 59 / 5⟩

/-- `_SIM_BASE.get(plant_code, _SIM_BASE["olefin"])`. -/
def simBase (plantCode : String) : SimBase := if plantCode = "pta" then simPta else simOlefin

def simClip (value lo hi : ℚ) : ℚ := max lo (min hi value)

def simulatePlantReading (sine : ℚ → ℚ) (now : Datetime) (plantCode : String) (t : ℚ) : PlantReading :=
  let base := simBase plantCode
  let phase : ℚ := if plantCode = "olefin" then 0 else 12 / 10
  let power := simClip (base.electricityPowerMw + 5 * sine (2 / 10 * t + phase)) 5 25
  let fuel := simClip (base.fuelGasFlowKm3h + 30 * sine (15 / 100 * t + 15 / 10 + phase)) 50 150
  let steam := simClip (base.steamFlowTonh + 10 * sine (25 / 100 * t + 8 / 10 + phase)) 10 50
  let feed := simClip (base.feedFlowTonh + 15 * sine (1 / 10 * t + 2 + phase)) 80 120
  let temp := simClip (base.reactorTempC + 15 * sine (2 / 10 * t + 1 + phase)) 380 420
  let pressure := simClip (base.pressureBar + 8 / 10 * sine (12 / 100 * t + phase)) 8 18
  let raw : Dict String ℚ :=
    (((((Dict.empty.set "electricity_power_mw" power).set "fuel_gas_flow_km3h" fuel).set
      "steam_flow_tonh" steam).set "feed_flow_tonh" feed).set "reactor_temp_c" temp).set "pressure_bar" pressure
  { time := (Timestamp.utc now).isoformat
    plantCode := plantCode
    source := "simulator"
    values := raw.mapValues fun _ value => some (.finite (roundTo 3 value))
    derived := some (extEnrichReading (.finite power) (.finite fuel) (.finite steam) (.finite feed) (.finite temp))
    quality := readingQualityPayload (Dict.collect (fun _ => some .good) sensorFields .empty) true }

def applyScale (value : ExtRat) (scale offset : ℚ) : ExtRat := (value.scale scale).add (.finite offset)

structure Gathered where
  values : Dict String ExtRat := .empty
  perTag : Dict String QualityCode := .empty
  serverTimes : List Timestamp := []

/-- The loop body over the sensor fields. -/
def gatherField (plant : PlantTagMap) (samples : Dict String TagSample) (g : Gathered) (field : String) : Gathered :=
  match plant.tags.get? field with
  | none => g
  | some tag =>
    match samples.get? field with
    | none => { g with perTag := g.perTag.set field .bad }
    | some sample =>
      let perTag := g.perTag.set field sample.quality
      match sample.value with
      | none => { g with perTag := perTag }
      | some value =>
        { values := g.values.set field (applyScale value tag.scale tag.offset)
          perTag := perTag
          serverTimes := g.serverTimes ++ sample.serverTimestamp.toList }

def gather (plant : PlantTagMap) (samples : Dict String TagSample) : Gathered :=
  sensorFields.foldl (gatherField plant samples) {}

def missingFields (values : Dict String ExtRat) : List String :=
  sensorFields.filter fun field => (values.get? field).isNone

/-- `None` for a NaN, else rounded to three digits. -/
def cleanValue (value : ExtRat) : Option ExtRat := if value.isNan then none else some (value.roundTo 3)

def cleanValues (values : Dict String ExtRat) : Dict String (Option ExtRat) :=
  (Dict.setDefaults sensorFields .nan values).mapValues fun _ => cleanValue

/-- Only with all five inputs. -/
def derivedKpis (clean : Dict String (Option ExtRat)) : Option ExtEnrichedReading := do
  let power ← (clean.get? "electricity_power_mw").join
  let fuel ← (clean.get? "fuel_gas_flow_km3h").join
  let steam ← (clean.get? "steam_flow_tonh").join
  let feed ← (clean.get? "feed_flow_tonh").join
  let temp ← (clean.get? "reactor_temp_c").join
  return extEnrichReading power fuel steam feed temp

/-- `max(server_times)`, or the clock without any; `none` where the comparison raises. -/
def asOf (serverTimes : List Timestamp) (now : Datetime) : Option Timestamp :=
  match serverTimes with
  | [] => some (.utc now)
  | first :: rest => Timestamp.latest? first rest

def publish (cfg : Settings) (now : Datetime) (plantCode : String) (g : Gathered)
    (perTag : Dict String QualityCode) : Except ReaderError PlantReading :=
  let clean := cleanValues g.values
  match asOf g.serverTimes now with
  | none => .error .typeError
  | some stamp =>
    .ok
      { time := stamp.isoformat
        plantCode := plantCode
        source := "opcua"
        values := clean
        derived := derivedKpis clean
        quality := readingQualityPayload perTag cfg.opcUaAllowUncertain }

/-- The gathered samples, with each missing field Bad in Plant Connect mode and refused otherwise. -/
def publishGathered (cfg : Settings) (now : Datetime) (plantCode : String) (g : Gathered) :
    Except ReaderError PlantReading :=
  let missing := missingFields g.values
  if missing ≠ [] ∧ cfg.plantConnect then
    publish cfg now plantCode g (Dict.setDefaults missing .bad g.perTag)
  else if missing ≠ [] then
    .error (.runtimeError ("OPC-UA missing tags for " ++ plantCode ++ ": [" ++
      ", ".intercalate (missing.map fun field => "'" ++ field ++ "'") ++ "]"))
  else publish cfg now plantCode g g.perTag

/-- The reader over an open session: `samples` is what `read_plant` returned or raised. -/
def readOpcuaPlant (cfg : Settings) (tagMap : TagMap) (sine : ℚ → ℚ) (t : ℚ) (now : Datetime)
    (samples : Except SessionError (Dict String TagSample)) (plantCode : String) :
    Except ReaderError PlantReading :=
  match tagMap.get? plantCode with
  | none => .error (.keyError ("Unknown plant_code '" ++ plantCode ++ "' in tag map"))
  | some plant =>
    let plantMode := cfg.plantConnect || cfg.ingestionSource == "opcua"
    if !plantMode || cfg.opcUaEndpoint == "" then
      if cfg.plantConnect && cfg.opcUaEndpoint == "" then
        .error (.runtimeError "PLANT_CONNECT=true requires OPC_UA_ENDPOINT (simulator fallback disabled)")
      else .ok (simulatePlantReading sine now plantCode t)
    else
      match samples with
      | .error error => .error (.session error)
      | .ok samples => publishGathered cfg now plantCode (gather plant samples)

/-! ### What the loop gathers -/

section
variable (plant : PlantTagMap) (samples : Dict String TagSample)

def fieldValue (field : String) : Option ExtRat :=
  (plant.tags.get? field).bind fun tag =>
    (samples.get? field).bind fun sample => sample.value.map fun value => applyScale value tag.scale tag.offset

def fieldQuality (field : String) : Option QualityCode :=
  (plant.tags.get? field).map fun _ => ((samples.get? field).map TagSample.quality).getD .bad

/-- The server time of a sample with a value. -/
def fieldTime (field : String) : Option Timestamp :=
  (plant.tags.get? field).bind fun _ =>
    (samples.get? field).bind fun sample => sample.value.bind fun _ => sample.serverTimestamp

variable {plant samples}

theorem gatherField_eq (g : Gathered) (field : String) :
    gatherField plant samples g field =
      { values := g.values.setSome field (fieldValue plant samples field)
        perTag := g.perTag.setSome field (fieldQuality plant samples field)
        serverTimes := g.serverTimes ++ (fieldTime plant samples field).toList } := by
  unfold gatherField fieldValue fieldQuality fieldTime
  cases plant.tags.get? field with
  | none => simp [Dict.setSome]
  | some tag =>
    cases samples.get? field with
    | none => simp [Dict.setSome]
    | some sample => cases held : sample.value <;> simp [held, Dict.setSome]

theorem gatherLoop_eq (fields : List String) (g : Gathered) :
    fields.foldl (gatherField plant samples) g =
      { values := Dict.collect (fieldValue plant samples) fields g.values
        perTag := Dict.collect (fieldQuality plant samples) fields g.perTag
        serverTimes := g.serverTimes ++ fields.filterMap (fieldTime plant samples) } := by
  induction fields generalizing g with
  | nil => simp [Dict.collect]
  | cons field rest ih =>
    rw [List.foldl_cons, ih, gatherField_eq]
    simp only [Dict.collect, List.foldl_cons, List.append_assoc, List.filterMap_cons]
    cases fieldTime plant samples field <;> simp

theorem gather_eq :
    gather plant samples =
      { values := Dict.collect (fieldValue plant samples) sensorFields .empty
        perTag := Dict.collect (fieldQuality plant samples) sensorFields .empty
        serverTimes := sensorFields.filterMap (fieldTime plant samples) } := by
  unfold gather
  rw [gatherLoop_eq]
  rfl

theorem gather_values (field : String) :
    (gather plant samples).values.get? field =
      if field ∈ sensorFields then fieldValue plant samples field else none := by
  rw [gather_eq, Dict.get?_collect]
  simp

theorem gather_perTag (field : String) :
    (gather plant samples).perTag.get? field =
      if field ∈ sensorFields then fieldQuality plant samples field else none := by
  rw [gather_eq, Dict.get?_collect]
  simp

theorem mem_missingFields {field : String} :
    field ∈ missingFields (gather plant samples).values ↔
      field ∈ sensorFields ∧ fieldValue plant samples field = none := by
  unfold missingFields
  rw [List.mem_filter, gather_values]
  constructor
  · rintro ⟨sensor, absent⟩
    rw [if_pos sensor] at absent
    exact ⟨sensor, Option.isNone_iff_eq_none.mp absent⟩
  · rintro ⟨sensor, absent⟩
    rw [if_pos sensor, absent]
    exact ⟨sensor, rfl⟩

theorem fieldValue_unmapped {field : String} (unmapped : fieldQuality plant samples field = none) :
    fieldValue plant samples field = none := by
  unfold fieldQuality at unmapped
  unfold fieldValue
  rw [Option.map_eq_none_iff.mp unmapped]
  rfl

/-- The quality that a sensor field is published with in Plant Connect mode. -/
theorem published_perTag (field : String) :
    (Dict.setDefaults (missingFields (gather plant samples).values) .bad (gather plant samples).perTag).get? field =
      if field ∈ sensorFields then some ((fieldQuality plant samples field).getD .bad) else none := by
  rw [Dict.get?_setDefaults, gather_perTag]
  by_cases sensor : field ∈ sensorFields
  · simp only [mem_missingFields, sensor, true_and, if_true]
    cases quality : fieldQuality plant samples field with
    | none => rw [if_pos (fieldValue_unmapped quality), Option.getD_none]
    | some held =>
      rw [Option.getD_some]
      split <;> rfl
  · simp only [mem_missingFields, sensor, false_and, if_false]

theorem cleanValues_get? (field : String) :
    (cleanValues (gather plant samples).values).get? field =
      if field ∈ sensorFields then some (cleanValue ((fieldValue plant samples field).getD .nan)) else none := by
  unfold cleanValues
  rw [Dict.get?_mapValues, Dict.get?_setDefaults, gather_values]
  split <;> rfl

end

end Iems.Ingestion
