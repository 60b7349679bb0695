import Iems.Api.Dashboard
import Iems.Carbon.EsgPack
import Iems.Ingestion.Freshness
import Iems.Lib.Csv

/-! The comma-separated texts that the API and the exports hand out, and what a reader gets back from them. -/
namespace Iems.Api
open Lib Iems.Core Carbon Services Repositories Ingestion

/-- The dialect of `csv.writer`. -/
def excel : Csv.Dialect CodePoint := ⟨codePoint ',', codePoint '"', codePoint '\r', codePoint '\n', by decide⟩

/-- A missing value is written as an empty field. -/
abbrev Item := String × Option String

def texts (row : List String) : List Text := row.map Text.ofString

def csvOf (rows : List (List String)) : Text := Csv.write excel (rows.map texts)

/-- `csv.DictWriter` with its header and one row. -/
def dictCsv (items : List Item) : Text := csvOf [items.map Prod.fst, items.map fun item => item.2.getD ""]

example : dictCsv [("field", some "say \"x, y\"")] = Text.ofString "field\r\n\"say \"\"x, y\"\"\"\r\n" := by decide +kernel

/-- `csv.DictReader`. -/
def readDict (text : Text) : List (List (Text × Text)) :=
  match Csv.read excel text with
  | [] => []
  | header :: rows => rows.map header.zip

section
variable (numberText : ℚ → String) (timeText : Int → String)

def downloadItems (payload : DownloadPayload) : List Item :=
  [("id", some (toString payload.id)),
    ("plant_code", some payload.plantCode),
    ("period_type", some payload.periodType.text),
    ("period_start", some (Timestamp.utc payload.periodStart).isoformat),
    ("period_end", some (Timestamp.utc payload.periodEnd).isoformat),
    ("scope1_kgco2", some (numberText payload.scope1Kgco2)),
    ("scope2_kgco2", some (numberText payload.scope2Kgco2)),
    ("scope3_kgco2", payload.scope3Kgco2.map numberText),
    ("total_kgco2", some (numberText payload.totalKgco2)),
    ("carbon_intensity_kgco2_ton", payload.carbonIntensityKgco2Ton.map numberText),
    ("product_ton", payload.productTon.map numberText),
    ("sample_count", payload.sampleCount.map toString),
    ("factors_version", payload.factorsVersion),
    ("assurance_status", payload.assuranceStatus.map AssuranceStatus.text),
    ("created_at", some (timeText payload.createdAt))]

def exportItems (row : ExportRow) : List Item :=
  [("plant_code", some row.plantCode),
    ("period_type", some row.periodType.text),
    ("period_start", some (Timestamp.utc row.periodStart).isoformat),
    ("period_end", some (Timestamp.utc row.periodEnd).isoformat),
    ("scope1_kgco2", some (numberText row.scope1Kgco2)),
    ("scope2_kgco2", some (numberText row.scope2Kgco2)),
    ("total_kgco2", some (numberText row.totalKgco2)),
    ("carbon_intensity_kgco2_ton", row.carbonIntensityKgco2Ton.map numberText),
    ("product_ton", row.productTon.map numberText),
    ("sample_count", row.sampleCount.map toString),
    ("factors_version", row.factorsVersion)]

def packRows (pack : EsgPack) : List (List String) :=
  [["Khalij iEMS ESG Sustainability Pack"], ["Field", "Value"]] ++ pack.rows.map (fun row => [row.1, row.2]) ++
    [[], ["Scope 3 category", "kg CO₂"]] ++ pack.scope3Rows.map fun row => [row.1, (row.2.map numberText).getD ""]

def packCsv (pack : EsgPack) : Text := csvOf (packRows numberText pack)

/-! ### The shift report -/

/-- The latest reading of a plant, from the demo memory or the database. -/
structure ShiftReading where
  time : Int
  columns : ReadingRow
  source : Option String
  quality : Option String

/-- `queried` is what the query for the latest reading returned or raised, `freshness` is `none` where the check
raises. -/
def latestSnapshot (cfg : Settings) (factors : Dict String EmissionFactors) (memory : Option ShiftReading)
    (queried : Except Unit (Option ShiftReading)) (freshness : Option FreshnessStatus) (statusText : StreamStatus → String)
    (plantCode : String) : List Item :=
  let remembered := if cfg.allowDemoMemory then memory else none
  match remembered.or (queried.toOption.join) with
  | none => [("plant_code", some plantCode), ("available", some "False"), ("source", some "db")]
  | some reading =>
    let r := reading.columns
    let scopes := computeScopesOf factors cfg (orNumber r.fuelGasFlowKm3h 0) (orNumber r.steamFlowTonh 0)
      (orNumber r.electricityPowerMw 0) (orNumber r.feedFlowTonh 1) 1 (some plantCode)
    [("plant_code", some plantCode),
      ("available", some "True"),
      ("source", reading.source),
      ("quality", reading.quality),
      ("as_of", some (timeText reading.time)),
      ("electricity_power_mw", r.electricityPowerMw.map numberText),
      ("fuel_gas_flow_km3h", r.fuelGasFlowKm3h.map numberText),
      ("steam_flow_tonh", r.steamFlowTonh.map numberText),
      ("feed_flow_tonh", r.feedFlowTonh.map numberText),
      ("energy_intensity_kgoe_ton", r.energyIntensityKgoeTon.map numberText),
      ("energy_efficiency_percent", r.energyEfficiencyPercent.map numberText),
      ("scope1_kgco2", some (numberText scopes.scope1Kgco2)),
      ("scope2_kgco2", some (numberText scopes.scope2Kgco2)),
      ("carbon_intensity_kgco2_ton", some (numberText scopes.carbonIntensityKgco2Ton)),
      ("stream_status", freshness.map fun status => statusText status.status),
      ("data_age_seconds", (freshness.bind FreshnessStatus.ageSeconds).map numberText)]

def shiftReportCsv (generated : String) (snapshot : List Item) : Text :=
  csvOf (["field", "value"] :: ["generated_at", generated] :: snapshot.map fun item => [item.1, item.2.getD ""])

end

/-! ### Reading back -/

theorem read_csvOf (rows : List (List String)) : Csv.read excel (csvOf rows) = rows.map texts := Csv.read_write excel _

def itemTexts (items : List Item) : List (Text × Text) :=
  items.map fun item => (Text.ofString item.1, Text.ofString (item.2.getD ""))

theorem readDict_csvOf (header : List String) (rows : List (List String)) :
    readDict (csvOf (header :: rows)) = rows.map fun row => (texts header).zip (texts row) := by
  unfold readDict
  rw [read_csvOf, List.map_cons]
  exact List.map_map

theorem readDict_dictCsv (items : List Item) : readDict (dictCsv items) = [itemTexts items] := by
  unfold dictCsv
  rw [readDict_csvOf]
  simp only [List.map_cons, List.map_nil, texts, List.map_map, itemTexts, List.zip_map', Function.comp_def]

theorem readDict_shiftReportCsv (generated : String) (snapshot : List Item) :
    readDict (shiftReportCsv generated snapshot) = (("generated_at", some generated) :: snapshot).map fun item =>
      itemTexts [("field", some item.1), ("value", item.2)] := by
  unfold shiftReportCsv
  rw [readDict_csvOf, List.map_cons, List.map_cons, List.map_map]
  rfl

theorem read_packCsv (numberText : ℚ → String) (pack : EsgPack) :
    Csv.read excel (packCsv numberText pack) = (packRows numberText pack).map texts := read_csvOf _

/-- The rows between the two headings, as pairs. -/
def fieldRows (count : Nat) (rows : List (List Text)) : List (Text × Text) :=
  ((rows.drop 2).take count).filterMap fun row =>
    match row with
    | [field, value] => some (field, value)
    | _ => none

theorem fieldRows_packRows (numberText : ℚ → String) (pack : EsgPack) :
    fieldRows pack.rows.length ((packRows numberText pack).map texts) = pack.textRows := by
  have pairs : ∀ rows : List (String × String), ((rows.map fun row => [row.1, row.2]).map texts).filterMap (fun row =>
      match row with
      | [field, value] => some (field, value)
      | _ => none) = rows.map fun row => (Text.ofString row.1, Text.ofString row.2) := by
    intro rows
    induction rows with
    | nil => rfl
    | cons row rest ih => exact congrArg _ ih
  unfold fieldRows packRows EsgPack.textRows
  rw [List.append_assoc, List.append_assoc, List.map_append, List.drop_left' (by simp), List.map_append,
    List.take_left' (by simp)]
  exact pairs pack.rows

/-- Every text that is handed out as CSV is read back cell for cell, whatever the names and codes in it, and the two
forms of an ESG pack carry the same rows. -/
theorem csv_read_back (numberText : ℚ → String) (timeText : Int → String) (cfg : Settings) (generated : String) (id : Nat)
    (report : CarbonReport) (plantCode : String) (breakdown : CarbonBreakdown) (aggregates : AggregateTotals)
    (factors : Dict String EmissionFactors) (memory : Option ShiftReading) (queried : Except Unit (Option ShiftReading))
    (freshness : Option FreshnessStatus) (statusText : StreamStatus → String) :
    let download := downloadItems numberText timeText (downloadReport id report plantCode)
    let exported := exportItems numberText (writeExports plantCode id report breakdown aggregates).csv
    let pack := buildEsgPack cfg generated id report plantCode
    let snapshot := latestSnapshot numberText timeText cfg factors memory queried freshness statusText plantCode
    readDict (dictCsv download) = [itemTexts download] ∧ readDict (dictCsv exported) = [itemTexts exported] ∧
      Csv.read excel (packCsv numberText pack) = (packRows numberText pack).map texts ∧
      readTable (tableRows pack.textRows) =
        some (fieldRows pack.rows.length (Csv.read excel (packCsv numberText pack))) ∧
      readDict (shiftReportCsv generated snapshot) =
        (("generated_at", some generated) :: snapshot).map fun item =>
          itemTexts [("field", some item.1), ("value", item.2)] := by
  intro download exported pack snapshot
  refine ⟨readDict_dictCsv download, readDict_dictCsv exported, read_packCsv numberText pack, ?_,
    readDict_shiftReportCsv generated snapshot⟩
  rw [read_packCsv, fieldRows_packRows]
  exact readTable_tableRows _

end Iems.Api
