import Iems.Lib.ExtRat
import Iems.Lib.LastWriter

/-! The sensor_readings table and its upsert, one row for each time and plant. -/
namespace Iems.Repositories
open Lib

inductive QualityDetail where
  | text (detail : String)
  | object (detail : Dict String String)
  deriving DecidableEq

/-- A decoded message of the sensor topic; a key that it lacks is `none`. -/
structure SensorMessage where
  plantCode : Option String
  time : Option String
  electricityPowerMw : Option ExtRat := none
  fuelGasFlowKm3h : Option ExtRat := none
  steamFlowTonh : Option ExtRat := none
  feedFlowTonh : Option ExtRat := none
  reactorTempC : Option ExtRat := none
  pressureBar : Option ExtRat := none
  energyIntensityKgoeTon : Option ExtRat := none
  carbonEmissionKgco2Ton : Option ExtRat := none
  energyEfficiencyPercent : Option ExtRat := none
  source : Option String := none
  quality : Option String := none
  qualityDetail : Option QualityDetail := none
  deriving DecidableEq

/-- The columns of a row beside its key. -/
structure SensorRow where
  electricityPowerMw : Option ExtRat := none
  fuelGasFlowKm3h : Option ExtRat := none
  steamFlowTonh : Option ExtRat := none
  feedFlowTonh : Option ExtRat := none
  reactorTempC : Option ExtRat := none
  pressureBar : Option ExtRat := none
  energyIntensityKgoeTon : Option ExtRat := none
  carbonEmissionKgco2Ton : Option ExtRat := none
  energyEfficiencyPercent : Option ExtRat := none
  source : Option String := none
  quality : Option String := none
  qualityDetail : Option String := none
  deriving DecidableEq

/-- Rows by instant and plant id, the key of the unique index. -/
abbrev SensorTable := Dict (Int × Nat) SensorRow

inductive UpsertError where
  | keyError (key : String)
  | valueError (message : String)
  | database
  deriving DecidableEq

section
variable (plants : Dict String Nat) (instantOf : String → Option Int) (dumps : Dict String String → String)

def qualityDetailStr (payload : SensorMessage) : Option String :=
  payload.qualityDetail.map fun
    | .text detail => detail
    | .object detail => dumps detail

def applyFields (row : SensorRow) (payload : SensorMessage) : SensorRow :=
  { row with
    electricityPowerMw := payload.electricityPowerMw
    fuelGasFlowKm3h := payload.fuelGasFlowKm3h
    steamFlowTonh := payload.steamFlowTonh
    feedFlowTonh := payload.feedFlowTonh
    reactorTempC := payload.reactorTempC
    pressureBar := payload.pressureBar
    energyIntensityKgoeTon := payload.energyIntensityKgoeTon
    carbonEmissionKgco2Ton := payload.carbonEmissionKgco2Ton
    energyEfficiencyPercent := payload.energyEfficiencyPercent
    source := payload.source
    quality := payload.quality
    qualityDetail := qualityDetailStr dumps payload }

/-- The lengths of the text columns. -/
def fitsColumns (row : SensorRow) : Bool :=
  (row.source.all fun s => s.length ≤ 32) && (row.quality.all fun q => q.length ≤ 16)

/-- The insert fails without effect on a taken key or a text that does not fit. -/
def insertReading (table : SensorTable) (key : Int × Nat) (row : SensorRow) : Option SensorTable :=
  if fitsColumns row && (table.get? key).isNone then some (table.set key row) else none

/-- After a failed insert: the existing row with the fields of the payload. -/
def updateReading (table : SensorTable) (key : Int × Nat) (payload : SensorMessage) :
    SensorTable × Except UpsertError SensorRow :=
  match table.get? key with
  | none => (table, .error .database)
  | some existing =>
    let row := applyFields dumps existing payload
    if fitsColumns row then (table.set key row, .ok row) else (table, .error .database)

/-- `instantOf` is the instant that the database takes from the text of a time, `none` where it raises. -/
def upsertReading (table : SensorTable) (payload : SensorMessage) : SensorTable × Except UpsertError SensorRow :=
  match payload.plantCode with
  | none => (table, .error (.keyError "plant_code"))
  | some plantCode =>
    match plants.get? plantCode with
    | none => (table, .error (.valueError ("Unknown plant_code: " ++ plantCode)))
    | some plantId =>
      match payload.time with
      | none => (table, .error (.keyError "time"))
      | some time =>
        match instantOf time with
        | none => (table, .error (.valueError time))
        | some ts =>
          let row := applyFields dumps {} payload
          match insertReading table (ts, plantId) row with
          | some inserted => (inserted, .ok row)
          | none => updateReading dumps table (ts, plantId) payload

/-- The consumer loop logs a message that raises and goes on. -/
def consume (table : SensorTable) (log : List SensorMessage) : SensorTable :=
  log.foldl (fun table payload => (upsertReading plants instantOf dumps table payload).1) table

/-! ### The upsert as a last-writer-wins write -/

/-- The key of the row that a message is stored in, where it can be stored. -/
def rowKey (payload : SensorMessage) : Option (Int × Nat) := do
  let plantCode ← payload.plantCode
  let plantId ← plants.get? plantCode
  let time ← payload.time
  let ts ← instantOf time
  if fitsColumns (applyFields dumps {} payload) then some (ts, plantId) else none

variable {plants instantOf dumps}

theorem applyFields_overwrites (row other : SensorRow) (payload : SensorMessage) :
    applyFields dumps row payload = applyFields dumps other payload := rfl

theorem updateReading_table (table : SensorTable) (key : Int × Nat) (payload : SensorMessage) :
    (updateReading dumps table key payload).1 =
      if fitsColumns (applyFields dumps {} payload) && (table.get? key).isSome then
        table.set key (applyFields dumps {} payload)
      else table := by
  unfold updateReading
  cases table.get? key with
  | none => simp
  | some existing =>
    simp only [applyFields_overwrites existing {} payload]
    cases fitsColumns (applyFields dumps {} payload) <;> rfl

theorem upsertReading_writeRow (table : SensorTable) (payload : SensorMessage) :
    (upsertReading plants instantOf dumps table payload).1 =
      writeRow (rowKey plants instantOf dumps) (applyFields dumps {}) table payload := by
  unfold upsertReading writeRow rowKey
  cases payload.plantCode with
  | none => rfl
  | some plantCode =>
    dsimp only [Option.bind_eq_bind, Option.bind_some]
    cases plants.get? plantCode with
    | none => rfl
    | some plantId =>
      dsimp only [Option.bind_some]
      cases payload.time with
      | none => rfl
      | some time =>
        dsimp only [Option.bind_some]
        cases instantOf time with
        | none => rfl
        | some ts =>
          -- a fresh key is inserted, a taken one updated, a text that does not fit refused by both
          dsimp only [Option.bind_some]
          unfold insertReading
          cases fits : fitsColumns (applyFields dumps {} payload) with
          | false => simp [updateReading_table, fits]
          | true => cases present : table.get? (ts, plantId) <;> simp [updateReading_table, fits, present]

theorem consume_writeLog (table : SensorTable) (log : List SensorMessage) :
    consume plants instantOf dumps table log =
      writeLog (rowKey plants instantOf dumps) (applyFields dumps {}) table log := by
  unfold consume writeLog
  congr 1
  funext table payload
  exact upsertReading_writeRow table payload

/-! ### The row of a message -/

/-- The message can be stored under the key: the plant is known, the time is an instant, the texts fit their columns. -/
structure StoredUnder (plants : Dict String Nat) (instantOf : String → Option Int) (payload : SensorMessage)
    (key : Int × Nat) : Prop where
  plant : ∃ plantCode, payload.plantCode = some plantCode ∧ plants.get? plantCode = some key.2
  time : ∃ text, payload.time = some text ∧ instantOf text = some key.1
  source : ∀ source, payload.source = some source → source.length ≤ 32
  quality : ∀ quality, payload.quality = some quality → quality.length ≤ 16

/-- The row has the twelve fields of the payload; a detail that is an object is stored as its text. -/
structure Carries (dumps : Dict String String → String) (payload : SensorMessage) (row : SensorRow) : Prop where
  electricityPowerMw : row.electricityPowerMw = payload.electricityPowerMw
  fuelGasFlowKm3h : row.fuelGasFlowKm3h = payload.fuelGasFlowKm3h
  steamFlowTonh : row.steamFlowTonh = payload.steamFlowTonh
  feedFlowTonh : row.feedFlowTonh = payload.feedFlowTonh
  reactorTempC : row.reactorTempC = payload.reactorTempC
  pressureBar : row.pressureBar = payload.pressureBar
  energyIntensityKgoeTon : row.energyIntensityKgoeTon = payload.energyIntensityKgoeTon
  carbonEmissionKgco2Ton : row.carbonEmissionKgco2Ton = payload.carbonEmissionKgco2Ton
  energyEfficiencyPercent : row.energyEfficiencyPercent = payload.energyEfficiencyPercent
  source : row.source = payload.source
  quality : row.quality = payload.quality
  noDetail : payload.qualityDetail = none → row.qualityDetail = none
  textDetail : ∀ detail, payload.qualityDetail = some (.text detail) → row.qualityDetail = some detail
  objectDetail : ∀ detail, payload.qualityDetail = some (.object detail) → row.qualityDetail = some (dumps detail)

theorem applyFields_carries (dumps : Dict String String → String) (row : SensorRow) (payload : SensorMessage) :
    Carries dumps payload (applyFields dumps row payload) := by
  constructor
  case noDetail | textDetail | objectDetail =>
    intros
    simp [applyFields, qualityDetailStr, *]
  all_goals rfl

theorem rowKey_iff {payload : SensorMessage} {key : Int × Nat} :
    rowKey plants instantOf dumps payload = some key ↔ StoredUnder plants instantOf payload key := by
  have fits : fitsColumns (applyFields dumps {} payload) = true ↔
      (∀ source, payload.source = some source → source.length ≤ 32) ∧
        ∀ quality, payload.quality = some quality → quality.length ≤ 16 := by
    simp [fitsColumns, applyFields, Option.all_eq_true]
  unfold rowKey
  constructor
  · intro keyed
    simp only [Option.bind_eq_bind, Option.bind_eq_some_iff] at keyed
    obtain ⟨plantCode, named, plantId, known, text, timed, ts, instant, rest⟩ := keyed
    split at rest
    · rename_i short
      cases rest
      exact ⟨⟨plantCode, named, known⟩, ⟨text, timed, instant⟩, (fits.mp short).1, (fits.mp short).2⟩
    · cases rest
  · rintro ⟨⟨plantCode, named, known⟩, ⟨text, timed, instant⟩, source, quality⟩
    simp [named, known, timed, instant, fits.mpr ⟨source, quality⟩]

end

def olefinMessage (power : ℚ) : SensorMessage :=
  { plantCode := some "olefin"
    time := some "2026-07-01T12:00:00+00:00"
    electricityPowerMw := some (.finite power) }

def onePlant : Dict String Nat := Dict.empty.set "olefin" 1

end Iems.Repositories
