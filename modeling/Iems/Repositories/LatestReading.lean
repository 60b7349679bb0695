import Iems.Repositories.Sensors

/-! The latest stored reading of a plant, by payload time. -/
namespace Iems.Repositories
open Lib

section
variable (plants : Dict String Nat) (table : SensorTable)

def plantRows (plantId : Nat) : List ((Int × Nat) × SensorRow) := table.items.filter fun item => item.1.2 = plantId

/-- The row of greatest time, with that time. -/
def getLatestReading (plantCode : String) : Option (Int × SensorRow) := do
  let plantId ← plants.get? plantCode
  let item ← (plantRows table plantId).maxOn? fun item => item.1.1
  return (item.1.1, item.2)

/-- Instants are in microseconds. -/
def readingAgeSeconds (plantCode : String) (now : Int) : Option ℚ :=
  (getLatestReading plants table plantCode).map fun latest => ((now - latest.1 : Int) : ℚ) / 1000000

end

variable {plants : Dict String Nat} {table : SensorTable} {plantCode : String} {plantId : Nat}

theorem mem_plantRows {ts : Int} {other : Nat} {row : SensorRow} :
    ((ts, other), row) ∈ plantRows table plantId ↔ table.get? (ts, plantId) = some row ∧ other = plantId := by
  unfold plantRows
  rw [List.mem_filter, Dict.get?_iff_mem]
  constructor
  · rintro ⟨member, same⟩
    obtain rfl : other = plantId := by simpa using same
    exact ⟨member, rfl⟩
  · rintro ⟨member, rfl⟩
    exact ⟨member, by simp⟩

theorem getLatestReading_some (known : plants.get? plantCode = some plantId) {ts : Int} {row : SensorRow}
    (latest : getLatestReading plants table plantCode = some (ts, row)) :
    table.get? (ts, plantId) = some row ∧ ∀ other, (other, plantId) ∈ table.keys → other ≤ ts := by
  unfold getLatestReading at latest
  rw [known] at latest
  simp only [Option.bind_eq_bind, Option.bind_some] at latest
  obtain ⟨⟨⟨ts', held⟩, row'⟩, greatest, same⟩ := Option.bind_eq_some_iff.mp latest
  cases Option.some.inj same
  have member := List.maxOn?_mem greatest
  obtain ⟨stored, rfl⟩ := mem_plantRows.mp member
  refine ⟨stored, fun other present => ?_⟩
  obtain ⟨⟨key, value⟩, listed, rfl⟩ := List.mem_map.mp present
  have row := mem_plantRows.mpr ⟨table.get?_iff_mem.mpr listed, rfl⟩
  have below := List.le_apply_get_maxOn?_of_mem (f := fun item : (Int × Nat) × SensorRow => item.1.1) row
  simpa [greatest] using below

/-- Whether an upsert is accepted does not depend on the rows there are. -/
theorem upsertReading_ok_iff {instantOf : String → Option Int} {dumps : Dict String String → String}
    {payload : SensorMessage} :
    (∃ row, (upsertReading plants instantOf dumps table payload).2 = .ok row) ↔
      (rowKey plants instantOf dumps payload).isSome := by
  unfold upsertReading rowKey
  cases payload.plantCode with
  | none => simp
  | some plantCode =>
    dsimp only [Option.bind_eq_bind, Option.bind_some]
    cases plants.get? plantCode with
    | none => simp
    | some plantId =>
      dsimp only [Option.bind_some]
      cases payload.time with
      | none => simp
      | some time =>
        dsimp only [Option.bind_some]
        cases instantOf time with
        | none => simp
        | some ts =>
          dsimp only [Option.bind_some]
          unfold insertReading updateReading
          cases fits : fitsColumns (applyFields dumps {} payload) <;>
            cases present : table.get? (ts, plantId) <;> simp [applyFields_overwrites _ {} payload, fits]

/-- In a table that a log of messages filled, it has the greatest time that a message of the plant was stored under. -/
theorem getLatestReading_consumed {instantOf : String → Option Int} {dumps : Dict String String → String}
    {log : List SensorMessage} (known : plants.get? plantCode = some plantId) {ts : Int} {row : SensorRow}
    (latest : getLatestReading plants (consume plants instantOf dumps .empty log) plantCode = some (ts, row)) :
    (∃ payload ∈ log, rowKey plants instantOf dumps payload = some (ts, plantId)) ∧
      ∀ payload ∈ log, ∀ other, rowKey plants instantOf dumps payload = some (other, plantId) → other ≤ ts := by
  obtain ⟨stored, greatest⟩ := getLatestReading_some known latest
  have keys : ∀ key, key ∈ (consume plants instantOf dumps .empty log).keys ↔
      ∃ payload ∈ log, rowKey plants instantOf dumps payload = some key := by
    intro key
    rw [consume_writeLog, mem_keys_writeLog]
    simp [Dict.keys, Dict.empty]
  refine ⟨(keys _).mp ?_, ?_⟩
  · exact List.mem_map_of_mem (Dict.get?_iff_mem _ |>.mp stored)
  · intro payload member other key
    exact greatest other ((keys _).mpr ⟨payload, member, key⟩)

end Iems.Repositories
