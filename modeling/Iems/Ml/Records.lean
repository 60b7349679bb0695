import Iems.Lib.Dict
import Iems.Lib.Raising
import Iems.Ml.Dataset
import Iems.Services.Physics

/-! The records that a dataset is framed from, and what a null in a stored reading does to the whole of it. -/
namespace Iems.Ml
open Lib Services

/-- A record by its keys; a null is a present key without a number. -/
abbrev Record := Dict String (Option ℚ)

def targetColumns : List String := ["energy_intensity_kgoe_ton", "carbon_emission_kgco2_ton"]

def floatError : TrainError := .other "float() argument must be a string or a real number, not 'NoneType'"

/-- `float(value)`. -/
def toFloat : Option ℚ → Except TrainError ℚ
  | none => .error floatError
  | some value => .ok value

/-- One turn of the loop of `_frame_from_records`; `none` where it continues without a row. -/
def frameRow (record : Record) : Except TrainError (Option Sample) := do
  match ← (featureColumns.filterMap record.get?).mapM toFloat with
  | [power, fuel, steam, feed, temp] =>
    match targetColumns.filterMap record.get? with
    | [intensity, carbon] => return some ⟨power, fuel, steam, feed, temp, ← toFloat intensity, ← toFloat carbon⟩
    | _ =>
      let derived := enrichReading power fuel steam feed temp
      return some ⟨power, fuel, steam, feed, temp, derived.energyIntensityKgoeTon, derived.carbonEmissionKgco2Ton⟩
  | _ => return none

def frameFromRecords (records : List Record) : Except TrainError (List Sample) := do
  return (← records.mapM frameRow).filterMap id

/-- The record that is built of a row has every key. -/
def recordOf (r : PlantReading) : Record where
  items := [("electricity_power_mw", r.electricityPowerMw), ("fuel_gas_flow_km3h", r.fuelGasFlowKm3h),
    ("steam_flow_tonh", r.steamFlowTonh), ("feed_flow_tonh", r.feedFlowTonh), ("reactor_temp_c", r.reactorTempC),
    ("energy_intensity_kgoe_ton", r.energyIntensityKgoeTon), ("carbon_emission_kgco2_ton", r.carbonEmissionKgco2Ton)]
  distinct := by simp

section
variable (readings : List PlantReading) (now : Int) (plantCode : String) (limit : Nat) (lookbackHours : Int)

/-- The rows of the query, oldest first. -/
def selectedReadings : List PlantReading :=
  let since := now - lookbackHours * 3600000000
  let rows := readings.filter fun r => r.plantCode = plantCode ∧ since ≤ r.time
  ((rows.insertionSort fun a b => b.time ≤ a.time).take limit).reverse

/-- `load_db_dataset` over its records. -/
def loadRecords : Except TrainError (Option MLDataset) :=
  let rows := selectedReadings readings now plantCode limit lookbackHours
  if rows = [] then .ok none
  else
    match frameFromRecords (rows.map recordOf) with
    | .error raised => .error raised
    | .ok frame => .ok (if frame = [] then none else some { frame := frame, source := "timescaledb", plantCode := plantCode })

end

/-! ### The records of stored rows -/

/-- With every key present a null raises, whichever column it is in. -/
theorem frameRow_recordOf (r : PlantReading) : frameRow (recordOf r) =
    match sampleOf r with
    | none => .error floatError
    | some sample => .ok (some sample) := by
  have features : featureColumns.filterMap (recordOf r).get? =
      [r.electricityPowerMw, r.fuelGasFlowKm3h, r.steamFlowTonh, r.feedFlowTonh, r.reactorTempC] := rfl
  have targets : targetColumns.filterMap (recordOf r).get? = [r.energyIntensityKgoeTon, r.carbonEmissionKgco2Ton] := rfl
  unfold frameRow sampleOf
  rw [features, targets]
  cases r.electricityPowerMw with
  | none => rfl
  | some power =>
    cases r.fuelGasFlowKm3h with
    | none => rfl
    | some fuel =>
      cases r.steamFlowTonh with
      | none => rfl
      | some steam =>
        cases r.feedFlowTonh with
        | none => rfl
        | some feed =>
          cases r.reactorTempC with
          | none => rfl
          | some temp =>
            cases r.energyIntensityKgoeTon with
            | none => rfl
            | some intensity => cases r.carbonEmissionKgco2Ton <;> rfl

theorem frameRows_recordOf (rows : List PlantReading) : (rows.map recordOf).mapM frameRow =
    match rows.mapM sampleOf with
    | none => .error floatError
    | some frame => .ok (frame.map some) := by
  induction rows with
  | nil => rfl
  | cons r rest ih =>
    rw [List.map_cons, List.mapM_cons, List.mapM_cons, frameRow_recordOf, ih]
    cases sampleOf r with
    | none => rfl
    | some sample => cases rest.mapM sampleOf <;> rfl

theorem frameFromRecords_rows (rows : List PlantReading) : frameFromRecords (rows.map recordOf) =
    match rows.mapM sampleOf with
    | none => .error floatError
    | some frame => .ok frame := by
  unfold frameFromRecords
  rw [frameRows_recordOf]
  cases rows.mapM sampleOf with
  | none => rfl
  | some frame =>
    show Except.ok ((frame.map some).filterMap id) = .ok frame
    rw [List.filterMap_map]
    exact congrArg _ List.filterMap_some

section
variable {readings : List PlantReading} {now : Int} {plantCode : String} {limit : Nat} {lookbackHours : Int}

theorem loadDbDataset_selected : loadDbDataset readings now plantCode limit lookbackHours =
    match (selectedReadings readings now plantCode limit lookbackHours).mapM sampleOf with
    | none => .error floatError
    | some frame =>
      .ok (if frame = [] then none else some { frame := frame, source := "timescaledb", plantCode := plantCode }) := by
  unfold loadDbDataset selectedReadings
  dsimp only
  split
  · rename_i none_
    rw [none_]
    rfl
  · rename_i some_
    cases framed : (List.take limit (List.insertionSort (fun a b : PlantReading => b.time ≤ a.time) (readings.filter
      fun r => r.plantCode = plantCode ∧ now - lookbackHours * 3600000000 ≤ r.time))).reverse.mapM sampleOf with
    | none => rfl
    | some frame =>
      have nonempty : frame ≠ [] := by
        rintro rfl
        have none_ := List.map_eq_nil_iff.mp (mapM_eq_some.mp framed)
        exact some_ (List.reverse_eq_nil_iff.mp none_)
      dsimp only
      rw [if_neg nonempty]

/-- The dataset of the stored rows is the one that is framed from their records. -/
theorem loadDbDataset_records : loadDbDataset readings now plantCode limit lookbackHours =
    loadRecords readings now plantCode limit lookbackHours := by
  rw [loadDbDataset_selected]
  unfold loadRecords
  dsimp only
  rw [frameFromRecords_rows]
  split_ifs with none_
  · rw [none_]
    rfl
  · cases (selectedReadings readings now plantCode limit lookbackHours).mapM sampleOf <;> rfl

theorem selectedReadings_ordered (readings : List PlantReading) (now : Int) (plantCode : String) (limit : Nat)
    (lookbackHours : Int) :
    (selectedReadings readings now plantCode limit lookbackHours).Pairwise fun a b => a.time ≤ b.time := by
  unfold selectedReadings
  rw [List.pairwise_reverse]
  exact (List.pairwise_insertionSort _ _).sublist (List.take_sublist _ _)

end

/-! ### The rows that can be used -/

/-- No feature and no target of the row is null. -/
def PlantReading.Complete (r : PlantReading) : Prop :=
  none ∉ [r.electricityPowerMw, r.fuelGasFlowKm3h, r.steamFlowTonh, r.feedFlowTonh, r.reactorTempC,
    r.energyIntensityKgoeTon, r.carbonEmissionKgco2Ton]

/-- The sample of a row that has its five features, with derived targets where the row has none. -/
def usableSample (r : PlantReading) : Option Sample := do
  let power ← r.electricityPowerMw
  let fuel ← r.fuelGasFlowKm3h
  let steam ← r.steamFlowTonh
  let feed ← r.feedFlowTonh
  let temp ← r.reactorTempC
  let derived := enrichReading power fuel steam feed temp
  return ⟨power, fuel, steam, feed, temp, r.energyIntensityKgoeTon.getD derived.energyIntensityKgoeTon,
    r.carbonEmissionKgco2Ton.getD derived.carbonEmissionKgco2Ton⟩

/-- What loading is to return: the usable rows, and nothing where there are none. -/
def usableDataset (plantCode : String) (rows : List PlantReading) : Option MLDataset :=
  let frame := rows.filterMap usableSample
  if frame = [] then none else some { frame := frame, source := "timescaledb", plantCode := plantCode }

theorem sampleOf_eq_some {r : PlantReading} {sample : Sample} : sampleOf r = some sample ↔
    r.electricityPowerMw = some sample.electricityPowerMw ∧ r.fuelGasFlowKm3h = some sample.fuelGasFlowKm3h ∧
      r.steamFlowTonh = some sample.steamFlowTonh ∧ r.feedFlowTonh = some sample.feedFlowTonh ∧
      r.reactorTempC = some sample.reactorTempC ∧ r.energyIntensityKgoeTon = some sample.energyIntensityKgoeTon ∧
      r.carbonEmissionKgco2Ton = some sample.carbonEmissionKgco2Ton := by
  obtain ⟨power, fuel, steam, feed, temp, intensity, carbon⟩ := sample
  simp only [sampleOf, Option.bind_eq_bind, Option.bind_eq_some_iff, Option.pure_def, Option.some.injEq, Sample.mk.injEq]
  constructor
  · rintro ⟨_, r1, _, r2, _, r3, _, r4, _, r5, _, r6, _, r7, rfl, rfl, rfl, rfl, rfl, rfl, rfl⟩
    exact ⟨r1, r2, r3, r4, r5, r6, r7⟩
  · rintro ⟨r1, r2, r3, r4, r5, r6, r7⟩
    exact ⟨_, r1, _, r2, _, r3, _, r4, _, r5, _, r6, _, r7, rfl, rfl, rfl, rfl, rfl, rfl, rfl⟩

theorem complete_iff {r : PlantReading} : r.Complete ↔ ∃ sample, sampleOf r = some sample := by
  unfold PlantReading.Complete
  constructor
  · intro complete
    have held (value : Option ℚ) (listed : value ∈ [r.electricityPowerMw, r.fuelGasFlowKm3h, r.steamFlowTonh,
        r.feedFlowTonh, r.reactorTempC, r.energyIntensityKgoeTon, r.carbonEmissionKgco2Ton]) : ∃ x, value = some x := by
      apply Option.ne_none_iff_exists'.mp
      rintro rfl
      exact complete listed
    obtain ⟨power, r1⟩ := held r.electricityPowerMw (by simp)
    obtain ⟨fuel, r2⟩ := held r.fuelGasFlowKm3h (by simp)
    obtain ⟨steam, r3⟩ := held r.steamFlowTonh (by simp)
    obtain ⟨feed, r4⟩ := held r.feedFlowTonh (by simp)
    obtain ⟨temp, r5⟩ := held r.reactorTempC (by simp)
    obtain ⟨intensity, r6⟩ := held r.energyIntensityKgoeTon (by simp)
    obtain ⟨carbon, r7⟩ := held r.carbonEmissionKgco2Ton (by simp)
    exact ⟨⟨power, fuel, steam, feed, temp, intensity, carbon⟩, sampleOf_eq_some.mpr ⟨r1, r2, r3, r4, r5, r6, r7⟩⟩
  · rintro ⟨sample, framed⟩
    obtain ⟨r1, r2, r3, r4, r5, r6, r7⟩ := sampleOf_eq_some.mp framed
    simp [r1, r2, r3, r4, r5, r6, r7]

theorem usableSample_complete {r : PlantReading} {sample : Sample} (complete : sampleOf r = some sample) :
    usableSample r = some sample := by
  obtain ⟨r1, r2, r3, r4, r5, r6, r7⟩ := sampleOf_eq_some.mp complete
  unfold usableSample
  rw [r1, r2, r3, r4, r5, r6, r7]
  rfl

theorem sampleOf_framed {rows : List PlantReading} {frame : List Sample} (framed : rows.mapM sampleOf = some frame)
    {r : PlantReading} (member : r ∈ rows) : ∃ sample, sampleOf r = some sample := by
  have listed := List.mem_map_of_mem (f := sampleOf) member
  rw [mapM_eq_some.mp framed] at listed
  obtain ⟨sample, _, same⟩ := List.mem_map.mp listed
  exact ⟨sample, same.symm⟩

theorem usableDataset_complete {rows : List PlantReading} {frame : List Sample} (framed : rows.mapM sampleOf = some frame)
    (plantCode : String) : usableDataset plantCode rows =
      if frame = [] then none else some { frame := frame, source := "timescaledb", plantCode := plantCode } := by
  have same : rows.map usableSample = frame.map some := by
    rw [← mapM_eq_some.mp framed]
    refine List.map_congr_left fun r member => ?_
    obtain ⟨sample, complete⟩ := sampleOf_framed framed member
    rw [complete, usableSample_complete complete]
  have usable : rows.filterMap usableSample = frame := by
    calc rows.filterMap usableSample
        = (rows.map usableSample).filterMap id := by rw [List.filterMap_map]; rfl
      _ = frame := by rw [same, List.filterMap_map]; exact List.filterMap_some
  unfold usableDataset
  rw [usable]

/-- Loading returns the usable rows, in the order of time, exactly where no selected row has a null. -/
theorem loadDbDataset_usable_iff (readings : List PlantReading) (now : Int) (plantCode : String) (limit : Nat)
    (lookbackHours : Int) :
    (selectedReadings readings now plantCode limit lookbackHours).Pairwise (fun a b => a.time ≤ b.time) ∧
      (loadDbDataset readings now plantCode limit lookbackHours =
          .ok (usableDataset plantCode (selectedReadings readings now plantCode limit lookbackHours)) ↔
        ∀ r ∈ selectedReadings readings now plantCode limit lookbackHours, r.Complete) := by
  refine ⟨selectedReadings_ordered _ _ _ _ _, ?_⟩
  rw [loadDbDataset_selected]
  cases framed : (selectedReadings readings now plantCode limit lookbackHours).mapM sampleOf with
  | none =>
    constructor
    · intro loaded
      cases loaded
    · intro complete
      obtain ⟨frame, all⟩ := mapM_exists fun r member => complete_iff.mp (complete r member)
      rw [framed] at all
      cases all
  | some frame =>
    dsimp only
    rw [usableDataset_complete framed]
    exact iff_of_true rfl fun r member => complete_iff.mpr (sampleOf_framed framed member)

/-- One reading whose power tag was bad, after a good one. -/
def badPower : List PlantReading :=
  [⟨0, "olefin", some 15, some 100, some 30, some 100, some 400, some 600, some 50⟩,
    ⟨1000000, "olefin", none, some 100, some 30, some 100, some 400, none, none⟩]

/-- The row without power is to be left out, and its null fails the whole load. -/
theorem bad_row_raises : loadDbDataset badPower 2000000 "olefin" 5000 24 = .error floatError ∧
    loadDbDataset badPower 2000000 "olefin" 5000 24 ≠
      .ok (usableDataset "olefin" (selectedReadings badPower 2000000 "olefin" 5000 24)) := by
  have raised : loadDbDataset badPower 2000000 "olefin" 5000 24 = .error floatError := by
    have framed : (selectedReadings badPower 2000000 "olefin" 5000 24).mapM sampleOf = none := by decide +kernel
    rw [loadDbDataset_selected, framed]
  refine ⟨raised, ?_⟩
  rw [raised]
  intro loaded
  cases loaded

end Iems.Ml
