import Iems.Lib.Dict
import Iems.Lib.Mean
import Mathlib.Algebra.Order.Ring.Rat
import Mathlib.Tactic.Linarith
import Mathlib.Tactic.NormNum
import Mathlib.Tactic.Ring

/-! Period totals of the sensor stream, and when they add up over a split of the period. -/
namespace Iems.Carbon
open Lib

/-- A sensor row with the columns the reports read; `time` is in microseconds. -/
structure SensorReading where
  time : Int
  plantId : Nat
  electricityPowerMw : Option ℚ
  fuelGasFlowKm3h : Option ℚ
  steamFlowTonh : Option ℚ
  feedFlowTonh : Option ℚ
  deriving DecidableEq

structure AggregateTotals where
  sampleCount : Nat
  fuelGasKm3 : ℚ
  steamTon : ℚ
  electricityMwh : ℚ
  productTon : ℚ
  meanFuelGasFlowKm3h : ℚ
  meanSteamFlowTonh : ℚ
  meanElectricityPowerMw : ℚ
  meanFeedFlowTonh : ℚ
  deriving DecidableEq

inductive CarbonError where
  | valueError (message : String)
  | keyError (message : String)
  | assurance (message : String)
  | integrity
  | dateRange
  deriving DecidableEq

def readingsIn (readings : List SensorReading) (plantId : Nat) (start end_ : Int) : List SensorReading :=
  readings.filter fun r => r.plantId = plantId ∧ start ≤ r.time ∧ r.time < end_

/-- `func.avg`, which skips nulls and is null without samples. -/
def sqlAvg (values : List (Option ℚ)) : Option ℚ :=
  let samples := values.filterMap id
  if samples = [] then none else some (samples.sum / samples.length)

/-- `max((end - start).total_seconds() / 3600.0, 1e-9)`. -/
def durationHours (start end_ : Int) : ℚ :=
  max (((end_ - start : Int) : ℚ) / 1000000 / 3600) (1 / 1000000000)

/-- `plants` maps plant codes to ids. -/
def aggregateSensorPeriod (plants : Dict String Nat) (readings : List SensorReading)
    (plantCode : String) (start end_ : Int) : Except CarbonError (Option AggregateTotals) :=
  match plants.get? plantCode with
  | none => .error (.valueError ("Unknown plant_code: " ++ plantCode))
  | some plantId =>
    let rows := readingsIn readings plantId start end_
    if rows.length = 0 then .ok none
    else
      let meanFuel := (sqlAvg (rows.map (·.fuelGasFlowKm3h))).getD 0
      let meanSteam := (sqlAvg (rows.map (·.steamFlowTonh))).getD 0
      let meanPower := (sqlAvg (rows.map (·.electricityPowerMw))).getD 0
      let meanFeed := (sqlAvg (rows.map (·.feedFlowTonh))).getD 0
      let hours := durationHours start end_
      .ok (some
        { sampleCount := rows.length
          fuelGasKm3 := meanFuel * hours
          steamTon := meanSteam * hours
          electricityMwh := meanPower * hours
          productTon := meanFeed * hours
          meanFuelGasFlowKm3h := meanFuel
          meanSteamFlowTonh := meanSteam
          meanElectricityPowerMw := meanPower
          meanFeedFlowTonh := meanFeed })

/-! ### Additivity -/

def samplesIn (readings : List SensorReading) (plantId : Nat) (flow : SensorReading → Option ℚ)
    (start end_ : Int) : List ℚ :=
  (readingsIn readings plantId start end_).filterMap flow

/-- The sample means and counts of the two parts balance over their durations. -/
def Balanced (readings : List SensorReading) (plantId : Nat) (flow : SensorReading → Option ℚ)
    (a b c : Int) : Prop :=
  let early := samplesIn readings plantId flow a b
  let late := samplesIn readings plantId flow b c
  (average early - average late) *
      (early.length * durationHours b c - late.length * durationHours a b) =
    (durationHours a b + durationHours b c - durationHours a c) * (early.sum + late.sum)

structure Additive (early late whole : AggregateTotals) : Prop where
  fuel : whole.fuelGasKm3 = early.fuelGasKm3 + late.fuelGasKm3
  steam : whole.steamTon = early.steamTon + late.steamTon
  electricity : whole.electricityMwh = early.electricityMwh + late.electricityMwh
  product : whole.productTon = early.productTon + late.productTon

theorem sqlAvg_getD (values : List (Option ℚ)) : (sqlAvg values).getD 0 = average (values.filterMap id) := by
  unfold sqlAvg
  dsimp only
  split
  · rename_i none_
    rw [none_, average_nil]
    rfl
  · rfl

theorem sqlAvg_rows (rows : List SensorReading) (flow : SensorReading → Option ℚ) :
    (sqlAvg (rows.map flow)).getD 0 = average (rows.filterMap flow) := by
  rw [sqlAvg_getD, List.filterMap_map]
  rfl

theorem readingsIn_split (readings : List SensorReading) (plantId : Nat) {a b c : Int} (ab : a < b)
    (bc : b < c) : (readingsIn readings plantId a b ++ readingsIn readings plantId b c).Perm
      (readingsIn readings plantId a c) := by
  have parts := List.filter_append_perm (fun r : SensorReading => decide (r.time < b))
    (readingsIn readings plantId a c)
  have early : (readingsIn readings plantId a c).filter (fun r => decide (r.time < b)) =
      readingsIn readings plantId a b := by
    unfold readingsIn
    rw [List.filter_filter]
    apply List.filter_congr
    intro r _
    rw [← Bool.decide_and, decide_eq_decide]
    constructor
    · rintro ⟨before, own, after, _⟩
      exact ⟨own, after, before⟩
    · rintro ⟨own, after, before⟩
      exact ⟨before, own, after, by omega⟩
  have late : (readingsIn readings plantId a c).filter (fun r => !decide (r.time < b)) =
      readingsIn readings plantId b c := by
    unfold readingsIn
    rw [List.filter_filter]
    apply List.filter_congr
    intro r _
    rw [← decide_not, ← Bool.decide_and, decide_eq_decide]
    constructor
    · rintro ⟨after, own, _, before⟩
      exact ⟨own, by omega, before⟩
    · rintro ⟨own, after, before⟩
      exact ⟨by omega, own, by omega, before⟩
  rwa [early, late] at parts

theorem flow_additive_iff (readings : List SensorReading) (plantId : Nat)
    (flow : SensorReading → Option ℚ) {a b c : Int} (ab : a < b) (bc : b < c) :
    average (samplesIn readings plantId flow a c) * durationHours a c =
        average (samplesIn readings plantId flow a b) * durationHours a b +
          average (samplesIn readings plantId flow b c) * durationHours b c ↔
      Balanced readings plantId flow a b c := by
  have split : (samplesIn readings plantId flow a b ++ samplesIn readings plantId flow b c).Perm
      (samplesIn readings plantId flow a c) := by
    unfold samplesIn
    rw [← List.filterMap_append]
    exact (readingsIn_split readings plantId ab bc).filterMap flow
  rw [← average_perm split]
  exact average_append_mul_iff _ _ _ _ _

theorem durationHours_long {start end_ : Int} (long : start + 4 ≤ end_) :
    durationHours start end_ = ((end_ - start : Int) : ℚ) / 3600000000 := by
  have micros : (4 : ℚ) ≤ ((end_ - start : Int) : ℚ) := by
    have whole : (4 : Int) ≤ end_ - start := by omega
    exact_mod_cast whole
  unfold durationHours
  rw [max_eq_left (by linarith)]
  ring

/-- Over parts of at least four microseconds the balance is equal means or equal sampling rates. -/
theorem balanced_iff {readings : List SensorReading} {plantId : Nat} {flow : SensorReading → Option ℚ}
    {a b c : Int} (ab : a + 4 ≤ b) (bc : b + 4 ≤ c) : Balanced readings plantId flow a b c ↔
      average (samplesIn readings plantId flow a b) = average (samplesIn readings plantId flow b c) ∨
        ((samplesIn readings plantId flow a b).length : ℚ) * ((c - b : Int) : ℚ) =
          (samplesIn readings plantId flow b c).length * ((b - a : Int) : ℚ) := by
  have durations : durationHours a b + durationHours b c - durationHours a c = 0 := by
    rw [durationHours_long ab, durationHours_long bc, durationHours_long (by omega)]
    push_cast
    ring
  unfold Balanced
  dsimp only
  rw [durations, zero_mul, mul_eq_zero, sub_eq_zero, durationHours_long ab, durationHours_long bc]
  apply or_congr Iff.rfl
  constructor
  · intro balanced
    linear_combination 3600000000 * balanced
  · intro rates
    linear_combination rates / 3600000000

section
variable {plants : Dict String Nat} {readings : List SensorReading} {plantCode : String} {plantId : Nat}

theorem aggregate_totals (known : plants.get? plantCode = some plantId) {start end_ : Int}
    (some_ : readingsIn readings plantId start end_ ≠ []) :
    ∃ totals, aggregateSensorPeriod plants readings plantCode start end_ = .ok (some totals) ∧
      totals.fuelGasKm3 =
        average (samplesIn readings plantId (·.fuelGasFlowKm3h) start end_) * durationHours start end_ ∧
      totals.steamTon =
        average (samplesIn readings plantId (·.steamFlowTonh) start end_) * durationHours start end_ ∧
      totals.electricityMwh =
        average (samplesIn readings plantId (·.electricityPowerMw) start end_) * durationHours start end_ ∧
      totals.productTon =
        average (samplesIn readings plantId (·.feedFlowTonh) start end_) * durationHours start end_ := by
  have count : (readingsIn readings plantId start end_).length ≠ 0 := by
    intro zero
    exact some_ (List.length_eq_zero_iff.mp zero)
  unfold aggregateSensorPeriod
  rw [known]
  dsimp only
  rw [if_neg count]
  refine ⟨_, rfl, ?_, ?_, ?_, ?_⟩ <;> exact congrArg (· * _) (sqlAvg_rows _ _)

/-- The totals of a period are additive over a split exactly when every flow is balanced over it. -/
theorem totals_additive_iff (known : plants.get? plantCode = some plantId) {a b c : Int} (ab : a < b)
    (bc : b < c) (first : readingsIn readings plantId a b ≠ [])
    (second : readingsIn readings plantId b c ≠ []) :
    ∃ early late whole, aggregateSensorPeriod plants readings plantCode a b = .ok (some early) ∧
      aggregateSensorPeriod plants readings plantCode b c = .ok (some late) ∧
      aggregateSensorPeriod plants readings plantCode a c = .ok (some whole) ∧
      (Additive early late whole ↔
        Balanced readings plantId (·.fuelGasFlowKm3h) a b c ∧
        Balanced readings plantId (·.steamFlowTonh) a b c ∧
        Balanced readings plantId (·.electricityPowerMw) a b c ∧
        Balanced readings plantId (·.feedFlowTonh) a b c) := by
  have third : readingsIn readings plantId a c ≠ [] := by
    intro none_
    have split := readingsIn_split readings plantId ab bc
    rw [none_] at split
    exact first (List.append_eq_nil_iff.mp split.eq_nil).1
  obtain ⟨early, ranEarly, fuel₁, steam₁, power₁, feed₁⟩ := aggregate_totals known first
  obtain ⟨late, ranLate, fuel₂, steam₂, power₂, feed₂⟩ := aggregate_totals known second
  obtain ⟨whole, ranWhole, fuel, steam, power, feed⟩ := aggregate_totals known third
  refine ⟨early, late, whole, ranEarly, ranLate, ranWhole, ?_⟩
  rw [← flow_additive_iff readings plantId _ ab bc, ← flow_additive_iff readings plantId _ ab bc,
    ← flow_additive_iff readings plantId _ ab bc, ← flow_additive_iff readings plantId _ ab bc,
    ← fuel, ← fuel₁, ← fuel₂, ← steam, ← steam₁, ← steam₂, ← power, ← power₁, ← power₂, ← feed, ← feed₁,
    ← feed₂]
  constructor
  · intro additive
    exact ⟨additive.fuel, additive.steam, additive.electricity, additive.product⟩
  · rintro ⟨fuel, steam, power, feed⟩
    exact ⟨fuel, steam, power, feed⟩

end

def olefinPlants : Dict String Nat := ⟨[("olefin", 1)], by simp⟩

def olefinSample (time : Int) (fuelGasFlowKm3h : ℚ) : SensorReading where
  time := time
  plantId := 1
  electricityPowerMw := some 15
  fuelGasFlowKm3h := some fuelGasFlowKm3h
  steamFlowTonh := some 30
  feedFlowTonh := some 100

def unevenSamples : List SensorReading :=
  [olefinSample 0 10, olefinSample 3600000000 0, olefinSample 5400000000 0]

theorem totals_additive_even :
    ∃ early late whole,
      aggregateSensorPeriod olefinPlants (unevenSamples.take 2) "olefin" 0 3600000000 =
        .ok (some early) ∧
      aggregateSensorPeriod olefinPlants (unevenSamples.take 2) "olefin" 3600000000 7200000000 =
        .ok (some late) ∧
      aggregateSensorPeriod olefinPlants (unevenSamples.take 2) "olefin" 0 7200000000 =
        .ok (some whole) ∧ Additive early late whole := by
  obtain ⟨early, late, whole, first, second, third, iff_⟩ :=
    @totals_additive_iff olefinPlants (unevenSamples.take 2) "olefin" 1 rfl 0 3600000000 7200000000
      (by decide) (by decide) (by decide +kernel) (by decide +kernel)
  refine ⟨early, late, whole, first, second, third, iff_.mpr ?_⟩
  have even : ∀ flow : SensorReading → Option ℚ,
      (samplesIn (unevenSamples.take 2) 1 flow 0 3600000000).length = 1 →
      (samplesIn (unevenSamples.take 2) 1 flow 3600000000 7200000000).length = 1 →
      Balanced (unevenSamples.take 2) 1 flow 0 3600000000 7200000000 := by
    intro flow one one'
    rw [balanced_iff (by decide) (by decide), one, one']
    exact Or.inr (by norm_num)
  exact ⟨even _ (by decide +kernel) (by decide +kernel), even _ (by decide +kernel) (by decide +kernel),
    even _ (by decide +kernel) (by decide +kernel), even _ (by decide +kernel) (by decide +kernel)⟩

/-- The hours hold 10 and 0 thousand cubic metres of fuel, the two hours together 20/3. -/
theorem uneven_totals_not_additive :
    ∃ early late whole,
      aggregateSensorPeriod olefinPlants unevenSamples "olefin" 0 3600000000 = .ok (some early) ∧
      aggregateSensorPeriod olefinPlants unevenSamples "olefin" 3600000000 7200000000 =
        .ok (some late) ∧
      aggregateSensorPeriod olefinPlants unevenSamples "olefin" 0 7200000000 = .ok (some whole) ∧
      ¬ Additive early late whole := by
  refine ⟨_, _, _, rfl, rfl, rfl, ?_⟩
  intro additive
  have fuel := additive.fuel
  revert fuel
  decide +kernel

end Iems.Carbon
