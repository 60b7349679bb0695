import Iems.Carbon.Aggregate
import Iems.Services.Carbon

/-! Period totals while readings keep arriving, and when they never go backwards. -/
namespace Iems.Carbon
open Lib Services

/-- Scope 1 before `round(scope1, 2)`. -/
def unroundedScope1 (ef : EmissionFactors) (totals : AggregateTotals) : ℚ :=
  totals.fuelGasKm3 * 1000 * ef.naturalGasKgco2PerM3 + totals.steamTon * ef.steamKgco2PerTon

def unroundedScope2 (ef : EmissionFactors) (totals : AggregateTotals) : ℚ :=
  totals.electricityMwh * 1000 * ef.electricityKgco2PerKwh

example (ef : EmissionFactors) (totals : AggregateTotals) (plantCode : String) :
    (computeScopesFromIntegrals ef totals.fuelGasKm3 totals.steamTon totals.electricityMwh totals.productTon
      plantCode).scope1Kgco2 = roundTo 2 (unroundedScope1 ef totals) := rfl

/-- No total of the later aggregation is below the earlier one. -/
structure NotBelow (ef : EmissionFactors) (early late : AggregateTotals) : Prop where
  fuel : early.fuelGasKm3 ≤ late.fuelGasKm3
  steam : early.steamTon ≤ late.steamTon
  electricity : early.electricityMwh ≤ late.electricityMwh
  product : early.productTon ≤ late.productTon
  scope1 : unroundedScope1 ef early ≤ unroundedScope1 ef late
  scope2 : unroundedScope2 ef early ≤ unroundedScope2 ef late

def NonnegFlows (readings : List SensorReading) : Prop :=
  ∀ r ∈ readings, (∀ x ∈ r.fuelGasFlowKm3h, 0 ≤ x) ∧ (∀ x ∈ r.steamFlowTonh, 0 ≤ x) ∧
    (∀ x ∈ r.electricityPowerMw, 0 ≤ x) ∧ ∀ x ∈ r.feedFlowTonh, 0 ≤ x

section
variable (plantId : Nat) (start end_ : Int) (readings more : List SensorReading)

/-- The further samples of the flow have no smaller mean than the ones so far. -/
def MeanHolds (flow : SensorReading → Option ℚ) : Prop :=
  samplesIn readings plantId flow start end_ = [] ∨ samplesIn more plantId flow start end_ = [] ∨
    average (samplesIn readings plantId flow start end_) ≤ average (samplesIn more plantId flow start end_)

/-- The change of the mean of all samples of the flow. -/
def meanChange (flow : SensorReading → Option ℚ) : ℚ :=
  average (samplesIn (readings ++ more) plantId flow start end_) -
    average (samplesIn readings plantId flow start end_)

def scope1Change (ef : EmissionFactors) : ℚ :=
  meanChange plantId start end_ readings more (·.fuelGasFlowKm3h) * 1000 * ef.naturalGasKgco2PerM3 +
    meanChange plantId start end_ readings more (·.steamFlowTonh) * ef.steamKgco2PerTon

def scope2Change (ef : EmissionFactors) : ℚ :=
  meanChange plantId start end_ readings more (·.electricityPowerMw) * 1000 * ef.electricityKgco2PerKwh

structure MeansHold (ef : EmissionFactors) : Prop where
  fuel : MeanHolds plantId start end_ readings more (·.fuelGasFlowKm3h)
  steam : MeanHolds plantId start end_ readings more (·.steamFlowTonh)
  electricity : MeanHolds plantId start end_ readings more (·.electricityPowerMw)
  product : MeanHolds plantId start end_ readings more (·.feedFlowTonh)
  scope1 : 0 ≤ scope1Change plantId start end_ readings more ef
  scope2 : 0 ≤ scope2Change plantId start end_ readings more ef

end

section
variable {plantId : Nat} {start end_ : Int} {readings more : List SensorReading}

theorem durationHours_pos (start end_ : Int) : 0 < durationHours start end_ :=
  lt_max_of_lt_right (by norm_num)

theorem samplesIn_append (flow : SensorReading → Option ℚ) :
    samplesIn (readings ++ more) plantId flow start end_ =
      samplesIn readings plantId flow start end_ ++ samplesIn more plantId flow start end_ := by
  unfold samplesIn readingsIn
  rw [List.filter_append, List.filterMap_append]

theorem meanChange_nonneg_iff {flow : SensorReading → Option ℚ} (nonneg : ∀ r ∈ more, ∀ x ∈ flow r, 0 ≤ x) :
    0 ≤ meanChange plantId start end_ readings more flow ↔ MeanHolds plantId start end_ readings more flow := by
  have samplesNonneg : ∀ x ∈ samplesIn more plantId flow start end_, 0 ≤ x := by
    intro x member
    obtain ⟨r, inWindow, held⟩ := List.mem_filterMap.mp member
    exact nonneg r (List.mem_of_mem_filter inWindow) x held
  unfold meanChange MeanHolds
  rw [sub_nonneg, samplesIn_append]
  exact average_le_append_iff samplesNonneg

/-- Nonnegative emission factors carry the growth of the means over to the scopes. -/
theorem meansHold_of_factors {ef : EmissionFactors} (nonneg : NonnegFlows more)
    (gas : 0 ≤ ef.naturalGasKgco2PerM3) (steamFactor : 0 ≤ ef.steamKgco2PerTon)
    (powerFactor : 0 ≤ ef.electricityKgco2PerKwh)
    (fuel : MeanHolds plantId start end_ readings more (·.fuelGasFlowKm3h))
    (steam : MeanHolds plantId start end_ readings more (·.steamFlowTonh))
    (electricity : MeanHolds plantId start end_ readings more (·.electricityPowerMw))
    (product : MeanHolds plantId start end_ readings more (·.feedFlowTonh)) :
    MeansHold plantId start end_ readings more ef := by
  have fuelGrows := (meanChange_nonneg_iff fun r member => (nonneg r member).1).mpr fuel
  have steamGrows := (meanChange_nonneg_iff fun r member => (nonneg r member).2.1).mpr steam
  have powerGrows := (meanChange_nonneg_iff fun r member => (nonneg r member).2.2.1).mpr electricity
  exact
    { fuel := fuel
      steam := steam
      electricity := electricity
      product := product
      scope1 := by unfold scope1Change; positivity
      scope2 := by unfold scope2Change; positivity }

theorem total_grows_iff {flow : SensorReading → Option ℚ} (nonneg : ∀ r ∈ more, ∀ x ∈ flow r, 0 ≤ x) :
    average (samplesIn readings plantId flow start end_) * durationHours start end_ ≤
        average (samplesIn (readings ++ more) plantId flow start end_) * durationHours start end_ ↔
      MeanHolds plantId start end_ readings more flow := by
  rw [← meanChange_nonneg_iff nonneg]
  unfold meanChange
  rw [sub_nonneg]
  exact mul_le_mul_iff_left₀ (durationHours_pos start end_)

theorem scaled_grows_iff {before after hours change : ℚ} (positive : 0 < hours)
    (changed : after = before + change * hours) : before ≤ after ↔ 0 ≤ change := by
  rw [changed, le_add_iff_nonneg_right]
  exact mul_nonneg_iff_of_pos_right positive

theorem totals_notBelow_iff {plants : Dict String Nat} {plantCode : String}
    (known : plants.get? plantCode = some plantId) (ef : EmissionFactors) (nonneg : NonnegFlows more)
    (present : readingsIn readings plantId start end_ ≠ []) :
    ∃ early late, aggregateSensorPeriod plants readings plantCode start end_ = .ok (some early) ∧
      aggregateSensorPeriod plants (readings ++ more) plantCode start end_ = .ok (some late) ∧
      (NotBelow ef early late ↔ MeansHold plantId start end_ readings more ef) := by
  have morePresent : readingsIn (readings ++ more) plantId start end_ ≠ [] := by
    unfold readingsIn at present ⊢
    rw [List.filter_append]
    exact List.append_ne_nil_of_left_ne_nil present _
  obtain ⟨early, ranEarly, fuel₁, steam₁, power₁, feed₁⟩ := aggregate_totals known present
  obtain ⟨late, ranLate, fuel₂, steam₂, power₂, feed₂⟩ := aggregate_totals known morePresent
  refine ⟨early, late, ranEarly, ranLate, ?_⟩
  have hours := durationHours_pos start end_
  have fuelGrows : early.fuelGasKm3 ≤ late.fuelGasKm3 ↔
      MeanHolds plantId start end_ readings more (·.fuelGasFlowKm3h) := by
    rw [fuel₁, fuel₂]
    exact total_grows_iff fun r member => (nonneg r member).1
  have steamGrows : early.steamTon ≤ late.steamTon ↔
      MeanHolds plantId start end_ readings more (·.steamFlowTonh) := by
    rw [steam₁, steam₂]
    exact total_grows_iff fun r member => (nonneg r member).2.1
  have powerGrows : early.electricityMwh ≤ late.electricityMwh ↔
      MeanHolds plantId start end_ readings more (·.electricityPowerMw) := by
    rw [power₁, power₂]
    exact total_grows_iff fun r member => (nonneg r member).2.2.1
  have feedGrows : early.productTon ≤ late.productTon ↔
      MeanHolds plantId start end_ readings more (·.feedFlowTonh) := by
    rw [feed₁, feed₂]
    exact total_grows_iff fun r member => (nonneg r member).2.2.2
  have scope1Grows : unroundedScope1 ef early ≤ unroundedScope1 ef late ↔
      0 ≤ scope1Change plantId start end_ readings more ef := by
    apply scaled_grows_iff hours
    unfold unroundedScope1 scope1Change meanChange
    rw [fuel₁, fuel₂, steam₁, steam₂]
    ring
  have scope2Grows : unroundedScope2 ef early ≤ unroundedScope2 ef late ↔
      0 ≤ scope2Change plantId start end_ readings more ef := by
    apply scaled_grows_iff hours
    unfold unroundedScope2 scope2Change meanChange
    rw [power₁, power₂]
    ring
  constructor
  · intro grown
    exact ⟨fuelGrows.mp grown.fuel, steamGrows.mp grown.steam, powerGrows.mp grown.electricity,
      feedGrows.mp grown.product, scope1Grows.mp grown.scope1, scope2Grows.mp grown.scope2⟩
  · intro held
    exact ⟨fuelGrows.mpr held.fuel, steamGrows.mpr held.steam, powerGrows.mpr held.electricity,
      feedGrows.mpr held.product, scope1Grows.mpr held.scope1, scope2Grows.mpr held.scope2⟩

end

/-- A mean over the samples so far is scaled to the whole window, hours to come included. -/
theorem neverBackwards_iff (plants : Dict String Nat) (plantCode : String) (plantId : Nat)
    (known : plants.get? plantCode = some plantId) (ef : EmissionFactors) (start end_ : Int)
    (readings more : List SensorReading) (nonneg : NonnegFlows (readings ++ more)) :
    (∀ early, aggregateSensorPeriod plants readings plantCode start end_ = .ok (some early) →
      ∃ late, aggregateSensorPeriod plants (readings ++ more) plantCode start end_ = .ok (some late) ∧
        NotBelow ef early late) ↔
      (readingsIn readings plantId start end_ = [] ∨ MeansHold plantId start end_ readings more ef) := by
  have moreNonneg : NonnegFlows more := fun r member => nonneg r (List.mem_append_right _ member)
  by_cases absent : readingsIn readings plantId start end_ = []
  · have nothing : aggregateSensorPeriod plants readings plantCode start end_ = .ok none := by
      unfold aggregateSensorPeriod
      rw [known]
      dsimp only
      rw [absent]
      rfl
    rw [nothing]
    simp [absent]
  · obtain ⟨early, late, ranEarly, ranLate, grows⟩ := totals_notBelow_iff known ef moreNonneg absent
    rw [ranEarly, ranLate, ← grows]
    simp only [absent, false_or]
    constructor
    · intro each
      obtain ⟨found, ran, held⟩ := each early rfl
      cases ran
      exact held
    · intro held found ran
      cases ran
      exact ⟨late, rfl, held⟩

def unitFactors : EmissionFactors := ⟨"olefin", 2, 3 / 10, 1 / 2, "v1", "", ""⟩

theorem olefinSample_nonneg {readings : List SensorReading}
    (samples : ∀ r ∈ readings, ∃ time fuel, 0 ≤ fuel ∧ r = olefinSample time fuel) : NonnegFlows readings := by
  intro r member
  obtain ⟨time, fuel, positive, rfl⟩ := samples r member
  refine ⟨?_, ?_, ?_, ?_⟩ <;> intro x held <;> cases held
  · exact positive
  · exact (by norm_num : (0 : ℚ) ≤ 30)
  · exact (by norm_num : (0 : ℚ) ≤ 15)
  · exact (by norm_num : (0 : ℚ) ≤ 100)

theorem firstHour_nonneg (second : ℚ) (positive : 0 ≤ second) :
    NonnegFlows ([olefinSample 0 10] ++ [olefinSample 3600000000 second]) := by
  apply olefinSample_nonneg
  intro r member
  rcases List.mem_cons.mp member with rfl | later
  · exact ⟨0, 10, by norm_num, rfl⟩
  · exact ⟨3600000000, second, positive, List.mem_singleton.mp later⟩

theorem neverBackwards_iff_steady :
    (∀ early, aggregateSensorPeriod olefinPlants [olefinSample 0 10] "olefin" 0 7200000000 = .ok (some early) →
      ∃ late, aggregateSensorPeriod olefinPlants ([olefinSample 0 10] ++ [olefinSample 3600000000 10]) "olefin" 0
          7200000000 = .ok (some late) ∧ NotBelow unitFactors early late) ↔
      (readingsIn [olefinSample 0 10] 1 0 7200000000 = [] ∨
        MeansHold 1 0 7200000000 [olefinSample 0 10] [olefinSample 3600000000 10] unitFactors) :=
  neverBackwards_iff olefinPlants "olefin" 1 rfl unitFactors 0 7200000000 [olefinSample 0 10]
    [olefinSample 3600000000 10] (firstHour_nonneg 10 (by norm_num))

/-- The first hour burns 10, the second nothing: the total of the two hours falls from 20 to 10. -/
theorem idleHour_lowers_total :
    ¬ ∀ (plants : Dict String Nat) (plantCode : String) (ef : EmissionFactors) (start end_ : Int)
        (readings more : List SensorReading), NonnegFlows (readings ++ more) →
      ∀ early, aggregateSensorPeriod plants readings plantCode start end_ = .ok (some early) →
        ∃ late, aggregateSensorPeriod plants (readings ++ more) plantCode start end_ = .ok (some late) ∧
          NotBelow ef early late := by
  intro grows
  obtain ⟨late, ran, held⟩ := grows olefinPlants "olefin" unitFactors 0 7200000000 [olefinSample 0 10]
    [olefinSample 3600000000 0] (firstHour_nonneg 0 le_rfl) _ rfl
  have fuel := held.fuel
  cases ran
  revert fuel
  decide +kernel

end Iems.Carbon
