import Iems.Lib.Median
import Iems.Lib.Rounding
import Iems.Optimization.Advice

/-! The tiers of the monitored units: what they depend on, how many are low and who is high. -/
namespace Iems.Optimization
open Lib

/-- No state of the list is more efficient. -/
def Maximal (states : List UnitOperatingState) (state : UnitOperatingState) : Prop :=
  ∀ other ∈ states, other.energyEfficiencyPercent ≤ state.energyEfficiencyPercent

/-- The unit that a scan for a better one keeps; the scan starts from the first unit. -/
theorem scan_maximal (first : UnitOperatingState) (rest : List UnitOperatingState) :
    Maximal (first :: rest) (rest.foldl (fun best x =>
      if best.energyEfficiencyPercent < x.energyEfficiencyPercent then x else best) first) := by
  induction rest generalizing first with
  | nil =>
    intro other member
    rw [List.mem_singleton.mp member]
    exact le_rfl
  | cons x rest ih =>
    intro other member
    rw [List.foldl_cons]
    split
    · rename_i better
      have later := ih x
      rcases List.mem_cons.mp member with rfl | among
      · exact better.le.trans (later x List.mem_cons_self)
      · exact later other among
    · rename_i kept
      have later := ih first
      rcases List.mem_cons.mp member with rfl | among
      · exact later other List.mem_cons_self
      · rcases List.mem_cons.mp among with rfl | behind
        · exact (not_lt.mp kept).trans (later first List.mem_cons_self)
        · exact later other (List.mem_cons_of_mem _ behind)

theorem bestUnit_maximal {states : List UnitOperatingState} {best : UnitOperatingState}
    (top : bestUnit states = some best) : Maximal states best := by
  cases states with
  | nil => cases top
  | cons first rest =>
    cases top
    exact scan_maximal first rest

theorem eq_nil_of_bestUnit_none {states : List UnitOperatingState} (none_ : bestUnit states = none) : states = [] := by
  cases states with
  | nil => rfl
  | cons first rest => cases none_

theorem bestUnit_exists {states : List UnitOperatingState} (some_ : states ≠ []) :
    ∃ best, bestUnit states = some best := by
  cases states with
  | nil => exact absurd rfl some_
  | cons first rest => exact ⟨_, rfl⟩

theorem medianEfficiency_eq (states : List UnitOperatingState) :
    medianEfficiency states = upperMedian 0 (states.map (·.energyEfficiencyPercent)) := by
  rw [medianEfficiency, upperMedian, List.length_map]

/-- The units with their benchmarks, in the order of the list. -/
def classified (states : List UnitOperatingState) : List (UnitOperatingState × UnitBenchmark) :=
  states.zip (classifyUnits states)

/-- What a benchmark says about its unit. -/
structure Benchmarks (states : List UnitOperatingState) (best state : UnitOperatingState) (bench : UnitBenchmark) : Prop where
  plantCode : bench.plantCode = state.plantCode
  efficiency : bench.energyEfficiencyPercent = state.energyEfficiencyPercent
  tier : bench.tier = if medianEfficiency states ≤ state.energyEfficiencyPercent then .high else .low
  gap : bench.gapPpVsBest = roundTo 2 (best.energyEfficiencyPercent - state.energyEfficiencyPercent)

section
variable {states : List UnitOperatingState} {best state : UnitOperatingState} {bench : UnitBenchmark}

theorem length_classifyUnits (states : List UnitOperatingState) : (classifyUnits states).length = states.length := by
  cases top : bestUnit states with
  | some best => simp [classifyUnits, top]
  | none =>
    rw [eq_nil_of_bestUnit_none top]
    rfl

theorem mem_classifyUnits (top : bestUnit states = some best) (member : bench ∈ classifyUnits states) :
    ∃ state ∈ states, Benchmarks states best state bench := by
  rw [classifyUnits, top] at member
  obtain ⟨state, among, rfl⟩ := List.mem_map.mp member
  exact ⟨state, among, rfl, rfl, rfl, rfl⟩

theorem mem_classified (top : bestUnit states = some best) (member : (state, bench) ∈ classified states) :
    state ∈ states ∧ Benchmarks states best state bench := by
  rw [classified, classifyUnits, top] at member
  dsimp only at member
  rw [← List.map_prod_left_eq_zip] at member
  obtain ⟨_, among, same⟩ := List.mem_map.mp member
  cases same
  exact ⟨among, rfl, rfl, rfl, rfl⟩

theorem classified_best (member : (state, bench) ∈ classified states) : ∃ best, bestUnit states = some best :=
  bestUnit_exists (List.ne_nil_of_mem (List.of_mem_zip member).1)

theorem Benchmarks.tier_low (of : Benchmarks states best state bench) : bench.tier = .low ↔ lowTier states state := by
  rw [of.tier]
  simp [lowTier]

theorem Benchmarks.tier_high (of : Benchmarks states best state bench) :
    bench.tier = .high ↔ medianEfficiency states ≤ state.energyEfficiencyPercent := by
  rw [of.tier]
  simp

theorem byCode_exists (among : state ∈ states) : ∃ last, byCode states state.plantCode = some last := by
  rw [← Option.isSome_iff_exists, byCode, List.find?_isSome]
  exact ⟨state, List.mem_reverse.mpr among, by simp⟩

theorem benchByCode_last (top : bestUnit states = some best) {code : String} {last : UnitOperatingState}
    (found : byCode states code = some last) :
    ∃ bench, benchByCode (classifyUnits states) code = some bench ∧ Benchmarks states best last bench := by
  unfold benchByCode classifyUnits
  rw [top]
  dsimp only
  rw [← List.map_reverse, List.find?_map]
  refine ⟨_, congrArg (Option.map _) found, rfl, rfl, rfl, rfl⟩

theorem countP_low (states : List UnitOperatingState) : (classifyUnits states).countP (·.tier = .low) =
    (states.map (·.energyEfficiencyPercent)).countP (· < medianEfficiency states) := by
  cases top : bestUnit states with
  | none =>
    rw [eq_nil_of_bestUnit_none top]
    rfl
  | some best =>
    rw [classifyUnits, top, List.countP_map, List.countP_map]
    congr 1
    funext state
    simp

/-- A unit of maximal efficiency is as efficient as the first of them. -/
theorem Maximal.efficiency (maximal : Maximal states state) (among : state ∈ states) (top : bestUnit states = some best) :
    state.energyEfficiencyPercent = best.energyEfficiencyPercent :=
  le_antisymm (bestUnit_maximal top state among) (maximal best (bestUnit_mem top))

theorem Maximal.not_low (maximal : Maximal states state) (among : state ∈ states) : ¬lowTier states state := by
  unfold lowTier
  rw [not_lt, medianEfficiency_eq]
  have some_ : states.map (·.energyEfficiencyPercent) ≠ [] := List.ne_nil_of_mem (List.mem_map_of_mem among)
  obtain ⟨other, member, same⟩ := List.mem_map.mp (upperMedian_mem 0 some_)
  rw [← same]
  exact maximal other member

end

/-- The tiers and gaps of a list of units. -/
structure FairTiers (states : List UnitOperatingState) : Prop where
  each : (classifyUnits states).map (·.plantCode) = states.map (·.plantCode)
  order : ∀ permuted, permuted.Perm states → ∀ state bench other, (state, bench) ∈ classified states →
    (state, other) ∈ classified permuted → other.tier = bench.tier ∧ other.gapPpVsBest = bench.gapPpVsBest
  half : (classifyUnits states).countP (·.tier = .low) ≤ states.length / 2
  exactHalf : (states.map (·.energyEfficiencyPercent)).Nodup →
    (classifyUnits states).countP (·.tier = .low) = states.length / 2
  gaps : ∀ bench ∈ classifyUnits states, 0 ≤ bench.gapPpVsBest
  upward : ∀ state bench other above, (state, bench) ∈ classified states → bench.tier = .high →
    (other, above) ∈ classified states → state.energyEfficiencyPercent ≤ other.energyEfficiencyPercent →
      above.tier = .high
  top : ∀ state bench, (state, bench) ∈ classified states → Maximal states state →
    bench.tier = .high ∧ bench.gapPpVsBest = 0

section
variable {states : List UnitOperatingState}

/-- Neither the median nor the greatest efficiency depends on the order. -/
theorem classified_perm {permuted : List UnitOperatingState} (perm : permuted.Perm states) {state : UnitOperatingState}
    {bench other : UnitBenchmark} (here : (state, bench) ∈ classified states)
    (there : (state, other) ∈ classified permuted) :
    other.tier = bench.tier ∧ other.gapPpVsBest = bench.gapPpVsBest := by
  obtain ⟨best, top⟩ := classified_best here
  obtain ⟨best', top'⟩ := classified_best there
  obtain ⟨_, of⟩ := mem_classified top here
  obtain ⟨_, of'⟩ := mem_classified top' there
  have median : medianEfficiency permuted = medianEfficiency states := by
    rw [medianEfficiency_eq, medianEfficiency_eq]
    exact upperMedian_perm 0 (perm.map _)
  have maximal : Maximal states best' := fun unit among => bestUnit_maximal top' unit (perm.mem_iff.mpr among)
  have greatest := maximal.efficiency (perm.mem_iff.mp (bestUnit_mem top')) top
  constructor
  · rw [of'.tier, of.tier, median]
  · rw [of'.gap, of.gap, greatest]

theorem gap_nonneg {bench : UnitBenchmark} (member : bench ∈ classifyUnits states) : 0 ≤ bench.gapPpVsBest := by
  have some_ : states ≠ [] := by
    rintro rfl
    cases member
  obtain ⟨best, top⟩ := bestUnit_exists some_
  obtain ⟨state, among, of⟩ := mem_classifyUnits top member
  have below := bestUnit_maximal top state among
  rw [of.gap]
  exact roundTo_nonneg (by linarith)

/-- The classification over every list of units. -/
theorem classifyUnits_fair (states : List UnitOperatingState) : FairTiers states where
  each := by
    cases top : bestUnit states with
    | none =>
      rw [eq_nil_of_bestUnit_none top]
      rfl
    | some best => simp [classifyUnits, top]
  order := fun _ perm _ _ _ here there => classified_perm perm here there
  half := by
    rw [countP_low, medianEfficiency_eq]
    simpa using countP_lt_upperMedian_le 0 (states.map (·.energyEfficiencyPercent))
  exactHalf := by
    intro distinct
    rw [countP_low, medianEfficiency_eq]
    simpa using countP_lt_upperMedian_eq 0 distinct
  gaps := fun _ member => gap_nonneg member
  upward := by
    intro state bench other above here high there better
    obtain ⟨best, top⟩ := classified_best here
    obtain ⟨_, of⟩ := mem_classified top here
    obtain ⟨_, of'⟩ := mem_classified top there
    exact of'.tier_high.mpr ((of.tier_high.mp high).trans better)
  top := by
    intro state bench here maximal
    obtain ⟨best, top⟩ := classified_best here
    obtain ⟨among, of⟩ := mem_classified top here
    have high : medianEfficiency states ≤ state.energyEfficiencyPercent := not_lt.mp (maximal.not_low among)
    refine ⟨of.tier_high.mpr high, ?_⟩
    rw [of.gap, maximal.efficiency among top, sub_self, ← roundDigits_rat, roundDigits_zero]

end
end Iems.Optimization
