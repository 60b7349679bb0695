import Iems.Optimization.Moves
import Iems.Optimization.Tiers
import Mathlib.Tactic.Positivity

/-! What an advice promises: its proposals and deltas, and the savings that it is estimated to bring. -/
namespace Iems.Optimization
open Lib

def intensityGap (state best : UnitOperatingState) : ℚ :=
  max 0 (state.energyIntensityKgoeTon - best.energyIntensityKgoeTon)

def secReductionPct (state best : UnitOperatingState) : ℚ :=
  min 12 (intensityGap state best / max state.energyIntensityKgoeTon 1 * 100)

def energySaving (state best : UnitOperatingState) : ℚ :=
  state.energyIntensityKgoeTon * state.feedFlowTonh * (1163 / 100) * (secReductionPct state best / 100)

/-- What an advice estimates. -/
structure EstimatesOf (best state : UnitOperatingState) (bench : UnitBenchmark) (item : SetpointAdvice) : Prop where
  sec : item.estimatedSecReductionPct = roundTo 2 (secReductionPct state best)
  saving : item.estimatedEnergySavingKwhPerH = roundTo 2 (energySaving state best)
  gain : item.estimatedEfficiencyGainPp = roundTo 2 (min bench.gapPpVsBest 8)

section
variable {best state : UnitOperatingState} {bench : UnitBenchmark} {item : SetpointAdvice}

theorem adviseUnit_estimates {bestCode : String} (advised : adviseUnit state best bestCode bench = some item) :
    EstimatesOf best state bench item := by
  simp only [adviseUnit] at advised
  split_ifs at advised <;> cases advised <;> exact ⟨rfl, rfl, rfl⟩

theorem intensityGap_nonneg (state best : UnitOperatingState) : 0 ≤ intensityGap state best := le_max_left _ _

theorem secReductionPct_nonneg (state best : UnitOperatingState) : 0 ≤ secReductionPct state best := by
  have gap := intensityGap_nonneg state best
  have base : 0 < max state.energyIntensityKgoeTon 1 := lt_max_of_lt_right one_pos
  refine le_min (by norm_num) ?_
  positivity

theorem secReductionPct_le (state best : UnitOperatingState) : secReductionPct state best ≤ 12 := min_le_left _ _

/-- Below an intensity of 1 the reduction is taken of 1, and the saving is the smaller for it. -/
theorem intensity_saved_le (intensity : 0 ≤ state.energyIntensityKgoeTon) :
    state.energyIntensityKgoeTon * (secReductionPct state best / 100) ≤ intensityGap state best := by
  have gap := intensityGap_nonneg state best
  have base : 0 < max state.energyIntensityKgoeTon 1 := lt_max_of_lt_right one_pos
  have share : secReductionPct state best / 100 ≤ intensityGap state best / max state.energyIntensityKgoeTon 1 := by
    rw [div_le_iff₀ (by norm_num)]
    exact min_le_right _ _
  calc state.energyIntensityKgoeTon * (secReductionPct state best / 100)
      ≤ state.energyIntensityKgoeTon * (intensityGap state best / max state.energyIntensityKgoeTon 1) :=
        mul_le_mul_of_nonneg_left share intensity
    _ ≤ max state.energyIntensityKgoeTon 1 * (intensityGap state best / max state.energyIntensityKgoeTon 1) :=
        mul_le_mul_of_nonneg_right (le_max_left _ _) (div_nonneg gap base.le)
    _ = intensityGap state best := mul_div_cancel₀ _ base.ne'

theorem energySaving_nonneg (intensity : 0 ≤ state.energyIntensityKgoeTon) (feed : 0 ≤ state.feedFlowTonh) :
    0 ≤ energySaving state best := by
  have reduction := secReductionPct_nonneg state best
  unfold energySaving
  positivity

theorem energySaving_le (intensity : 0 ≤ state.energyIntensityKgoeTon) (feed : 0 ≤ state.feedFlowTonh) :
    energySaving state best ≤ intensityGap state best * state.feedFlowTonh * (1163 / 100) := by
  have saved : state.energyIntensityKgoeTon * (secReductionPct state best / 100) ≤ intensityGap state best :=
    intensity_saved_le intensity
  calc energySaving state best
      = state.energyIntensityKgoeTon * (secReductionPct state best / 100) * (state.feedFlowTonh * (1163 / 100)) := by
        unfold energySaving
        ring
    _ ≤ intensityGap state best * (state.feedFlowTonh * (1163 / 100)) :=
        mul_le_mul_of_nonneg_right saved (by positivity)
    _ = intensityGap state best * state.feedFlowTonh * (1163 / 100) := by ring

theorem Setpoint.proposal_inside (v : Setpoint) (state best : UnitOperatingState) :
    v.lowest ≤ v.proposal state best ∧ v.proposal state best ≤ v.highest := by
  have limits : (v.lowest : ℚ) ≤ v.highest := Int.cast_le.mpr v.ordered
  obtain ⟨above, below⟩ := clipTo_bounds (v.reading state + v.delta state best) limits
  exact ⟨le_roundTo above, roundTo_le below⟩

theorem currentSetpoints_get {field : String} {after : ℚ}
    (proposed : (proposedSetpoints state best).get? field = some after) :
    ∃ before, (currentSetpoints state).get? field = some before := by
  rcases setpoints_field proposed with rfl | rfl | rfl | rfl | ⟨rfl, _⟩ <;> exact ⟨_, rfl⟩

end

/-- An advice of a unit toward the best one that says what it may say. -/
structure WellFormed (best state : UnitOperatingState) (bench : UnitBenchmark) (item : SetpointAdvice) : Prop where
  plantCode : item.plantCode = state.plantCode
  current : item.current = currentSetpoints state
  envelope : ∀ v : Setpoint, ∃ after, item.proposed.get? v.field = some after ∧ v.lowest ≤ after ∧ after ≤ v.highest
  someDelta : item.deltas.keys ≠ []
  deltas : ∀ field, field ∈ item.deltas.keys ↔ ∃ before after, item.current.get? field = some before ∧
    item.proposed.get? field = some after ∧ 5 / 100 < |after - before|
  sec : 0 ≤ item.estimatedSecReductionPct ∧ item.estimatedSecReductionPct ≤ 12
  gain : 0 ≤ item.estimatedEfficiencyGainPp ∧ item.estimatedEfficiencyGainPp ≤ min 8 bench.gapPpVsBest
  saving : 0 ≤ item.estimatedEnergySavingKwhPerH ∧ item.estimatedEnergySavingKwhPerH ≤
    max 0 (state.energyIntensityKgoeTon - best.energyIntensityKgoeTon) * state.feedFlowTonh * (1163 / 100) + 1 / 200

section
variable {best state : UnitOperatingState} {bench : UnitBenchmark} {item : SetpointAdvice}

theorem Advises.deltas_iff (advises : Advises best state item) (field : String) : field ∈ item.deltas.keys ↔
    ∃ before after, item.current.get? field = some before ∧ item.proposed.get? field = some after ∧
      5 / 100 < |after - before| := by
  rw [advises.deltas, advises.current, advises.proposed, mem_setpointDeltas_keys]
  constructor
  · rintro ⟨after, proposed, moved⟩
    obtain ⟨before, current⟩ := currentSetpoints_get proposed
    rw [current, Option.getD_some] at moved
    exact ⟨before, after, current, proposed, moved⟩
  · rintro ⟨before, after, current, proposed, moved⟩
    refine ⟨after, proposed, ?_⟩
    rwa [current, Option.getD_some]

theorem min_gap_rounded (x : ℚ) : roundTo 2 (min (roundTo 2 x) 8) = min (roundTo 2 x) 8 := by
  rcases min_cases (roundTo 2 x) 8 with ⟨low, _⟩ | ⟨high, _⟩
  · rw [low, roundTo_roundTo]
  · rw [high]
    exact_mod_cast roundTo_int 8

theorem Advises.wellFormed {states : List UnitOperatingState} (advises : Advises best state item)
    (of : Benchmarks states best state bench) (estimates : EstimatesOf best state bench item)
    (top : state.energyEfficiencyPercent ≤ best.energyEfficiencyPercent)
    (intensity : 0 ≤ state.energyIntensityKgoeTon) (feed : 0 ≤ state.feedFlowTonh) :
    WellFormed best state bench item where
  plantCode := advises.plantCode
  current := advises.current
  envelope := by
    intro v
    rw [advises.proposed]
    exact ⟨_, v.proposed_get state best, v.proposal_inside state best⟩
  someDelta := fun none => advises.moves (List.map_eq_nil_iff.mp none)
  deltas := advises.deltas_iff
  sec := by
    rw [estimates.sec]
    have atMost : secReductionPct state best ≤ ((12 : ℤ) : ℚ) := by simpa using secReductionPct_le state best
    exact ⟨roundTo_nonneg (secReductionPct_nonneg state best), by simpa using @roundTo_le 2 12 _ atMost⟩
  gain := by
    have gap : 0 ≤ roundTo 2 (best.energyEfficiencyPercent - state.energyEfficiencyPercent) :=
      roundTo_nonneg (sub_nonneg.mpr top)
    rw [estimates.gain, of.gap, min_gap_rounded, min_comm]
    exact ⟨le_min (by norm_num) gap, le_rfl⟩
  saving := by
    rw [estimates.saving]
    refine ⟨roundTo_nonneg (energySaving_nonneg intensity feed), ?_⟩
    have rounded := (roundTo_near (energySaving state best)).2
    exact rounded.trans (add_le_add_left (energySaving_le intensity feed) _)

end

/-- Every advice of an analysis is well formed, and its saving never exceeds reaching the benchmark. -/
theorem advice_wellFormed {states : List UnitOperatingState} {advice : List SetpointAdvice}
    (distinct : (states.map (·.plantCode)).Nodup) (intensities : ∀ state ∈ states, 0 ≤ state.energyIntensityKgoeTon)
    (feeds : ∀ state ∈ states, 0 ≤ state.feedFlowTonh)
    (built : buildStructuredAdvice states (classifyUnits states) = some advice) :
    ∀ item ∈ advice, ∃ best state bench, bestUnit states = some best ∧ state ∈ states ∧
      benchByCode (classifyUnits states) state.plantCode = some bench ∧ Benchmarks states best state bench ∧
        WellFormed best state bench item := by
  intro item member
  obtain ⟨best, reference, top, read, listed⟩ := mem_buildStructuredAdvice built
  cases (byCode_mem distinct (bestUnit_mem top)).symm.trans read
  obtain ⟨state, among, bench, classified, advised⟩ := (listed item).mp member
  obtain ⟨_, again, of⟩ := benchByCode_last top (byCode_mem distinct among)
  cases classified.symm.trans again
  refine ⟨best, state, bench, top, among, classified, of, ?_⟩
  exact (adviseUnit_advises advised).2.wellFormed of (adviseUnit_estimates advised) (bestUnit_maximal top state among)
    (intensities state among) (feeds state among)

theorem advice_wellFormed_hotter : ∃ advice, buildStructuredAdvice [unitAt "B" 80 405, unitAt "A" 90 395]
      (classifyUnits [unitAt "B" 80 405, unitAt "A" 90 395]) = some advice ∧
    ∀ item ∈ advice, ∃ best state bench, bestUnit [unitAt "B" 80 405, unitAt "A" 90 395] = some best ∧
      state ∈ [unitAt "B" 80 405, unitAt "A" 90 395] ∧
      benchByCode (classifyUnits [unitAt "B" 80 405, unitAt "A" 90 395]) state.plantCode = some bench ∧
      Benchmarks [unitAt "B" 80 405, unitAt "A" 90 395] best state bench ∧ WellFormed best state bench item := by
  have distinct : ([unitAt "B" 80 405, unitAt "A" 90 395].map (·.plantCode)).Nodup := by decide
  have top : bestUnit [unitAt "B" 80 405, unitAt "A" 90 395] = some (unitAt "A" 90 395) := by decide +kernel
  obtain ⟨advice, built⟩ := buildStructuredAdvice_classified distinct top
  exact ⟨advice, built, advice_wellFormed distinct (by decide +kernel) (by decide +kernel) built⟩

end Iems.Optimization
