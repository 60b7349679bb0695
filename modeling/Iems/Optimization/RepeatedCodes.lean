import Iems.Optimization.Moves
import Iems.Optimization.Snapshots
import Iems.Optimization.Tiers

/-! Lists in which a plant code occurs more than once: whom the advice is for, and whom it is aligned to. -/
namespace Iems.Optimization
open Lib Services

/-- An advice with the state that it is for and the state that it is aligned to. -/
structure AdvisedUnit where
  state : UnitOperatingState
  reference : UnitOperatingState
  item : SetpointAdvice

/-- `build_structured_advice`, before it drops what each advice was computed from. -/
def advisedUnits (states : List UnitOperatingState) (benchmarks : List UnitBenchmark) : Option (List AdvisedUnit) := do
  let bestCode := (← bestUnit states).plantCode
  let best ← byCode states bestCode
  let advised ← states.mapM fun state => do
    let bench ← benchByCode benchmarks state.plantCode
    return (adviseUnit state best bestCode bench).map (AdvisedUnit.mk state best)
  return advised.filterMap id

theorem buildStructuredAdvice_advised (states : List UnitOperatingState) (benchmarks : List UnitBenchmark) :
    buildStructuredAdvice states benchmarks = (advisedUnits states benchmarks).map (·.map (·.item)) := by
  unfold buildStructuredAdvice advisedUnits
  cases bestUnit states with
  | none => rfl
  | some top =>
    dsimp only [Option.bind_eq_bind, Option.bind_some]
    cases byCode states top.plantCode with
    | none => rfl
    | some best =>
      have each : (fun state => (benchByCode benchmarks state.plantCode).bind fun bench =>
            pure (adviseUnit state best top.plantCode bench)) =
          fun state => ((benchByCode benchmarks state.plantCode).bind fun bench =>
            pure ((adviseUnit state best top.plantCode bench).map (AdvisedUnit.mk state best))).map
              (Option.map AdvisedUnit.item) := by
        funext state
        cases benchByCode benchmarks state.plantCode with
        | none => rfl
        | some bench => simp [Option.map_map, Function.comp_def]
      dsimp only [Option.bind_some]
      rw [each, mapM_then]
      cases states.mapM fun state => (benchByCode benchmarks state.plantCode).bind fun bench =>
          pure ((adviseUnit state best top.plantCode bench).map (AdvisedUnit.mk state best)) with
      | none => rfl
      | some advised => simp [List.filterMap_map, List.map_filterMap]

/-- The last state with the unit's code is a low one: its tier is the one that the unit is advised by. -/
def CodeLow (states : List UnitOperatingState) (state : UnitOperatingState) : Prop :=
  ∃ last, byCode states state.plantCode = some last ∧ lowTier states last

section
variable {states : List UnitOperatingState} {best : UnitOperatingState}

theorem advisedUnits_exists (top : bestUnit states = some best) :
    ∃ advised, advisedUnits states (classifyUnits states) = some advised := by
  obtain ⟨reference, read⟩ := byCode_exists (bestUnit_mem top)
  have each : ∀ state ∈ states, ∃ advised, ((benchByCode (classifyUnits states) state.plantCode).bind fun bench =>
      some ((adviseUnit state reference best.plantCode bench).map (AdvisedUnit.mk state reference))) = some advised := by
    intro state among
    obtain ⟨last, found⟩ := byCode_exists among
    obtain ⟨bench, classified, _⟩ := benchByCode_last top found
    exact ⟨_, by rw [classified]; rfl⟩
  obtain ⟨advised, mapped⟩ := mapM_exists each
  refine ⟨advised.filterMap id, ?_⟩
  simp only [advisedUnits, top, read, Option.bind_eq_bind, Option.bind_some]
  exact congrArg (Option.bind · fun rows => pure (rows.filterMap id)) mapped

/-- Advised are the units whose code is low, unless they stay where they are; aligned to the last unit with the code
of the best one. -/
theorem mem_advisedUnits {advised : List AdvisedUnit} {reference : UnitOperatingState} (top : bestUnit states = some best)
    (read : byCode states best.plantCode = some reference)
    (built : advisedUnits states (classifyUnits states) = some advised) :
    (∀ unit ∈ advised, unit.reference = reference ∧ unit.state ∈ states ∧ CodeLow states unit.state ∧
      ¬Unmoved reference unit.state) ∧
    ∀ state ∈ states, CodeLow states state → ¬Unmoved reference state → ∃ unit ∈ advised, unit.state = state := by
  simp only [advisedUnits, top, read, Option.bind_eq_bind, Option.bind_some, Option.bind_eq_some_iff] at built
  obtain ⟨each, mapped, kept⟩ := built
  have rows := mapM_eq_some.mp mapped
  cases kept
  have listed (unit : AdvisedUnit) : unit ∈ each.filterMap id ↔ ∃ state ∈ states,
      ∃ bench, benchByCode (classifyUnits states) state.plantCode = some bench ∧
        (adviseUnit state reference best.plantCode bench).map (AdvisedUnit.mk state reference) = some unit := by
    have answered : some unit ∈ each ↔ some (some unit) ∈ each.map some := by simp
    simp only [List.mem_filterMap, id_eq, exists_eq_right, answered, ← rows, List.mem_map]
    simp [Option.bind_eq_some_iff]
  have moves (state : UnitOperatingState) := (setpointDeltas_unmoved reference state)
  constructor
  · intro unit member
    obtain ⟨state, among, bench, classified, made⟩ := (listed unit).mp member
    obtain ⟨item, advises, rfl⟩ := Option.map_eq_some_iff.mp made
    obtain ⟨low, shape⟩ := adviseUnit_advises advises
    obtain ⟨last, found⟩ := byCode_exists among
    obtain ⟨_, again, of⟩ := benchByCode_last top found
    cases classified.symm.trans again
    exact ⟨rfl, among, ⟨last, found, of.tier_low.mp low⟩, mt (moves state).mpr (shape.deltas ▸ shape.moves)⟩
  · rintro state among ⟨last, found, low⟩ moved
    obtain ⟨bench, classified, of⟩ := benchByCode_last top found
    obtain ⟨item, advises⟩ := adviseUnit_moving best.plantCode (of.tier_low.mpr low) (mt (moves state).mp moved)
    exact ⟨⟨state, reference, item⟩, (listed _).mpr ⟨state, among, bench, classified, by rw [advises]; rfl⟩, rfl⟩

end

/-- Every advice is aligned to a unit of maximal efficiency, and none is for such a unit. -/
def AlignedToBest (states : List UnitOperatingState) : Prop :=
  ∃ advised, advisedUnits states (classifyUnits states) = some advised ∧
    buildStructuredAdvice states (classifyUnits states) = some (advised.map (·.item)) ∧
    ∀ unit ∈ advised, Maximal states unit.reference ∧ ¬Maximal states unit.state

/-- What the repeated codes of a list may not do, where the best unit's code is read back as the reference. -/
structure RepeatsHarmless (states : List UnitOperatingState) (reference : UnitOperatingState) : Prop where
  benchmark : Maximal states reference ∨ ∀ state ∈ states, CodeLow states state → Unmoved reference state
  units : ∀ state ∈ states, Maximal states state → CodeLow states state → Unmoved reference state

section
variable {states : List UnitOperatingState}

theorem repeatsHarmless_distinct (distinct : (states.map (·.plantCode)).Nodup) {best reference : UnitOperatingState}
    (top : bestUnit states = some best) (read : byCode states best.plantCode = some reference) :
    RepeatsHarmless states reference := by
  have own := byCode_mem distinct (bestUnit_mem top)
  cases own.symm.trans read
  refine ⟨Or.inl (bestUnit_maximal top), ?_⟩
  rintro state among maximal ⟨last, found, low⟩
  cases (byCode_mem distinct among).symm.trans found
  exact absurd low (maximal.not_low among)

/-- The best unit is chosen from the list, but its values and every tier are read back by the code, which finds the
last state with it. -/
theorem alignedToBest_iff (some_ : states ≠ []) : AlignedToBest states ↔
    ∀ best reference, bestUnit states = some best → byCode states best.plantCode = some reference →
      RepeatsHarmless states reference := by
  obtain ⟨best, top⟩ := bestUnit_exists some_
  obtain ⟨reference, read⟩ := byCode_exists (bestUnit_mem top)
  obtain ⟨advised, built⟩ := advisedUnits_exists top
  obtain ⟨units, covers⟩ := mem_advisedUnits top read built
  constructor
  · rintro ⟨_, same, _, aligned⟩ other again found back
    cases built.symm.trans same
    cases top.symm.trans found
    cases read.symm.trans back
    constructor
    · by_contra harmful
      obtain ⟨notMaximal, moved⟩ := not_or.mp harmful
      push Not at moved
      obtain ⟨state, among, low, moves⟩ := moved
      obtain ⟨unit, member, rfl⟩ := covers state among low moves
      have maximal := (aligned unit member).1
      rw [(units unit member).1] at maximal
      exact notMaximal maximal
    · intro state among maximal low
      by_contra moves
      obtain ⟨unit, member, rfl⟩ := covers state among low moves
      exact (aligned unit member).2 maximal
  · intro harmless
    obtain ⟨referenceFine, unitsFine⟩ := harmless best reference top read
    refine ⟨advised, built, by rw [buildStructuredAdvice_advised, built]; rfl, fun unit member => ?_⟩
    obtain ⟨same, among, low, moves⟩ := units unit member
    constructor
    · rw [same]
      exact referenceFine.resolve_right fun still => moves (still unit.state among low)
    · intro maximal
      exact moves (unitsFine unit.state among maximal low)

end

theorem alignedToBest_twoUnits : AlignedToBest [unitAt "A" 90 395, unitAt "B" 80 405] :=
  (alignedToBest_iff (List.cons_ne_nil _ _)).mpr fun _ _ top read => repeatsHarmless_distinct (by decide) top read

/-- A reading at low flows, for the code that the request names twice. -/
def economicalReading (code : String) : LiveReading ℚ :=
  { time := 0
    plantCode := code
    electricityPowerMw := 15
    fuelGasFlowKm3h := 50
    steamFlowTonh := 10
    feedFlowTonh := 100
    reactorTempC := 390
    pressureBar := none
    energyIntensityKgoeTon := 752
    carbonEmissionKgco2Ton := none
    energyEfficiencyPercent := 787 / 10
    source := "db"
    quality := none }

def namedTwice : List UnitOperatingState := loadUnitStates economicalReading ["olefin", "olefin"]

/-- The best unit of the two is advised, toward its own nudged copy. -/
theorem repeated_code_misaligned : ¬ ∀ states : List UnitOperatingState, states ≠ [] → AlignedToBest states := by
  intro always
  obtain ⟨advised, built, _, aligned⟩ := always namedTwice (by decide +kernel)
  have top : bestUnit namedTwice = some (loadUnitState economicalReading "olefin") := by decide +kernel
  have read : byCode namedTwice "olefin" = some (nudge 1 (loadUnitState economicalReading "olefin")) := by decide +kernel
  have median : medianEfficiency namedTwice = 787 / 10 := by
    have swapped : (namedTwice.map (·.energyEfficiencyPercent)).Perm [786 / 10, 787 / 10] := by decide +kernel
    rw [medianEfficiency_eq, upperMedian_perm 0 swapped, upperMedian, List.mergeSort_of_pairwise (by norm_num)]
    rfl
  have low : CodeLow namedTwice (loadUnitState economicalReading "olefin") := by
    refine ⟨_, read, ?_⟩
    rw [lowTier, median]
    decide +kernel
  have moves : ¬Unmoved (nudge 1 (loadUnitState economicalReading "olefin"))
      (loadUnitState economicalReading "olefin") := by
    rw [← setpointDeltas_unmoved]
    decide +kernel
  obtain ⟨_, covers⟩ := mem_advisedUnits top read built
  obtain ⟨unit, member, same⟩ := covers _ (bestUnit_mem top) low moves
  exact (aligned unit member).2 (same ▸ bestUnit_maximal top)

end Iems.Optimization
