import Iems.Lib.Raising
import Iems.Optimization.Engine

/-! What an analysis advises: which units get an advice, and what it proposes to them. -/
namespace Iems.Optimization
open Lib

theorem bestUnit_mem {states : List UnitOperatingState} {best : UnitOperatingState}
    (top : bestUnit states = some best) : best ∈ states := by
  cases states with
  | nil => cases top
  | cons first rest =>
    have folded : ∀ (rest : List UnitOperatingState) (first : UnitOperatingState),
        rest.foldl (fun best x => if best.energyEfficiencyPercent < x.energyEfficiencyPercent then x else best)
          first ∈ first :: rest := by
      intro rest
      induction rest with
      | nil => intro first; exact List.mem_singleton_self first
      | cons x rest ih =>
        intro first
        rw [List.foldl_cons]
        split
        · exact List.mem_cons_of_mem _ (ih x)
        · rcases List.mem_cons.mp (ih first) with equal | later
          · rw [equal]; exact List.mem_cons_self
          · exact List.mem_cons_of_mem _ (List.mem_cons_of_mem _ later)
    rw [← Option.some.inj top]
    exact folded rest first

theorem find?_key {α : Type} {key : α → String} {rows : List α} {row : α}
    (distinct : (rows.map key).Nodup) (member : row ∈ rows) :
    rows.find? (fun other => key other = key row) = some row := by
  cases found : rows.find? (fun other => key other = key row) with
  | none =>
    have missed := List.find?_eq_none.mp found row member
    simp at missed
  | some other =>
    have same : key other = key row := by simpa using List.find?_some found
    rw [List.inj_on_of_nodup_map distinct (List.mem_of_find?_eq_some found) member same]

theorem byCode_mem {states : List UnitOperatingState} {state : UnitOperatingState}
    (distinct : (states.map (·.plantCode)).Nodup) (member : state ∈ states) :
    byCode states state.plantCode = some state :=
  find?_key (by rw [List.map_reverse]; exact List.nodup_reverse.mpr distinct) (List.mem_reverse.mpr member)

def lowTier (states : List UnitOperatingState) (state : UnitOperatingState) : Prop :=
  state.energyEfficiencyPercent < medianEfficiency states

theorem medianEfficiency_sorted {states : List UnitOperatingState}
    (sorted : (states.map (·.energyEfficiencyPercent)).Pairwise (· ≤ ·)) :
    medianEfficiency states = (states.map (·.energyEfficiencyPercent)).getD (states.length / 2) 0 := by
  rw [medianEfficiency, List.mergeSort_of_pairwise (sorted.imp fun le => decide_eq_true le)]

/-- A state of the list is classified under its code, as low exactly below the median. -/
theorem benchByCode_classifyUnits {states : List UnitOperatingState} {best state : UnitOperatingState}
    (distinct : (states.map (·.plantCode)).Nodup) (top : bestUnit states = some best) (member : state ∈ states) :
    ∃ bench, benchByCode (classifyUnits states) state.plantCode = some bench ∧
      (bench.tier = .low ↔ lowTier states state) := by
  have listed : ∃ bench ∈ classifyUnits states, bench.plantCode = state.plantCode ∧
      (bench.tier = .low ↔ lowTier states state) := by
    rw [classifyUnits, top]
    exact ⟨_, List.mem_map_of_mem member, rfl, by simp [lowTier]⟩
  obtain ⟨bench, among, code, low⟩ := listed
  have codes : (classifyUnits states).map (·.plantCode) = states.map (·.plantCode) := by
    simp [classifyUnits, top]
  refine ⟨bench, ?_, low⟩
  rw [← code]
  exact find?_key (by rw [List.map_reverse, codes]; exact List.nodup_reverse.mpr distinct)
    (List.mem_reverse.mpr among)

/-- What an advice says about the unit it is for. -/
structure Advises (best state : UnitOperatingState) (item : SetpointAdvice) : Prop where
  plantCode : item.plantCode = state.plantCode
  current : item.current = currentSetpoints state
  proposed : item.proposed = proposedSetpoints state best
  deltas : item.deltas = setpointDeltas (currentSetpoints state) (proposedSetpoints state best)
  moves : item.deltas.items ≠ []

theorem adviseUnit_advises {state best : UnitOperatingState} {bestCode : String} {bench : UnitBenchmark}
    {item : SetpointAdvice} (advised : adviseUnit state best bestCode bench = some item) :
    bench.tier = .low ∧ Advises best state item := by
  simp only [adviseUnit] at advised
  -- Two cases are left: the priority is high or medium.
  split_ifs at advised with high still <;> cases advised <;>
    exact ⟨not_not.mp high, ⟨rfl, rfl, rfl, rfl, still⟩⟩

theorem adviseUnit_moving {state best : UnitOperatingState} (bestCode : String) {bench : UnitBenchmark}
    (low : bench.tier = .low)
    (moves : (setpointDeltas (currentSetpoints state) (proposedSetpoints state best)).items ≠ []) :
    ∃ item, adviseUnit state best bestCode bench = some item := by
  simp [adviseUnit, low, moves]

/-- Without raising, an analysis advises each unit by its own benchmark. -/
theorem mem_buildStructuredAdvice {states : List UnitOperatingState} {benchmarks : List UnitBenchmark}
    {advice : List SetpointAdvice} (built : buildStructuredAdvice states benchmarks = some advice) :
    ∃ top best, bestUnit states = some top ∧ byCode states top.plantCode = some best ∧
      ∀ item, item ∈ advice ↔ ∃ state ∈ states, ∃ bench, benchByCode benchmarks state.plantCode = some bench ∧
        adviseUnit state best top.plantCode bench = some item := by
  simp only [buildStructuredAdvice, bind, Option.bind_eq_some_iff] at built
  obtain ⟨top, found, best, read, each, mapped, kept⟩ := built
  refine ⟨top, best, found, read, ?_⟩
  have rows := mapM_eq_some.mp mapped
  intro item
  cases kept
  have answered (state : UnitOperatingState) : (∃ bench, benchByCode benchmarks state.plantCode = some bench ∧
      adviseUnit state best top.plantCode bench = some item) ↔
        ((benchByCode benchmarks state.plantCode).bind fun bench =>
          pure (adviseUnit state best top.plantCode bench)) = some (some item) := by
    simp [Option.bind_eq_some_iff]
  have listed : some item ∈ each ↔ some (some item) ∈ each.map some := by simp
  simp only [answered, List.mem_filterMap, id_eq, exists_eq_right, listed, ← rows, List.mem_map]

/-- The fields of a record of setpoints, the last one with its value. -/
theorem setpoints_field {temp feed fuel steam power value : ℚ} {field : String}
    (read : (setpoints temp feed fuel steam power).get? field = some value) :
    field = "reactor_temp_c" ∨ field = "feed_flow_tonh" ∨ field = "fuel_gas_flow_km3h" ∨ field = "steam_flow_tonh" ∨
      (field = "electricity_power_mw" ∧ value = power) := by
  have row := (Dict.get?_iff_mem _).mp read
  simp only [setpoints, List.mem_cons, Prod.mk.injEq, List.not_mem_nil, or_false] at row
  tauto

theorem mem_setpointDeltas_keys {current proposed : Dict String ℚ} {field : String} :
    field ∈ (setpointDeltas current proposed).keys ↔
      ∃ value, proposed.get? field = some value ∧ 5 / 100 < |value - (current.get? field).getD 0| := by
  have rows (value : ℚ) : proposed.get? field = some value ↔ (field, value) ∈ proposed.items := proposed.get?_iff_mem
  simp only [rows, setpointDeltas, Dict.keys, Dict.mapValues, Dict.filter, List.map_map, Function.comp_def,
    List.mem_map, List.mem_filter, decide_eq_true_eq, Prod.exists]
  constructor
  · rintro ⟨key, value, ⟨member, moved⟩, rfl⟩
    exact ⟨value, member, moved⟩
  · rintro ⟨value, member, moved⟩
    exact ⟨field, value, ⟨member, moved⟩, rfl⟩

section Classified
variable {states : List UnitOperatingState} {best : UnitOperatingState}

theorem buildStructuredAdvice_classified (distinct : (states.map (·.plantCode)).Nodup)
    (top : bestUnit states = some best) : ∃ advice, buildStructuredAdvice states (classifyUnits states) = some advice := by
  have each : ∀ state ∈ states, ∃ advised, (do
      let bench ← benchByCode (classifyUnits states) state.plantCode
      return adviseUnit state best best.plantCode bench) = some advised := by
    intro state member
    obtain ⟨bench, read, _⟩ := benchByCode_classifyUnits distinct top member
    exact ⟨_, by rw [read]; rfl⟩
  obtain ⟨advised, mapped⟩ := mapM_exists each
  have read := byCode_mem distinct (bestUnit_mem top)
  refine ⟨advised.filterMap id, ?_⟩
  simp only [Option.bind_eq_bind] at mapped
  simp only [buildStructuredAdvice, top, read, Option.bind_eq_bind, Option.bind_some, mapped]
  rfl

variable {advice : List SetpointAdvice}

/-- Each advice is for a low unit, toward the best one. -/
theorem classifiedAdvice_advises (distinct : (states.map (·.plantCode)).Nodup) (top : bestUnit states = some best)
    (built : buildStructuredAdvice states (classifyUnits states) = some advice) {item : SetpointAdvice}
    (member : item ∈ advice) : ∃ state ∈ states, lowTier states state ∧ Advises best state item := by
  obtain ⟨first, benchmark, found, read, listed⟩ := mem_buildStructuredAdvice built
  cases top.symm.trans found
  cases (byCode_mem distinct (bestUnit_mem top)).symm.trans read
  obtain ⟨state, among, bench, classified, advised⟩ := (listed item).mp member
  obtain ⟨_, again, low⟩ := benchByCode_classifyUnits distinct top among
  cases classified.symm.trans again
  have shape := adviseUnit_advises advised
  exact ⟨state, among, low.mp shape.1, shape.2⟩

theorem classifiedAdvice_covers (distinct : (states.map (·.plantCode)).Nodup) (top : bestUnit states = some best)
    (built : buildStructuredAdvice states (classifyUnits states) = some advice) {state : UnitOperatingState}
    (among : state ∈ states) (low : lowTier states state)
    (moves : (setpointDeltas (currentSetpoints state) (proposedSetpoints state best)).items ≠ []) :
    ∃ item ∈ advice, Advises best state item := by
  obtain ⟨first, benchmark, found, read, listed⟩ := mem_buildStructuredAdvice built
  cases top.symm.trans found
  cases (byCode_mem distinct (bestUnit_mem top)).symm.trans read
  obtain ⟨bench, classified, tier⟩ := benchByCode_classifyUnits distinct top among
  obtain ⟨item, advised⟩ := adviseUnit_moving best.plantCode (tier.mpr low) moves
  exact ⟨item, (listed item).mpr ⟨state, among, bench, classified, advised⟩, (adviseUnit_advises advised).2⟩

end Classified

/-- A unit at the given temperature and feed; the other readings are inside the envelope. -/
def unitAt (plantCode : String) (efficiency reactorTempC : ℚ) (feedFlowTonh : ℚ := 100) : UnitOperatingState where
  plantCode := plantCode
  electricityPowerMw := 15
  fuelGasFlowKm3h := 100
  steamFlowTonh := 30
  feedFlowTonh := feedFlowTonh
  reactorTempC := reactorTempC
  energyEfficiencyPercent := efficiency
  energyIntensityKgoeTon := 600

end Iems.Optimization
