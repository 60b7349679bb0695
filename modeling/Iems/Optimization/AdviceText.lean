import Iems.Optimization.Moves
import Iems.Optimization.Tiers

/-! The advice as text, against the tiers that it is about. -/
namespace Iems.Optimization
open Lib

def adviceLine (a : SetpointAdvice) : String :=
  let deltaTxt := ", ".intercalate (a.deltas.items.map fun (k, v) => k ++ " " ++ formatSigned 1 v)
  "[" ++ a.plantCode ++ "] " ++ a.title ++ ": " ++ deltaTxt ++ ". " ++
    "Est. SEC −" ++ formatFixed 1 a.estimatedSecReductionPct ++ "%, " ++
    "~" ++ formatFixed 0 a.estimatedEnergySavingKwhPerH ++ " kWh/h, " ++
    "+" ++ formatFixed 1 a.estimatedEfficiencyGainPp ++ " pp efficiency."

def allHighText : String := "All monitored units are within the high-efficiency band."

def adviceToText (items : List SetpointAdvice) : List String :=
  let lines := items.map adviceLine
  if lines = [] then lines ++ [allHighText] else lines

theorem adviceLine_bracket (a : SetpointAdvice) : ∃ rest, adviceLine a = "[" ++ rest := by
  unfold adviceLine
  simp only [String.append_assoc]
  exact ⟨_, rfl⟩

/-- The lines of the advice are told from the text that stands for none. -/
theorem adviceLine_ne (a : SetpointAdvice) : adviceLine a ≠ allHighText := by
  obtain ⟨rest, line⟩ := adviceLine_bracket a
  intro same
  have letters := congrArg String.toList (line.symm.trans same)
  rw [String.toList_append] at letters
  have heads := congrArg List.head? letters
  simp [allHighText] at heads

theorem allHighText_mem_iff (items : List SetpointAdvice) : allHighText ∈ adviceToText items ↔ items = [] := by
  unfold adviceToText
  dsimp only
  split
  · rename_i none
    simp [List.map_eq_nil_iff.mp none]
  · rename_i some_
    refine iff_of_false ?_ fun none => some_ (by rw [none]; rfl)
    intro member
    obtain ⟨a, _, same⟩ := List.mem_map.mp member
    exact adviceLine_ne a same

/-- The text says that all units are in the high band exactly when no unit is classified as low. -/
def TextAgrees (states : List UnitOperatingState) : Prop :=
  ∃ advice, buildStructuredAdvice states (classifyUnits states) = some advice ∧
    (allHighText ∈ adviceToText advice ↔ ∀ bench ∈ classifyUnits states, bench.tier ≠ .low)

section
variable {states : List UnitOperatingState} {best : UnitOperatingState}

theorem no_low_iff (top : bestUnit states = some best) :
    (∀ bench ∈ classifyUnits states, bench.tier ≠ .low) ↔ ∀ state ∈ states, ¬lowTier states state := by
  constructor
  · intro high state among low
    have member : state ∈ (classified states).map Prod.fst := by
      rw [classified, List.map_fst_zip (length_classifyUnits states).ge]
      exact among
    obtain ⟨⟨_, bench⟩, paired, rfl⟩ := List.mem_map.mp member
    obtain ⟨_, of⟩ := mem_classified top paired
    exact high bench (List.of_mem_zip paired).2 (of.tier_low.mpr low)
  · intro high bench member low
    obtain ⟨state, among, of⟩ := mem_classifyUnits top member
    exact high state among (of.tier_low.mp low)

theorem advice_nil_iff (distinct : (states.map (·.plantCode)).Nodup) (top : bestUnit states = some best)
    {advice : List SetpointAdvice} (built : buildStructuredAdvice states (classifyUnits states) = some advice) :
    advice = [] ↔ ∀ state ∈ states, lowTier states state → Unmoved best state := by
  constructor
  · rintro rfl state among low
    by_contra moved
    obtain ⟨item, member, _⟩ :=
      classifiedAdvice_covers distinct top built among low (mt (setpointDeltas_unmoved best state).mp moved)
    cases member
  · intro still
    rw [List.eq_nil_iff_forall_not_mem]
    intro item member
    obtain ⟨state, among, low, advises⟩ := classifiedAdvice_advises distinct top built member
    exact advises.moves (advises.deltas ▸ (setpointDeltas_unmoved best state).mpr (still state among low))

/-- A low unit that is to stay where it is gets no advice: if all are such, the text calls them high. -/
theorem textAgrees_iff (some_ : states ≠ []) (distinct : (states.map (·.plantCode)).Nodup) : TextAgrees states ↔
    ∀ best, bestUnit states = some best → (∀ state ∈ states, lowTier states state → Unmoved best state) →
      ∀ state ∈ states, ¬lowTier states state := by
  obtain ⟨best, top⟩ := bestUnit_exists some_
  obtain ⟨advice, built⟩ := buildStructuredAdvice_classified distinct top
  have tells : allHighText ∈ adviceToText advice ↔ ∀ state ∈ states, lowTier states state → Unmoved best state :=
    (allHighText_mem_iff advice).trans (advice_nil_iff distinct top built)
  constructor
  · rintro ⟨_, same, agrees⟩ other again still
    cases built.symm.trans same
    cases top.symm.trans again
    exact (no_low_iff top).mp (agrees.mp (tells.mpr still))
  · intro moves
    refine ⟨advice, built, ?_⟩
    rw [tells, no_low_iff top]
    constructor
    · exact moves best top
    · intro high state among low
      exact absurd low (high state among)

end

theorem textAgrees_hotter : TextAgrees [unitAt "B" 80 405, unitAt "A" 90 395] := by
  refine (textAgrees_iff (List.cons_ne_nil _ _) (by decide)).mpr ?_
  intro best top still
  have found : bestUnit [unitAt "B" 80 405, unitAt "A" 90 395] = some (unitAt "A" 90 395) := by decide +kernel
  cases found.symm.trans top
  have low : lowTier [unitAt "B" 80 405, unitAt "A" 90 395] (unitAt "B" 80 405) := by
    rw [lowTier, medianEfficiency_sorted (by norm_num [unitAt])]
    norm_num [unitAt]
  have moves : ¬Unmoved (unitAt "A" 90 395) (unitAt "B" 80 405) := by
    rw [← setpointDeltas_unmoved]
    decide +kernel
  exact absurd (still _ List.mem_cons_self low) moves

/-- Two units at one operating point, one less efficient than the other. -/
theorem low_unit_called_high : ¬ ∀ states : List UnitOperatingState, states ≠ [] →
    (states.map (·.plantCode)).Nodup → TextAgrees states := by
  intro always
  have distinct : ([unitAt "B" 80 400, unitAt "A" 90 400].map (·.plantCode)).Nodup := by decide
  obtain ⟨advice, built, agrees⟩ := always [unitAt "B" 80 400, unitAt "A" 90 400] (List.cons_ne_nil _ _) distinct
  have top : bestUnit [unitAt "B" 80 400, unitAt "A" 90 400] = some (unitAt "A" 90 400) := by decide +kernel
  have low : lowTier [unitAt "B" 80 400, unitAt "A" 90 400] (unitAt "B" 80 400) := by
    rw [lowTier, medianEfficiency_sorted (by norm_num [unitAt])]
    norm_num [unitAt]
  have still : ∀ state ∈ [unitAt "B" 80 400, unitAt "A" 90 400],
      lowTier [unitAt "B" 80 400, unitAt "A" 90 400] state → Unmoved (unitAt "A" 90 400) state := by
    intro state among _
    simp only [List.mem_cons, List.not_mem_nil, or_false] at among
    rw [← setpointDeltas_unmoved]
    rcases among with rfl | rfl <;> decide +kernel
  have tells := (allHighText_mem_iff advice).mpr ((advice_nil_iff distinct top built).mpr still)
  exact (no_low_iff top).mp (agrees.mp tells) _ List.mem_cons_self low

end Iems.Optimization
