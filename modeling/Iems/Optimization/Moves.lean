import Iems.Lib.Rounding
import Iems.Optimization.Advice

/-! How far, and in which direction, an advice moves a unit, and whether the move closes the gap to the benchmark. -/
namespace Iems.Optimization
open Lib

/-! ### One move: shifted, clipped to the envelope and rounded -/

section Move
variable {x δ down up : ℚ} {lo hi : ℤ}

theorem clipTo_bounds (value : ℚ) {low high : ℚ} (ordered : low ≤ high) :
    low ≤ clipTo value low high ∧ clipTo value low high ≤ high :=
  ⟨le_max_left _ _, max_le ordered (min_le_left _ _)⟩

theorem clipTo_below {value low high : ℚ} (under : value ≤ low) : clipTo value low high = low :=
  max_eq_left ((min_le_right _ _).trans under)

theorem clipTo_above {value low high : ℚ} (ordered : low ≤ high) (reached : high ≤ value) : clipTo value low high = high := by
  rw [clipTo, min_eq_left reached, max_eq_right ordered]

theorem clipTo_inside {value low high : ℚ} (reached : low ≤ value) (within : value ≤ high) :
    clipTo value low high = value := by
  rw [clipTo, min_eq_right within, max_eq_right reached]

theorem roundTo_int (n : ℤ) : roundTo 2 (n : ℚ) = n := le_antisymm (roundTo_le le_rfl) (le_roundTo le_rfl)

theorem move_cases (ordered : lo ≤ hi) (x δ : ℚ) :
    (x + δ ≤ lo ∧ roundTo 2 (clipTo (x + δ) lo hi) = lo) ∨
    (hi ≤ x + δ ∧ roundTo 2 (clipTo (x + δ) lo hi) = hi) ∨
    (lo < x + δ ∧ x + δ < hi ∧ roundTo 2 (clipTo (x + δ) lo hi) = roundTo 2 (x + δ)) := by
  rcases le_or_gt (x + δ) lo with under | inside
  · exact Or.inl ⟨under, by rw [clipTo_below under, roundTo_int]⟩
  · rcases le_or_gt (hi : ℚ) (x + δ) with reached | within
    · exact Or.inr (Or.inl ⟨reached, by rw [clipTo_above (Int.cast_le.mpr ordered) reached, roundTo_int]⟩)
    · exact Or.inr (Or.inr ⟨inside, within, by rw [clipTo_inside inside.le within.le]⟩)

/-- The clipping lengthens no move exactly when the reading was no farther outside than the move may reach. -/
theorem move_within_iff (ordered : lo ≤ hi) (least : -down ≤ δ) (most : δ ≤ up) :
    (-down - 1 / 200 ≤ roundTo 2 (clipTo (x + δ) lo hi) - x ∧
      roundTo 2 (clipTo (x + δ) lo hi) - x ≤ up + 1 / 200) ↔
    lo - up - 1 / 200 ≤ x ∧ x ≤ hi + down + 1 / 200 := by
  have limits : (lo : ℚ) ≤ hi := Int.cast_le.mpr ordered
  obtain ⟨under, moved⟩ | ⟨reached, moved⟩ | ⟨inside, within, moved⟩ := move_cases ordered x δ <;> rw [moved]
  · constructor
    · rintro ⟨_, short⟩
      constructor <;> linarith
    · rintro ⟨near, _⟩
      constructor <;> linarith
  · constructor
    · rintro ⟨short, _⟩
      constructor <;> linarith
    · rintro ⟨_, near⟩
      constructor <;> linarith
  · obtain ⟨low, high⟩ := roundTo_near (x + δ)
    constructor
    · intro
      constructor <;> linarith
    · intro
      constructor <;> linarith

/-- A step toward a limit `b` on the low side, at most twice the gap, ends no farther from it. -/
theorem down_closes {b step : ℚ} (ordered : lo ≤ hi) (forward : 0 < step) (short : step ≤ (x - b) + (x - b))
    (reached : lo ≤ b) (within : x ≤ hi) :
    |roundTo 2 (clipTo (x + -step) lo hi) - b| ≤ |x - b| + 1 / 200 := by
  have gap : |x - b| = x - b := abs_of_nonneg (by linarith)
  obtain ⟨low, high⟩ := roundTo_near (x + -step)
  rw [gap, abs_le]
  obtain ⟨under, moved⟩ | ⟨past, _⟩ | ⟨_, _, moved⟩ := move_cases ordered x (-step)
  · rw [moved]
    constructor <;> linarith
  · linarith
  · rw [moved]
    constructor <;> linarith

theorem up_closes {b step : ℚ} (ordered : lo ≤ hi) (forward : 0 < step) (short : step ≤ (b - x) + (b - x))
    (reached : lo ≤ x) (within : b ≤ hi) :
    |roundTo 2 (clipTo (x + step) lo hi) - b| ≤ |x - b| + 1 / 200 := by
  have gap : |x - b| = b - x := by rw [abs_sub_comm]; exact abs_of_nonneg (by linarith)
  obtain ⟨low, high⟩ := roundTo_near (x + step)
  rw [gap, abs_le]
  obtain ⟨past, _⟩ | ⟨above, moved⟩ | ⟨_, _, moved⟩ := move_cases ordered x step
  · linarith
  · rw [moved]
    constructor <;> linarith
  · rw [moved]
    constructor <;> linarith

theorem roundTo_add_int (x : ℚ) (n : ℤ) : roundTo 2 (x + n) = roundTo 2 x + n := by
  have shifted := roundDigits_add_int 1 x n
  rwa [roundDigits_rat, roundDigits_rat] at shifted

/-- A whole step down past a limit ends no farther from it exactly when the gap is wide enough, or the envelope
stops the step. -/
theorem intStep_closes_iff {b : ℚ} {n : ℤ} (ordered : lo ≤ hi) (forward : 0 < n) (above : b ≤ x) (reached : lo ≤ b)
    (within : x ≤ hi) :
    |roundTo 2 (clipTo (x + -n) lo hi) - b| ≤ |x - b| + 1 / 200 ↔
      n + (x - roundTo 2 x) ≤ 2 * (x - b) + 1 / 200 ∨ b - lo ≤ x - b + 1 / 200 := by
  have gap : |x - b| = x - b := abs_of_nonneg (by linarith)
  have positive : (0 : ℚ) < n := Int.cast_pos.mpr forward
  obtain ⟨low, high⟩ := roundTo_near x
  rw [gap, abs_le]
  obtain ⟨under, moved⟩ | ⟨past, _⟩ | ⟨inside, _, moved⟩ := move_cases ordered x (-n)
  · have bounded : roundTo 2 x ≤ lo + n := by
      rw [← Int.cast_add]
      exact roundTo_le (by push_cast; linarith)
    rw [moved]
    constructor
    · rintro ⟨close, _⟩
      exact Or.inr (by linarith)
    · rintro (fits | stopped) <;> constructor <;> linarith
  · linarith
  · have shifted : roundTo 2 (x + -n) = roundTo 2 x - n := by
      rw [← Int.cast_neg, roundTo_add_int]
      push_cast
      ring
    have kept : (lo : ℚ) ≤ roundTo 2 (x + -n) := le_roundTo inside.le
    rw [moved]
    constructor
    · rintro ⟨close, _⟩
      exact Or.inl (by linarith)
    · rintro (fits | stopped) <;> constructor <;> linarith

/-- A least step of at most twice the dead band makes no step longer than twice the gap. -/
theorem clipTo_le_double {gap dead least most : ℚ} (compatible : least ≤ dead + dead) (wide : dead < gap)
    (positive : 0 < dead) : clipTo gap least most ≤ gap + gap :=
  max_le (by linarith) ((min_le_right _ _).trans (by linarith))

/-- A reading that stays where it is: not shifted and inside, or held against the limit it is pushed to. -/
def StaysPut (x δ lo hi : ℚ) : Prop :=
  (δ = 0 ∧ lo - 1 / 20 ≤ x ∧ x ≤ hi + 1 / 20) ∨ (δ < 0 ∧ |x - lo| ≤ 1 / 20) ∨ (0 < δ ∧ |x - hi| ≤ 1 / 20)

theorem staysPut_iff (ordered : lo ≤ hi) (coarse : δ = 0 ∨ δ ≤ -1 ∨ 1 ≤ δ) :
    |roundTo 2 (clipTo (x + δ) lo hi) - x| ≤ 1 / 20 ↔ StaysPut x δ lo hi := by
  have limits : (lo : ℚ) ≤ hi := Int.cast_le.mpr ordered
  obtain ⟨low, high⟩ := roundTo_near (x + δ)
  simp only [StaysPut, abs_le]
  obtain ⟨under, moved⟩ | ⟨reached, moved⟩ | ⟨inside, within, moved⟩ := move_cases ordered x δ <;> rw [moved]
  · constructor
    · rintro ⟨near, far⟩
      rcases coarse with rest | down | up
      · exact Or.inl ⟨rest, by linarith, by linarith⟩
      · exact Or.inr (Or.inl ⟨by linarith, by linarith, by linarith⟩)
      · linarith
    · rintro (⟨rest, near, _⟩ | ⟨_, near, far⟩ | ⟨up, near, _⟩) <;> constructor <;> linarith
  · constructor
    · rintro ⟨near, far⟩
      rcases coarse with rest | down | up
      · exact Or.inl ⟨rest, by linarith, by linarith⟩
      · linarith
      · exact Or.inr (Or.inr ⟨by linarith, by linarith, by linarith⟩)
    · rintro (⟨rest, _, near⟩ | ⟨down, _, near⟩ | ⟨_, near, far⟩) <;> constructor <;> linarith
  · constructor
    · rintro ⟨near, far⟩
      rcases coarse with rest | down | up
      · exact Or.inl ⟨rest, by linarith, by linarith⟩
      · linarith
      · linarith
    · rintro (⟨rest, _, _⟩ | ⟨down, near, far⟩ | ⟨up, near, far⟩)
      · constructor <;> linarith
      · rcases coarse with rest | below | above <;> constructor <;> linarith
      · rcases coarse with rest | below | above <;> constructor <;> linarith

end Move

/-! ### The four setpoints an advice may move -/

inductive Setpoint where
  | reactorTemp | feedFlow | fuelGas | steamFlow
  deriving DecidableEq

namespace Setpoint

def field : Setpoint → String
  | reactorTemp => "reactor_temp_c"
  | feedFlow => "feed_flow_tonh"
  | fuelGas => "fuel_gas_flow_km3h"
  | steamFlow => "steam_flow_tonh"

def reading (v : Setpoint) (state : UnitOperatingState) : ℚ :=
  match v with
  | reactorTemp => state.reactorTempC
  | feedFlow => state.feedFlowTonh
  | fuelGas => state.fuelGasFlowKm3h
  | steamFlow => state.steamFlowTonh

def delta (v : Setpoint) (state best : UnitOperatingState) : ℚ :=
  match v with
  | reactorTemp => tempDelta state best
  | feedFlow => feedDelta state best
  | fuelGas => fuelDelta state best
  | steamFlow => steamDelta state best

/-- The operating envelope. -/
def lowest : Setpoint → ℤ
  | reactorTemp => 380
  | feedFlow => 80
  | fuelGas => 50
  | steamFlow => 10

def highest : Setpoint → ℤ
  | reactorTemp => 420
  | feedFlow => 120
  | fuelGas => 150
  | steamFlow => 50

/-- The largest move down, and the largest move up. -/
def fall : Setpoint → ℚ
  | reactorTemp => 10
  | feedFlow => 0
  | fuelGas => 15
  | steamFlow => 8

def rise : Setpoint → ℚ
  | feedFlow => 10
  | _ => 0

def proposal (v : Setpoint) (state best : UnitOperatingState) : ℚ :=
  roundTo 2 (clipTo (v.reading state + v.delta state best) v.lowest v.highest)

theorem ordered (v : Setpoint) : v.lowest ≤ v.highest := by
  cases v <;> decide

theorem current_get (v : Setpoint) (state : UnitOperatingState) :
    (currentSetpoints state).get? v.field = some (v.reading state) := by
  cases v <;> rfl

theorem proposed_get (v : Setpoint) (state best : UnitOperatingState) :
    (proposedSetpoints state best).get? v.field = some (v.proposal state best) := by
  cases v <;> simp [proposal, lowest, highest] <;> rfl

variable {state best : UnitOperatingState}

theorem delta_cases (v : Setpoint) (state best : UnitOperatingState) :
    v.delta state best = 0 ∨ (-v.fall ≤ v.delta state best ∧ v.delta state best ≤ -1) ∨
      (1 ≤ v.delta state best ∧ v.delta state best ≤ v.rise) := by
  cases v with
  | reactorTemp =>
    obtain ⟨least, most⟩ := clipTo_bounds (state.reactorTempC - best.reactorTempC) (show (3 : ℚ) ≤ 10 by norm_num)
    simp only [delta, fall, tempDelta]
    split_ifs
    · exact Or.inr (Or.inl ⟨by linarith, by linarith⟩)
    · exact Or.inr (Or.inl ⟨by norm_num, by norm_num⟩)
    · exact Or.inl rfl
  | feedFlow =>
    obtain ⟨least, most⟩ := clipTo_bounds (best.feedFlowTonh - state.feedFlowTonh) (show (2 : ℚ) ≤ 10 by norm_num)
    simp only [delta, rise, feedDelta]
    split_ifs
    · exact Or.inr (Or.inr ⟨by linarith, most⟩)
    · exact Or.inr (Or.inr ⟨by norm_num, by norm_num⟩)
    · exact Or.inl rfl
  | fuelGas =>
    obtain ⟨least, most⟩ := clipTo_bounds (state.fuelGasFlowKm3h - best.fuelGasFlowKm3h) (show (2 : ℚ) ≤ 15 by norm_num)
    simp only [delta, fall, fuelDelta]
    split_ifs
    · exact Or.inr (Or.inl ⟨by linarith, by linarith⟩)
    · exact Or.inl rfl
  | steamFlow =>
    obtain ⟨least, most⟩ := clipTo_bounds (state.steamFlowTonh - best.steamFlowTonh) (show (1 : ℚ) ≤ 8 by norm_num)
    simp only [delta, fall, steamDelta]
    split_ifs
    · exact Or.inr (Or.inl ⟨by linarith, by linarith⟩)
    · exact Or.inl rfl

theorem caps_nonneg (v : Setpoint) : 0 ≤ v.fall ∧ 0 ≤ v.rise := by
  cases v <;> simp [fall, rise]

theorem delta_within (v : Setpoint) (state best : UnitOperatingState) :
    -v.fall ≤ v.delta state best ∧ v.delta state best ≤ v.rise := by
  have caps := v.caps_nonneg
  rcases v.delta_cases state best with rest | down | up <;> constructor <;> linarith

theorem delta_coarse (v : Setpoint) (state best : UnitOperatingState) :
    v.delta state best = 0 ∨ v.delta state best ≤ -1 ∨ 1 ≤ v.delta state best := by
  rcases v.delta_cases state best with rest | down | up
  · exact Or.inl rest
  · exact Or.inr (Or.inl down.2)
  · exact Or.inr (Or.inr up.1)

theorem proposal_within_iff (v : Setpoint) (state best : UnitOperatingState) :
    (-v.fall - 1 / 200 ≤ v.proposal state best - v.reading state ∧
      v.proposal state best - v.reading state ≤ v.rise + 1 / 200) ↔
    v.lowest - v.rise - 1 / 200 ≤ v.reading state ∧ v.reading state ≤ v.highest + v.fall + 1 / 200 :=
  move_within_iff v.ordered (v.delta_within state best).1 (v.delta_within state best).2

end Setpoint

variable {states : List UnitOperatingState} {best state : UnitOperatingState} {item : SetpointAdvice}

/-- The setpoints of an advice all stay where they are. -/
def Unmoved (best state : UnitOperatingState) : Prop :=
  ∀ v : Setpoint, StaysPut (v.reading state) (v.delta state best) v.lowest v.highest

/-- A unit has something to move unless all four setpoints are held: the power is never moved. -/
theorem setpointDeltas_unmoved (best state : UnitOperatingState) :
    (setpointDeltas (currentSetpoints state) (proposedSetpoints state best)).items = [] ↔ Unmoved best state := by
  have held (v : Setpoint) : StaysPut (v.reading state) (v.delta state best) v.lowest v.highest ↔
      v.field ∉ (setpointDeltas (currentSetpoints state) (proposedSetpoints state best)).keys := by
    rw [← staysPut_iff v.ordered (v.delta_coarse state best), mem_setpointDeltas_keys, v.proposed_get, v.current_get]
    norm_num [Setpoint.proposal]
  have keys : (setpointDeltas (currentSetpoints state) (proposedSetpoints state best)).items = [] ↔
      (setpointDeltas (currentSetpoints state) (proposedSetpoints state best)).keys = [] := List.map_eq_nil_iff.symm
  simp only [Unmoved, held, keys]
  constructor
  · intro none v
    rw [none]
    exact List.not_mem_nil
  · intro unmoved
    rw [List.eq_nil_iff_forall_not_mem]
    intro field listed
    obtain ⟨value, proposed, moved⟩ := mem_setpointDeltas_keys.mp listed
    rcases setpoints_field proposed with rfl | rfl | rfl | rfl | ⟨rfl, power⟩
    · exact unmoved .reactorTemp listed
    · exact unmoved .feedFlow listed
    · exact unmoved .fuelGas listed
    · exact unmoved .steamFlow listed
    · have current : (currentSetpoints state).get? "electricity_power_mw" = some state.electricityPowerMw := rfl
      obtain ⟨low, high⟩ := roundTo_near state.electricityPowerMw
      rw [current, Option.getD_some, power, lt_abs] at moved
      rcases moved with above | below <;> linarith

/-! ### The size of the moves -/

/-- The move of each setpoint is within its caps, up to the rounding. -/
def BoundedMove (item : SetpointAdvice) : Prop :=
  ∀ v : Setpoint, ∃ before after, item.current.get? v.field = some before ∧ item.proposed.get? v.field = some after ∧
    -v.fall - 1 / 200 ≤ after - before ∧ after - before ≤ v.rise + 1 / 200

/-- No reading is farther outside the envelope than the largest move toward it. -/
def NearEnvelope (state : UnitOperatingState) : Prop :=
  ∀ v : Setpoint, v.lowest - v.rise - 1 / 200 ≤ v.reading state ∧ v.reading state ≤ v.highest + v.fall + 1 / 200

theorem Advises.boundedMove_iff (advises : Advises best state item) : BoundedMove item ↔ NearEnvelope state := by
  have moves (v : Setpoint) : (∃ before after, item.current.get? v.field = some before ∧
      item.proposed.get? v.field = some after ∧
      -v.fall - 1 / 200 ≤ after - before ∧ after - before ≤ v.rise + 1 / 200) ↔
        -v.fall - 1 / 200 ≤ v.proposal state best - v.reading state ∧
          v.proposal state best - v.reading state ≤ v.rise + 1 / 200 := by
    rw [advises.current, advises.proposed, v.current_get, v.proposed_get]
    constructor
    · rintro ⟨before, after, read, proposed, within⟩
      cases read
      cases proposed
      exact within
    · intro within
      exact ⟨_, _, rfl, rfl, within⟩
  simp only [BoundedMove, NearEnvelope, moves, Setpoint.proposal_within_iff]

/-- The clipping to the envelope follows the caps, so a reading far outside is pulled in by more than any cap. -/
theorem buildStructuredAdvice_bounded_iff (distinct : (states.map (·.plantCode)).Nodup) :
    (∀ advice, buildStructuredAdvice states (classifyUnits states) = some advice → ∀ item ∈ advice, BoundedMove item) ↔
      ∀ best, bestUnit states = some best → ∀ state ∈ states, lowTier states state →
        NearEnvelope state ∨ Unmoved best state := by
  constructor
  · intro bounded best top state among low
    obtain ⟨advice, built⟩ := buildStructuredAdvice_classified distinct top
    by_cases unmoved : Unmoved best state
    · exact Or.inr unmoved
    · have moves := mt (setpointDeltas_unmoved best state).mp unmoved
      obtain ⟨item, member, advises⟩ := classifiedAdvice_covers distinct top built among low moves
      exact Or.inl (advises.boundedMove_iff.mp (bounded advice built item member))
  · intro near advice built item member
    obtain ⟨best, _, top, _⟩ := mem_buildStructuredAdvice built
    obtain ⟨state, among, low, advises⟩ := classifiedAdvice_advises distinct top built member
    rcases near best top state among low with close | unmoved
    · exact advises.boundedMove_iff.mpr close
    · exact absurd ((setpointDeltas_unmoved best state).mpr unmoved) (advises.deltas ▸ advises.moves)

theorem buildStructuredAdvice_bounded_near :
    ∃ advice, buildStructuredAdvice [unitAt "A" 90 395, unitAt "B" 80 405]
        (classifyUnits [unitAt "A" 90 395, unitAt "B" 80 405]) = some advice ∧
      ∀ item ∈ advice, BoundedMove item := by
  have distinct : ([unitAt "A" 90 395, unitAt "B" 80 405].map (·.plantCode)).Nodup := by decide
  have top : bestUnit [unitAt "A" 90 395, unitAt "B" 80 405] = some (unitAt "A" 90 395) := by decide +kernel
  obtain ⟨advice, built⟩ := buildStructuredAdvice_classified distinct top
  refine ⟨advice, built, (buildStructuredAdvice_bounded_iff distinct).mpr ?_ advice built⟩
  intro best _ state among _
  refine Or.inl ?_
  simp only [List.mem_cons, List.not_mem_nil, or_false] at among
  rcases among with rfl | rfl <;> intro v <;> cases v <;>
    simp [Setpoint.reading, Setpoint.lowest, Setpoint.highest, Setpoint.fall, Setpoint.rise, unitAt] <;> norm_num

/-- A cold reactor is heated by 30 degrees. -/
theorem buildStructuredAdvice_heats :
    ¬ ∀ states : List UnitOperatingState, (states.map (·.plantCode)).Nodup → ∀ advice,
      buildStructuredAdvice states (classifyUnits states) = some advice → ∀ item ∈ advice, BoundedMove item := by
  intro bounded
  have distinct : ([unitAt "B" 80 350, unitAt "A" 90 400].map (·.plantCode)).Nodup := by decide
  have top : bestUnit [unitAt "B" 80 350, unitAt "A" 90 400] = some (unitAt "A" 90 400) := by decide +kernel
  have low : lowTier [unitAt "B" 80 350, unitAt "A" 90 400] (unitAt "B" 80 350) := by
    rw [lowTier, medianEfficiency_sorted (by norm_num [unitAt])]
    norm_num [unitAt]
  have moves : (setpointDeltas (currentSetpoints (unitAt "B" 80 350))
      (proposedSetpoints (unitAt "B" 80 350) (unitAt "A" 90 400))).items ≠ [] := by decide +kernel
  obtain ⟨advice, built⟩ := buildStructuredAdvice_classified distinct top
  obtain ⟨item, member, advises⟩ := classifiedAdvice_covers distinct top built (by simp) low moves
  have near := advises.boundedMove_iff.mp (bounded _ distinct advice built item member) .reactorTemp
  norm_num [Setpoint.reading, Setpoint.lowest, Setpoint.rise, unitAt] at near

/-! ### The gap to the benchmark -/

namespace Setpoint

def deadBand : Setpoint → ℚ
  | steamFlow => 1 / 2
  | _ => 1

/-- The distance to the benchmark, positive on the side that is corrected. -/
def gap (v : Setpoint) (state best : UnitOperatingState) : ℚ :=
  match v with
  | feedFlow => v.reading best - v.reading state
  | _ => v.reading state - v.reading best

def leastStep : Setpoint → ℚ
  | reactorTemp => 3
  | feedFlow => 2
  | fuelGas => 2
  | steamFlow => 1

def mostStep : Setpoint → ℚ
  | reactorTemp => 10
  | feedFlow => 10
  | fuelGas => 15
  | steamFlow => 8

/-- The step that corrects a gap. -/
def step (v : Setpoint) (state best : UnitOperatingState) : ℚ :=
  clipTo (v.gap state best) v.leastStep v.mostStep

theorem delta_wide {v : Setpoint} (wide : v.deadBand < v.gap state best) :
    v.delta state best = if v = feedFlow then v.step state best else -v.step state best := by
  cases v with
  | feedFlow =>
    simp only [deadBand, gap, reading] at wide
    exact if_pos (by linarith)
  | reactorTemp =>
    simp only [deadBand, gap, reading] at wide
    exact if_pos (by linarith)
  | fuelGas =>
    simp only [deadBand, gap, reading] at wide
    exact if_pos (by linarith)
  | steamFlow =>
    simp only [deadBand, gap, reading] at wide
    exact if_pos (by linarith)

theorem leastStep_le_step (v : Setpoint) (state best : UnitOperatingState) : v.leastStep ≤ v.step state best :=
  (clipTo_bounds _ (by cases v <;> norm_num [leastStep, mostStep])).1

theorem one_le_leastStep (v : Setpoint) : 1 ≤ v.leastStep := by
  cases v <;> norm_num [leastStep]

theorem deadBand_pos (v : Setpoint) : 1 / 2 ≤ v.deadBand := by
  cases v <;> norm_num [deadBand]

/-- The least steps are at most twice the dead bands, the temperature's apart. -/
theorem step_short {v : Setpoint} (other : v ≠ reactorTemp) (wide : v.deadBand < v.gap state best) :
    v.step state best ≤ v.gap state best + v.gap state best := by
  refine clipTo_le_double ?_ wide (by linarith [v.deadBand_pos])
  cases v with
  | reactorTemp => exact absurd rfl other
  | feedFlow => norm_num [leastStep, deadBand]
  | fuelGas => norm_num [leastStep, deadBand]
  | steamFlow => norm_num [leastStep, deadBand]

def InEnvelope (v : Setpoint) (state : UnitOperatingState) : Prop :=
  v.lowest ≤ v.reading state ∧ v.reading state ≤ v.highest

/-- The proposal is no farther from the benchmark than the reading is, up to the rounding. -/
def Closes (v : Setpoint) (state best : UnitOperatingState) (after : ℚ) : Prop :=
  |after - v.reading best| ≤ |v.reading state - v.reading best| + 1 / 200

end Setpoint

/-- The least step down of three degrees does not carry the reactor past the benchmark by more than the gap: the
gap is wide enough, or the envelope stops the step. -/
def StepFits (state best : UnitOperatingState) : Prop :=
  3 + (state.reactorTempC - roundTo 2 state.reactorTempC) ≤
      2 * (state.reactorTempC - best.reactorTempC) + 1 / 200 ∨
    best.reactorTempC - 380 ≤ state.reactorTempC - best.reactorTempC + 1 / 200

/-- A least step of three degrees against a dead band of one degree. -/
theorem reactorTemp_closes_iff (wide : Setpoint.reactorTemp.deadBand < Setpoint.reactorTemp.gap state best)
    (inside : Setpoint.reactorTemp.InEnvelope state) (aligned : Setpoint.reactorTemp.InEnvelope best) :
    Setpoint.reactorTemp.Closes state best (Setpoint.reactorTemp.proposal state best) ↔ StepFits state best := by
  have delta : tempDelta state best = -clipTo (state.reactorTempC - best.reactorTempC) 3 10 :=
    Setpoint.delta_wide wide
  simp only [Setpoint.deadBand, Setpoint.gap, Setpoint.reading] at wide
  simp only [Setpoint.InEnvelope, Setpoint.reading] at inside aligned
  simp only [Setpoint.Closes, Setpoint.proposal, Setpoint.reading, Setpoint.delta, delta, StepFits]
  rcases le_or_gt (state.reactorTempC - best.reactorTempC) 3 with least | far
  · -- The step is the least one.
    have step : clipTo (state.reactorTempC - best.reactorTempC) 3 10 = (3 : ℤ) := clipTo_below least
    rw [step]
    exact intStep_closes_iff Setpoint.reactorTemp.ordered (by norm_num) (by linarith) aligned.1 inside.2
  · -- The step is at most the gap.
    have forward := (clipTo_bounds (state.reactorTempC - best.reactorTempC) (show (3 : ℚ) ≤ 10 by norm_num)).1
    have short : clipTo (state.reactorTempC - best.reactorTempC) 3 10 ≤
        (state.reactorTempC - best.reactorTempC) + (state.reactorTempC - best.reactorTempC) :=
      clipTo_le_double (by norm_num) far (by norm_num)
    obtain ⟨low, high⟩ := roundTo_near state.reactorTempC
    refine iff_of_true ?_ (Or.inl (by linarith))
    exact down_closes Setpoint.reactorTemp.ordered (by linarith) short aligned.1 inside.2

theorem proposal_closes {v : Setpoint} (other : v ≠ .reactorTemp) (wide : v.deadBand < v.gap state best)
    (inside : v.InEnvelope state) (aligned : v.InEnvelope best) : v.Closes state best (v.proposal state best) := by
  have forward : 0 < v.step state best := by linarith [v.leastStep_le_step state best, v.one_le_leastStep]
  have short := Setpoint.step_short other wide
  rw [Setpoint.Closes, Setpoint.proposal, Setpoint.delta_wide wide]
  cases v with
  | reactorTemp => exact absurd rfl other
  | feedFlow => exact up_closes Setpoint.feedFlow.ordered forward short inside.1 aligned.2
  | fuelGas => exact down_closes Setpoint.fuelGas.ordered forward short aligned.1 inside.2
  | steamFlow => exact down_closes Setpoint.steamFlow.ordered forward short aligned.1 inside.2

/-- Beyond the dead band a setpoint is not held: the limit it is pushed to lies behind the benchmark. -/
theorem not_unmoved {v : Setpoint} (wide : v.deadBand < v.gap state best) (aligned : v.InEnvelope best) :
    ¬ Unmoved best state := by
  intro unmoved
  have forward := v.leastStep_le_step state best
  have large := v.one_le_leastStep
  have band := v.deadBand_pos
  have held := unmoved v
  obtain ⟨reached, within⟩ := aligned
  rw [Setpoint.delta_wide wide] at held
  simp only [StaysPut, abs_le] at held
  by_cases upward : v = .feedFlow
  · rw [if_pos upward] at held
    have gap : v.gap state best = v.reading best - v.reading state := by rw [upward]; rfl
    rcases held with ⟨rest, _⟩ | ⟨down, _⟩ | ⟨_, near, _⟩ <;> linarith
  · rw [if_neg upward] at held
    have gap : v.gap state best = v.reading state - v.reading best := by
      cases v with
      | feedFlow => exact absurd rfl upward
      | reactorTemp => rfl
      | fuelGas => rfl
      | steamFlow => rfl
    rcases held with ⟨rest, _⟩ | ⟨_, _, near⟩ | ⟨up, _⟩ <;> linarith

/-- Each low unit that is off its benchmark is advised a value no farther from it. -/
def Aligned (states : List UnitOperatingState) : Prop :=
  ∀ best, bestUnit states = some best → ∀ state ∈ states, lowTier states state →
    ∀ v : Setpoint, v.deadBand < v.gap state best → v.InEnvelope state → v.InEnvelope best →
      ∀ advice, buildStructuredAdvice states (classifyUnits states) = some advice →
        ∃ item ∈ advice, item.plantCode = state.plantCode ∧
          ∃ after, item.proposed.get? v.field = some after ∧ v.Closes state best after

theorem Aligned.stepFits (aligned : Aligned states) (distinct : (states.map (·.plantCode)).Nodup)
    (top : bestUnit states = some best) (among : state ∈ states) (low : lowTier states state)
    (wide : Setpoint.reactorTemp.deadBand < Setpoint.reactorTemp.gap state best)
    (inside : Setpoint.reactorTemp.InEnvelope state) (stands : Setpoint.reactorTemp.InEnvelope best) :
    StepFits state best := by
  obtain ⟨advice, built⟩ := buildStructuredAdvice_classified distinct top
  obtain ⟨item, member, code, after, proposed, closes⟩ :=
    aligned best top state among low .reactorTemp wide inside stands advice built
  obtain ⟨advised, listed, _, advises⟩ := classifiedAdvice_advises distinct top built member
  have same : advised = state := List.inj_on_of_nodup_map distinct listed among (advises.plantCode.symm.trans code)
  rw [advises.proposed, same, Setpoint.proposed_get] at proposed
  cases proposed
  exact (reactorTemp_closes_iff wide inside stands).mp closes

/-- Only the reactor temperature can be moved away from the benchmark: its least step is longer than twice its
dead band. -/
theorem aligned_iff (distinct : (states.map (·.plantCode)).Nodup) :
    Aligned states ↔ ∀ best, bestUnit states = some best → ∀ state ∈ states, lowTier states state →
      Setpoint.reactorTemp.deadBand < Setpoint.reactorTemp.gap state best →
      Setpoint.reactorTemp.InEnvelope state → Setpoint.reactorTemp.InEnvelope best → StepFits state best := by
  constructor
  · intro aligned best top state among low wide inside stands
    exact aligned.stepFits distinct top among low wide inside stands
  · intro fits best top state among low v wide inside stands advice built
    have moves := mt (setpointDeltas_unmoved best state).mp (not_unmoved wide stands)
    obtain ⟨item, member, advises⟩ := classifiedAdvice_covers distinct top built among low moves
    refine ⟨item, member, advises.plantCode, v.proposal state best, ?_, ?_⟩
    · rw [advises.proposed, v.proposed_get]
    · by_cases temp : v = .reactorTemp
      · subst temp
        exact (reactorTemp_closes_iff wide inside stands).mpr (fits best top state among low wide inside stands)
      · exact proposal_closes temp wide inside stands

theorem aligned_wide : Aligned [unitAt "B" 80 410, unitAt "A" 90 400] := by
  refine (aligned_iff (by decide)).mpr ?_
  intro best top state among _ wide _ _
  have found : bestUnit [unitAt "B" 80 410, unitAt "A" 90 400] = some (unitAt "A" 90 400) := by decide +kernel
  cases found.symm.trans top
  simp only [List.mem_cons, List.not_mem_nil, or_false] at among
  rcases among with rfl | rfl
  · exact Or.inl (by decide +kernel)
  · norm_num [Setpoint.deadBand, Setpoint.gap, Setpoint.reading, unitAt] at wide

/-- A reactor 1.2 degrees too hot is advised to be 1.8 degrees too cold. -/
theorem not_aligned : ¬ ∀ states : List UnitOperatingState, (states.map (·.plantCode)).Nodup → Aligned states := by
  intro aligned
  have distinct : ([unitAt "B" 80 (4012 / 10), unitAt "A" 90 400].map (·.plantCode)).Nodup := by decide
  have top : bestUnit [unitAt "B" 80 (4012 / 10), unitAt "A" 90 400] = some (unitAt "A" 90 400) := by decide +kernel
  have low : lowTier [unitAt "B" 80 (4012 / 10), unitAt "A" 90 400] (unitAt "B" 80 (4012 / 10)) := by
    rw [lowTier, medianEfficiency_sorted (by norm_num [unitAt])]
    norm_num [unitAt]
  have wide : Setpoint.reactorTemp.deadBand <
      Setpoint.reactorTemp.gap (unitAt "B" 80 (4012 / 10)) (unitAt "A" 90 400) := by
    norm_num [Setpoint.deadBand, Setpoint.gap, Setpoint.reading, unitAt]
  have inside : Setpoint.reactorTemp.InEnvelope (unitAt "B" 80 (4012 / 10)) := by
    norm_num [Setpoint.InEnvelope, Setpoint.lowest, Setpoint.highest, Setpoint.reading, unitAt]
  have stands : Setpoint.reactorTemp.InEnvelope (unitAt "A" 90 400) := by
    norm_num [Setpoint.InEnvelope, Setpoint.lowest, Setpoint.highest, Setpoint.reading, unitAt]
  rcases (aligned _ distinct).stepFits distinct top (by simp) low wide inside stands with fits | stopped
  · exact absurd fits (by decide +kernel)
  · norm_num [unitAt] at stopped

end Iems.Optimization
