import Iems.Optimization.Moves
import Iems.Services.Physics

/-! The physics of a plant at the setpoints of an advice, against the physics at its current ones. -/
namespace Iems.Optimization
open Lib Services

/-- The formulas before their output is rounded. -/
structure PhysicsValues where
  energyIntensity : ℚ
  carbonEmissionIntensity : ℚ
  energyEfficiency : ℚ
  deriving DecidableEq

def physicsAt (point : Dict String ℚ) : Option PhysicsValues := do
  let temp ← point.get? "reactor_temp_c"
  let feed ← point.get? "feed_flow_tonh"
  let fuel ← point.get? "fuel_gas_flow_km3h"
  let steam ← point.get? "steam_flow_tonh"
  let power ← point.get? "electricity_power_mw"
  let intensity := energyIntensity fuel steam feed temp
  return ⟨intensity, carbonEmissionIntensity fuel steam power, energyEfficiency intensity⟩

/-- Not worse, but for what rounding five proposals to cents may cost. -/
structure NotWorse (before after : PhysicsValues) : Prop where
  intensity : after.energyIntensity ≤ before.energyIntensity + 145 / 10000
  carbon : after.carbonEmissionIntensity ≤ before.carbonEmissionIntensity + 3 / 1000
  efficiency : before.energyEfficiency - 4 / 10000 ≤ after.energyEfficiency

/-! ### The direction of each proposal -/

section
variable {state : UnitOperatingState}

theorem clipTo_le {value lo hi x : ℚ} (low : lo ≤ x) (below : value ≤ x) : clipTo value lo hi ≤ x :=
  max_le low ((min_le_right _ _).trans below)

theorem le_clipTo {value lo hi x : ℚ} (high : x ≤ hi) (above : x ≤ value) : x ≤ clipTo value lo hi :=
  (le_min high above).trans (le_max_right _ _)

theorem Setpoint.proposal_le (v : Setpoint) (best : UnitOperatingState) (down : v.rise = 0) (inside : v.InEnvelope state) :
    v.proposal state best ≤ v.reading state + 1 / 200 := by
  have within := (v.delta_within state best).2
  have clipped : clipTo (v.reading state + v.delta state best) v.lowest v.highest ≤ v.reading state :=
    clipTo_le inside.1 (by linarith)
  exact (roundTo_near _).2.trans (add_le_add_left clipped _)

theorem Setpoint.le_proposal (v : Setpoint) (best : UnitOperatingState) (up : v.fall = 0) (inside : v.InEnvelope state) :
    v.reading state - 1 / 200 ≤ v.proposal state best := by
  have within := (v.delta_within state best).1
  have clipped : v.reading state ≤ clipTo (v.reading state + v.delta state best) v.lowest v.highest :=
    le_clipTo inside.2 (by linarith)
  exact (sub_le_sub_right clipped _).trans (roundTo_near _).1

end

/-! ### The formulas -/

section
variable {fuel fuel' steam steam' feed feed' temp temp' power power' : ℚ}

theorem energyIntensity_le (lessFuel : fuel' ≤ fuel + 1 / 200) (lessSteam : steam' ≤ steam + 1 / 200)
    (moreFeed : feed - 1 / 200 ≤ feed') (cooler : temp' ≤ temp + 1 / 200) :
    energyIntensity fuel' steam' feed' temp' ≤ energyIntensity fuel steam feed temp + 145 / 10000 :=
  clip_le_add 500 800 (by linarith) (by norm_num)

theorem carbonEmissionIntensity_le (lessFuel : fuel' ≤ fuel + 1 / 200) (lessSteam : steam' ≤ steam + 1 / 200)
    (lessPower : power' ≤ power + 1 / 200) :
    carbonEmissionIntensity fuel' steam' power' ≤ carbonEmissionIntensity fuel steam power + 3 / 1000 :=
  clip_le_add 20 80 (by linarith) (by norm_num)

theorem energyEfficiency_ge {before after : ℚ} (near : after ≤ before + 145 / 10000) :
    energyEfficiency before - 4 / 10000 ≤ energyEfficiency after := by
  rw [sub_le_iff_le_add]
  exact clip_le_add 60 92 (by linarith) (by norm_num)

end

theorem physicsAt_setpoints (temp feed fuel steam power : ℚ) :
    physicsAt (setpoints temp feed fuel steam power) = some ⟨energyIntensity fuel steam feed temp,
      carbonEmissionIntensity fuel steam power, energyEfficiency (energyIntensity fuel steam feed temp)⟩ := rfl

/-- A record of setpoints is fixed by the four that an advice may move and the power. -/
theorem proposedSetpoints_eq (state best : UnitOperatingState) : proposedSetpoints state best =
    setpoints (Setpoint.reactorTemp.proposal state best) (Setpoint.feedFlow.proposal state best)
      (Setpoint.fuelGas.proposal state best) (Setpoint.steamFlow.proposal state best)
      (roundTo 2 state.electricityPowerMw) := by
  simp [proposedSetpoints, Setpoint.proposal, Setpoint.reading, Setpoint.delta, Setpoint.lowest, Setpoint.highest]

/-- The proposals for a unit inside the envelope do not make its physics worse, whatever the unit they are aligned to. -/
theorem proposedSetpoints_notWorse {state : UnitOperatingState} (inside : ∀ v : Setpoint, v.InEnvelope state)
    (best : UnitOperatingState) : ∃ before after, physicsAt (currentSetpoints state) = some before ∧
      physicsAt (proposedSetpoints state best) = some after ∧ NotWorse before after := by
  have temp := Setpoint.reactorTemp.proposal_le best rfl (inside .reactorTemp)
  have feed := Setpoint.feedFlow.le_proposal best rfl (inside .feedFlow)
  have fuel := Setpoint.fuelGas.proposal_le best rfl (inside .fuelGas)
  have steam := Setpoint.steamFlow.proposal_le best rfl (inside .steamFlow)
  have power := (roundTo_near state.electricityPowerMw).2
  have intensity := energyIntensity_le fuel steam feed temp
  rw [proposedSetpoints_eq, currentSetpoints, physicsAt_setpoints, physicsAt_setpoints]
  exact ⟨_, _, rfl, rfl, intensity, carbonEmissionIntensity_le fuel steam power, energyEfficiency_ge intensity⟩

/-- No advice makes the physics of a unit inside the envelope worse: only low units are advised. -/
theorem advice_notWorse {states : List UnitOperatingState} {advice : List SetpointAdvice}
    (distinct : (states.map (·.plantCode)).Nodup)
    (built : buildStructuredAdvice states (classifyUnits states) = some advice) {state : UnitOperatingState}
    (among : state ∈ states) (inside : ∀ v : Setpoint, v.InEnvelope state) :
    ∀ item ∈ advice, item.plantCode = state.plantCode → item.current = currentSetpoints state ∧
      ∃ before after, physicsAt item.current = some before ∧ physicsAt item.proposed = some after ∧
        NotWorse before after := by
  intro item member code
  obtain ⟨best, _, top, _, _⟩ := mem_buildStructuredAdvice built
  obtain ⟨advised, listed, _, advises⟩ := classifiedAdvice_advises distinct top built member
  have same : advised = state := List.inj_on_of_nodup_map distinct listed among (advises.plantCode.symm.trans code)
  rw [advises.current, advises.proposed, same]
  exact ⟨rfl, proposedSetpoints_notWorse inside best⟩

theorem advice_notWorse_hotter : ∃ advice, buildStructuredAdvice [unitAt "B" 80 405, unitAt "A" 90 395]
      (classifyUnits [unitAt "B" 80 405, unitAt "A" 90 395]) = some advice ∧
    ∀ item ∈ advice, item.plantCode = "B" → item.current = currentSetpoints (unitAt "B" 80 405) ∧
      ∃ before after, physicsAt item.current = some before ∧ physicsAt item.proposed = some after ∧
        NotWorse before after := by
  have distinct : ([unitAt "B" 80 405, unitAt "A" 90 395].map (·.plantCode)).Nodup := by decide
  have top : bestUnit [unitAt "B" 80 405, unitAt "A" 90 395] = some (unitAt "A" 90 395) := by decide +kernel
  have inside : ∀ v : Setpoint, v.InEnvelope (unitAt "B" 80 405) := by
    intro v
    cases v <;> norm_num [Setpoint.InEnvelope, Setpoint.lowest, Setpoint.highest, Setpoint.reading, unitAt]
  obtain ⟨advice, built⟩ := buildStructuredAdvice_classified distinct top
  exact ⟨advice, built, advice_notWorse distinct built (List.mem_cons_self ..) inside⟩

end Iems.Optimization
