import Iems.Optimization.Engine
import Iems.Services.LiveReading

/-! Loading the unit states an analysis runs on, and when the load leaves the readings alone. -/
namespace Iems.Optimization
open Services

/-- `live` is what the session resolves for each plant. -/
def loadUnitState (live : String → LiveReading ℚ) (plantCode : String) : UnitOperatingState :=
  let reading := live plantCode
  { plantCode := plantCode
    electricityPowerMw := reading.electricityPowerMw
    fuelGasFlowKm3h := reading.fuelGasFlowKm3h
    steamFlowTonh := reading.steamFlowTonh
    feedFlowTonh := reading.feedFlowTonh
    reactorTempC := reading.reactorTempC
    energyEfficiencyPercent := reading.energyEfficiencyPercent
    energyIntensityKgoeTon := reading.energyIntensityKgoeTon
    carbonEmissionKgco2Ton := reading.carbonEmissionKgco2Ton
    pressureBar := reading.pressureBar }

/-- The body of the `i > 0` branch: every unit after the first is scaled by its position. -/
def nudge (i : Nat) (state : UnitOperatingState) : UnitOperatingState :=
  let factor : ℚ := 1 + 8 / 100 * i
  let electricityPowerMw := state.electricityPowerMw * factor
  let fuelGasFlowKm3h := state.fuelGasFlowKm3h * factor
  let steamFlowTonh := state.steamFlowTonh * factor
  let reactorTempC := state.reactorTempC + 2 * i
  let derived := enrichReading electricityPowerMw fuelGasFlowKm3h steamFlowTonh state.feedFlowTonh
    reactorTempC
  { plantCode := state.plantCode
    electricityPowerMw := electricityPowerMw
    fuelGasFlowKm3h := fuelGasFlowKm3h
    steamFlowTonh := steamFlowTonh
    feedFlowTonh := state.feedFlowTonh
    reactorTempC := reactorTempC
    energyEfficiencyPercent := derived.energyEfficiencyPercent
    energyIntensityKgoeTon := derived.energyIntensityKgoeTon
    carbonEmissionKgco2Ton := some derived.carbonEmissionKgco2Ton
    pressureBar := state.pressureBar }

def loadUnitStates (live : String → LiveReading ℚ) (plantCodes : List String) :
    List UnitOperatingState :=
  plantCodes.zipIdx.map fun (code, i) =>
    let state := loadUnitState live code
    if 0 < i then nudge i state else state

/-- What an analysis says about one plant: its state, its tier and its advice. -/
structure PlantView where
  state : Option UnitOperatingState
  tier : Option Tier
  advice : Option (List SetpointAdvice)
  deriving DecidableEq

def plantView (states : List UnitOperatingState) (code : String) : PlantView :=
  let benchmarks := classifyUnits states
  { state := byCode states code
    tier := (benchByCode benchmarks code).map (·.tier)
    advice := (buildStructuredAdvice states benchmarks).map
      (·.filter fun advice => advice.plantCode = code) }

/-- The load hands every plant on as it was read, and no analysis depends on the order of the plants. -/
structure FaithfulLoad (live : String → LiveReading ℚ) (codes : List String) : Prop where
  state : ∀ (i : Nat) (code : String), codes[i]? = some code →
    (loadUnitStates live codes)[i]? = some (loadUnitState live code)
  order : ∀ permuted, permuted.Perm codes → ∀ code ∈ codes,
    plantView (loadUnitStates live permuted) code = plantView (loadUnitStates live codes) code

theorem nudge_moves_temperature {i : Nat} {state : UnitOperatingState} (later : 0 < i) :
    nudge i state ≠ state := by
  intro same
  have temp : state.reactorTempC + 2 * (i : ℚ) = state.reactorTempC :=
    congrArg UnitOperatingState.reactorTempC same
  have positive : (0 : ℚ) < i := Nat.cast_pos.mpr later
  linarith

theorem loadUnitStates_get (live : String → LiveReading ℚ) (codes : List String) (i : Nat) :
    (loadUnitStates live codes)[i]? = codes[i]?.map fun code =>
      if 0 < i then nudge i (loadUnitState live code) else loadUnitState live code := by
  simp [loadUnitStates, List.getElem?_zipIdx, Function.comp_def]

/-- Every unit after the first is distorted, whatever the readings: the load is faithful for a single
plant only. -/
theorem loadUnitStates_faithful_iff (live : String → LiveReading ℚ) (codes : List String) :
    FaithfulLoad live codes ↔ codes.length ≤ 1 := by
  constructor
  · intro faithful
    by_contra several
    have within : 1 < codes.length := by omega
    have read : codes[1]? = some codes[1] := List.getElem?_eq_getElem within
    have loaded := faithful.state 1 codes[1] read
    rw [loadUnitStates_get, read, Option.map_some, if_pos Nat.one_pos] at loaded
    exact nudge_moves_temperature Nat.one_pos (Option.some.inj loaded)
  · intro single
    constructor
    · intro i code read
      obtain ⟨within, _⟩ := List.getElem?_eq_some_iff.mp read
      have first : i = 0 := by omega
      subst first
      rw [loadUnitStates_get, read]
      rfl
    · intro permuted same code _
      have equal : permuted = codes := by
        match codes, single with
        | [], _ => exact same.eq_nil
        | [only], _ => exact List.perm_singleton.mp same
      rw [equal]

/-- Readings of two units that differ in feed and temperature. -/
def twoUnitReadings (code : String) : LiveReading ℚ :=
  { time := 0
    plantCode := code
    electricityPowerMw := 15
    fuelGasFlowKm3h := 100
    steamFlowTonh := 30
    feedFlowTonh := if code = "olefin" then 100 else 110
    reactorTempC := if code = "olefin" then 400 else 390
    pressureBar := none
    energyIntensityKgoeTon := 700
    carbonEmissionKgco2Ton := none
    energyEfficiencyPercent := 80
    source := "db"
    quality := none }

theorem second_unit_distorted :
    ["olefin", "pta"].Nodup ∧
      ["olefin", "pta"].Pairwise (fun x y => twoUnitReadings x ≠ twoUnitReadings y) ∧
      ¬ FaithfulLoad twoUnitReadings ["olefin", "pta"] := by
  refine ⟨by decide, by decide, ?_⟩
  intro faithful
  have loaded := faithful.state 1 "pta" rfl
  rw [loadUnitStates_get] at loaded
  exact nudge_moves_temperature Nat.one_pos (Option.some.inj loaded)

end Iems.Optimization
