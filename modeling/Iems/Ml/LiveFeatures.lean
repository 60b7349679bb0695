import Iems.Ml.Serve
import Iems.Repositories.History

/-! Forecasts for a plant from its stored readings: the latest one, and for the sequence model its history. -/
namespace Iems.Ml
open Lib Iems.Core Iems.Carbon Repositories

abbrev ReadingTable := Dict (Int × Nat) ReadingRow

/-- The features without a reading. -/
def defaultFeatures : PlantFeatures where
  electricityPowerMw := 15
  fuelGasFlowKm3h := 100
  steamFlowTonh := 30
  feedFlowTonh := 100
  reactorTempC := 400

/-- The features of a row, with the fallback for what is missing or zero. -/
def rowFeatures (row : ReadingRow) (fallback : PlantFeatures) : PlantFeatures where
  electricityPowerMw := orNumber row.electricityPowerMw fallback.electricityPowerMw
  fuelGasFlowKm3h := orNumber row.fuelGasFlowKm3h fallback.fuelGasFlowKm3h
  steamFlowTonh := orNumber row.steamFlowTonh fallback.steamFlowTonh
  feedFlowTonh := orNumber row.feedFlowTonh fallback.feedFlowTonh
  reactorTempC := orNumber row.reactorTempC fallback.reactorTempC

def PlantFeatures.override (values : PlantFeatures) (overrides : Dict String ℚ) : PlantFeatures where
  electricityPowerMw := (overrides.get? "electricity_power_mw").getD values.electricityPowerMw
  fuelGasFlowKm3h := (overrides.get? "fuel_gas_flow_km3h").getD values.fuelGasFlowKm3h
  steamFlowTonh := (overrides.get? "steam_flow_tonh").getD values.steamFlowTonh
  feedFlowTonh := (overrides.get? "feed_flow_tonh").getD values.feedFlowTonh
  reactorTempC := (overrides.get? "reactor_temp_c").getD values.reactorTempC

/-- `_features_from_kwargs`, one row in the order of the feature columns. -/
def PlantFeatures.row (f : PlantFeatures) : List ℚ :=
  [f.electricityPowerMw, f.fuelGasFlowKm3h, f.steamFlowTonh, f.feedFlowTonh, f.reactorTempC]

/-- `session` is the table of readings that a session sees. -/
def resolveFeatures (plants : Dict String Nat) (session : Option ReadingTable) (plantCode : String)
    (overrides : Dict String ℚ) : PlantFeatures :=
  let values :=
    match session.bind fun table => latestReading plants table plantCode with
    | some (_, reading) => rowFeatures reading defaultFeatures
    | none => defaultFeatures
  values.override overrides

def matrixFromHistory (rows : List (Timed ReadingRow)) (fallback : PlantFeatures) : List (List ℚ) :=
  if rows = [] then [fallback.row] else rows.map fun reading => (rowFeatures reading.2 fallback).row

section
variable (cfg : Settings) (plants : Dict String Nat) (now : Int)

def lstmLookback : Nat := max cfg.mlLstmLookback 2

/-- The minutes that the query for the history goes back. -/
def lstmMinutes : Int := max 2 (lstmLookback cfg / 30 + 2 : Nat)

/-- `history[-lookback:]` of at most twice as many rows. -/
def lstmHistory (table : ReadingTable) (plantCode : String) : List (Timed ReadingRow) :=
  lastRows (lstmLookback cfg) (getHistory plants table now plantCode (lstmMinutes cfg) (lstmLookback cfg * 2))

def lstmMatrix (session : Option ReadingTable) (plantCode : String) (model : ModelKind) (features : PlantFeatures) :
    Option (List (List ℚ)) :=
  match model, session with
  | .lstm, some table =>
    if getHistory plants table now plantCode (lstmMinutes cfg) (lstmLookback cfg * 2) = [] then none
    else some (matrixFromHistory (lstmHistory cfg plants now table plantCode) features)
  | _, _ => none

def predictForPlant {M : Type} (learner : Learner M) (factors : Dict String EmissionFactors) (store : ModelStore M)
    (session : Option ReadingTable) (plantCode : String) (horizonMinutes : ℚ) (model : ModelKind)
    (overrides : Dict String ℚ) : Except PredictError PredictionResult :=
  let features := resolveFeatures plants session plantCode overrides
  predictWithModel learner cfg factors store
    { features := features
      horizonMinutes := horizonMinutes
      model := model
      plantCode := plantCode
      featureMatrix := lstmMatrix cfg plants now session plantCode model features }

end

/-! ### Which readings the sequence model is given -/

section
variable {cfg : Settings} {plants : Dict String Nat} {now : Int} {table : ReadingTable} {plantCode : String}

/-- The readings that the query for the history may see. -/
def lstmWindow (cfg : Settings) (plants : Dict String Nat) (now : Int) (table : ReadingTable) (plantCode : String) :
    List (Timed ReadingRow) := windowReadings plants table now plantCode (lstmMinutes cfg)

theorem lstmHistory_eq : lstmHistory cfg plants now table plantCode =
    ((lstmWindow cfg plants now table plantCode).take (lstmLookback cfg * 2)).drop
      (min (lstmLookback cfg * 2) (lstmWindow cfg plants now table plantCode).length - lstmLookback cfg) := by
  have lookback : lstmLookback cfg ≠ 0 := Nat.pos_iff_ne_zero.mp (lt_max_of_lt_right two_pos)
  unfold lstmHistory lastRows getHistory
  rw [if_neg lookback, List.length_take]
  rfl

theorem length_lstmHistory : (lstmHistory cfg plants now table plantCode).length =
    min (lstmLookback cfg) (lstmWindow cfg plants now table plantCode).length := by
  rw [lstmHistory_eq, List.length_drop, List.length_take]
  omega

theorem mem_lstmHistory {row : Timed ReadingRow} (member : row ∈ lstmHistory cfg plants now table plantCode) :
    row ∈ (lstmWindow cfg plants now table plantCode).take (lstmLookback cfg * 2) := by
  rw [lstmHistory_eq] at member
  exact List.mem_of_mem_drop member

theorem lstmMatrix_rows (cfg : Settings) (plants : Dict String Nat) (now : Int) (table : ReadingTable)
    (plantCode : String) (features : PlantFeatures) :
    lstmMatrix cfg plants now (some table) plantCode .lstm features =
      if lstmHistory cfg plants now table plantCode = [] then none
      else some ((lstmHistory cfg plants now table plantCode).map fun reading => (rowFeatures reading.2 features).row) := by
  have lookback : 2 ≤ lstmLookback cfg := le_max_right _ _
  have length := @length_lstmHistory cfg plants now table plantCode
  have queried : getHistory plants table now plantCode (lstmMinutes cfg) (lstmLookback cfg * 2) = [] ↔
      lstmHistory cfg plants now table plantCode = [] := by
    rw [← List.length_eq_zero_iff, ← List.length_eq_zero_iff, length, getHistory, List.length_take]
    unfold lstmWindow
    omega
  unfold lstmMatrix matrixFromHistory
  dsimp only
  by_cases none_ : lstmHistory cfg plants now table plantCode = []
  · rw [if_pos (queried.mpr none_), if_pos none_]
  · rw [if_neg (mt queried.mp none_), if_neg none_, if_neg none_]

theorem lstmHistory_whole (short : (lstmWindow cfg plants now table plantCode).length ≤ lstmLookback cfg * 2) :
    lstmHistory cfg plants now table plantCode = (lstmWindow cfg plants now table plantCode).drop
      ((lstmWindow cfg plants now table plantCode).length - lstmLookback cfg) := by
  rw [lstmHistory_eq, List.take_of_length_le short, Nat.min_eq_right short]

/-- The readings are the newest of the plant exactly while the query cuts nothing off. -/
theorem lstmHistory_newest_iff (cfg : Settings) (plants : Dict String Nat) (now : Int) (table : ReadingTable)
    (plantCode : String) : (cfg.mlLstmLookback ≤ (lstmWindow cfg plants now table plantCode).length →
      Newest Prod.fst cfg.mlLstmLookback (plantReadings plants table plantCode)
        (lstmHistory cfg plants now table plantCode)) ↔
    (lstmWindow cfg plants now table plantCode).length ≤
      if cfg.mlLstmLookback < 2 then cfg.mlLstmLookback else 2 * cfg.mlLstmLookback := by
  have ascending : Ascending Prod.fst (lstmWindow cfg plants now table plantCode) := windowReadings_ascending
  have inside : ∀ row ∈ lstmHistory cfg plants now table plantCode, row ∈ lstmWindow cfg plants now table plantCode :=
    fun row member => List.mem_of_mem_take (mem_lstmHistory member)
  have length := @length_lstmHistory cfg plants now table plantCode
  have ofPlant (enough : cfg.mlLstmLookback ≤ (lstmWindow cfg plants now table plantCode).length) :=
    newest_window_iff inside enough
  constructor
  · intro newest
    by_contra long
    have enough : cfg.mlLstmLookback ≤ (lstmWindow cfg plants now table plantCode).length := by
      split_ifs at long <;> omega
    have window := (ofPlant enough).mp (newest enough)
    split_ifs at long with small
    · have count := window.length
      have lookback : lstmLookback cfg = 2 := max_eq_right small.le
      omega
    · have lookback : lstmLookback cfg = cfg.mlLstmLookback := max_eq_left (not_lt.mp small)
      refine not_newest_of_take ascending (m := lstmLookback cfg * 2) (by omega) ?_
        (fun row member => mem_lstmHistory member) window
      rw [← List.length_pos_iff]
      omega
  · intro short enough
    refine (ofPlant enough).mpr ?_
    have whole : (lstmWindow cfg plants now table plantCode).length ≤ lstmLookback cfg * 2 := by
      unfold lstmLookback
      split_ifs at short <;> omega
    have end_ := newest_drop ascending cfg.mlLstmLookback
    have cut : (lstmWindow cfg plants now table plantCode).length - cfg.mlLstmLookback =
        (lstmWindow cfg plants now table plantCode).length - lstmLookback cfg := by
      unfold lstmLookback
      split_ifs at short <;> omega
    rw [cut] at end_
    rwa [lstmHistory_whole whole]

end
end Iems.Ml
