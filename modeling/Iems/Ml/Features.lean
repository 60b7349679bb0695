import Mathlib.Data.Rat.Defs

/-! The features of the forecasts, and the energy conversion they share with the impact tracking. -/
namespace Iems.Ml

def featureColumns : List String :=
  ["electricity_power_mw", "fuel_gas_flow_km3h", "steam_flow_tonh", "feed_flow_tonh", "reactor_temp_c"]

/-- A two-dimensional array by its rows. -/
structure FeatureMatrix (K : Type) where
  width : Nat
  rows : List (List K)
  uniform : ∀ row ∈ rows, row.length = width

namespace FeatureMatrix
variable {K : Type} [Zero K]

def column (X : FeatureMatrix K) (i : Nat) : List K := X.rows.map fun row => row.getD i 0

/-- The column of a feature, and every entry of the array where it has no such column. -/
def feature (X : FeatureMatrix K) (name : String) : List K :=
  if featureColumns.idxOf name < X.width then X.column (featureColumns.idxOf name) else X.rows.flatten

/-- The first `n` entries of each column side by side. -/
def columnStack (columns : List (List K)) (n : Nat) : FeatureMatrix K where
  width := columns.length
  rows := (List.range n).map fun r => columns.map fun column => column.getD r 0
  uniform := by simp

@[simp] theorem length_column (X : FeatureMatrix K) (i : Nat) : (X.column i).length = X.rows.length := by
  simp [column]

theorem column_columnStack {columns : List (List K)} {n i : Nat} {column : List K} (held : columns[i]? = some column)
    (long : n ≤ column.length) : (columnStack columns n).column i = column.take n := by
  apply List.ext_getElem
  · simp [columnStack, long]
  · intro r inside inTake
    have place : r < column.length := by simp at inTake; omega
    simp [FeatureMatrix.column, columnStack, held, place]

theorem length_feature (X : FeatureMatrix K) (name : String) (some_ : 0 < X.width) :
    X.rows.length ≤ (X.feature name).length := by
  unfold feature
  split
  · simp
  · have rows : ∀ rows : List (List K), (∀ row ∈ rows, row.length = X.width) → rows.length ≤ rows.flatten.length := by
      intro rows
      induction rows with
      | nil => simp
      | cons row rest ih =>
        intro uniform
        have here := uniform row List.mem_cons_self
        have later := ih fun other member => uniform other (List.mem_cons_of_mem _ member)
        rw [List.flatten_cons, List.length_append, List.length_cons]
        omega
    exact rows X.rows X.uniform

end FeatureMatrix

def kgoeToKwh : ℚ := 1163 / 100

def intensityToEnergyKwh (intensityKgoeTon feedFlowTonh horizonMinutes : ℚ) : ℚ :=
  let hours := horizonMinutes / 60
  intensityKgoeTon * feedFlowTonh * hours * kgoeToKwh

end Iems.Ml
