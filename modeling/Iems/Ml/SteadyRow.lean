import Iems.Ml.Elm
import Iems.Ml.Lstm
import Iems.Ml.Serve

/-! One feature row given to a sequence model: the window that each head makes of it, against the steady window. -/
namespace Iems.Ml
open Lib Iems.Core

/-- One row is answered as the window that holds it throughout. -/
def AnswersSteady (m : LstmModel) (row : List ℚ) : Prop := m.predict [row] = m.predict (List.replicate m.lookback row)

/-! ### The windows of one row -/

section
variable {lookback : Nat} {row : List ℚ}

theorem windows_replicate (one : 1 ≤ lookback) :
    windows lookback (List.replicate lookback row) = [List.replicate lookback row] := by
  apply List.ext_getElem?
  intro j
  by_cases inside : j < 1
  · obtain rfl : j = 0 := by omega
    rw [windows_getElem? one (by simp)]
    simp
  · rw [List.getElem?_eq_none (by simp; omega), List.getElem?_eq_none (by simp; omega)]

/-- The steady window is one window to either head. -/
theorem predict_steady {m : LstmModel} (one : 1 ≤ m.lookback) :
    m.predict (List.replicate m.lookback row) = .ok [m.forecast (List.replicate m.lookback row)] := by
  have some_ : List.replicate m.lookback row ≠ [] := List.ne_nil_of_length_pos (by simp; omega)
  rw [m.predict_eq one some_, LstmModel.windows, if_pos (by simp), windows_replicate one]
  rfl

/-- The window that a head makes of one row. -/
def rowWindow (m : LstmModel) (row : List ℚ) : List (List ℚ) :=
  if m.lookback = 1 then [row]
  else
    match m.head with
    | .torch _ => List.replicate m.lookback row
    | .temporalElm _ => weightedWindow m.lookback row

theorem predict_row {m : LstmModel} (one : 1 ≤ m.lookback) : m.predict [row] = .ok [m.forecast (rowWindow m row)] := by
  rw [m.predict_eq one (List.cons_ne_nil row []), LstmModel.windows, rowWindow]
  by_cases single : m.lookback = 1
  · rw [if_pos single, single, if_pos (by simp)]
    rfl
  · rw [if_neg single, if_neg (by simp; omega)]
    cases m.head with
    | torch net => simp
    | temporalElm elm => rfl

theorem answersSteady_iff {m : LstmModel} (one : 1 ≤ m.lookback) :
    AnswersSteady m row ↔ m.forecast (rowWindow m row) = m.forecast (List.replicate m.lookback row) := by
  unfold AnswersSteady
  rw [predict_steady one, predict_row one]
  simp

/-! ### The weights -/

theorem length_weightedWindow : (weightedWindow lookback row).flatten.length = lookback * row.length := by
  simp [weightedWindow, windowWeights, List.length_flatten, Function.comp_def]

theorem length_steadyWindow : (List.replicate lookback row).flatten.length = lookback * row.length := by
  simp

/-- The first copy of a row has weight 0.6. -/
theorem windowWeights_head (one : 1 ≤ lookback) : ∃ rest, windowWeights lookback = 3 / 5 :: rest := by
  have some_ : lookback ≠ 0 := by omega
  apply List.head?_eq_some_iff.mp
  simp [windowWeights, List.head?_range, some_]

theorem scaled_eq_iff {weight : ℚ} : row.map (· * weight) = row ↔ ∀ x ∈ row, x * weight = x := by
  conv_lhs => rhs; rw [← List.map_id row]
  exact List.map_inj_left

/-- The weighted window is the steady one exactly for a row of zeros. -/
theorem weighted_eq_steady_iff (one : 1 ≤ lookback) :
    (weightedWindow lookback row).flatten = (List.replicate lookback row).flatten ↔ ∀ x ∈ row, x = 0 := by
  constructor
  · intro same x member
    obtain ⟨rest, weights⟩ := windowWeights_head one
    obtain ⟨n, rfl⟩ := Nat.exists_eq_add_of_le' one
    rw [weightedWindow, weights, List.map_cons, List.replicate_succ, List.flatten_cons, List.flatten_cons] at same
    have first := (List.append_inj same (List.length_map _)).1
    have kept := scaled_eq_iff.mp first x member
    linarith
  · intro zeros
    have still (weight : ℚ) : row.map (· * weight) = row := scaled_eq_iff.mpr fun x member => by rw [zeros x member, zero_mul]
    simp [weightedWindow, still, windowWeights, List.map_const', Function.comp_def]

end

/-! ### Both heads -/

section
variable {exp : ℚ → ℚ} {lookback nHidden outputDim : Nat} {row : List ℚ}

/-- The inputs of a network that is given a window. -/
def inputOf (lookback : Nat) (row : List ℚ) (window : List (List ℚ)) (i : Fin (lookback * row.length)) : ℚ :=
  window.flatten.getD i 0

theorem torch_answersSteady (one : 1 ≤ lookback) (net : List (List ℚ) → List ExtRat) :
    AnswersSteady ⟨lookback, .torch net⟩ row := by
  rw [answersSteady_iff one, rowWindow]
  split
  · rename_i single
    dsimp only at single ⊢
    rw [single]
    rfl
  · rfl

theorem elm_answersSteady_iff (one : 1 ≤ lookback) (m : ElmModel (lookback * row.length) nHidden outputDim) :
    AnswersSteady ⟨lookback, .temporalElm (m.predict exp)⟩ row ↔
      lookback = 1 ∨ m.Cancels exp (inputOf lookback row (weightedWindow lookback row))
        (inputOf lookback row (List.replicate lookback row)) := by
  rw [answersSteady_iff one, rowWindow]
  dsimp only
  split
  · rename_i single
    subst single
    exact iff_of_true rfl (Or.inl rfl)
  · rename_i several
    rw [or_iff_right several]
    exact ElmModel.predict_eq_iff

theorem inputOf_weighted_iff (one : 1 ≤ lookback) :
    inputOf lookback row (weightedWindow lookback row) = inputOf lookback row (List.replicate lookback row) ↔
      ∀ x ∈ row, x = 0 := by
  rw [← weighted_eq_steady_iff one]
  constructor
  · intro same
    refine List.ext_getElem (length_weightedWindow.trans length_steadyWindow.symm) fun i inside inside' => ?_
    have read := congrFun same ⟨i, length_steadyWindow ▸ inside'⟩
    exact (List.getElem_eq_getD 0).trans (read.trans (List.getElem_eq_getD 0).symm)
  · intro same
    unfold inputOf
    rw [same]

end

/-- The network over windows answers one row as the steady window. The machine over flat rows does so exactly where a
window is one row or its output weights cancel what the weighting changes in the hidden layer; and all machines of a
size do exactly where a window is one row or the row is zero. -/
theorem one_row_steady_iff (exp : ℚ → ℚ) (positive : ∀ x, 0 < exp x) (rising : StrictMono exp) (lookback : Nat)
    (one : 1 ≤ lookback) (nHidden outputDim : Nat) (units : 1 ≤ nHidden) (outputs : 1 ≤ outputDim) (row : List ℚ) :
    (∀ net, AnswersSteady ⟨lookback, .torch net⟩ row) ∧
      (∀ m : ElmModel (lookback * row.length) nHidden outputDim,
        AnswersSteady ⟨lookback, .temporalElm (m.predict exp)⟩ row ↔
          lookback = 1 ∨ m.Cancels exp (inputOf lookback row (weightedWindow lookback row))
            (inputOf lookback row (List.replicate lookback row))) ∧
      ((∀ m : ElmModel (lookback * row.length) nHidden outputDim,
          AnswersSteady ⟨lookback, .temporalElm (m.predict exp)⟩ row) ↔
        lookback = 1 ∨ ∀ x ∈ row, x = 0) := by
  refine ⟨torch_answersSteady one, elm_answersSteady_iff one, ?_⟩
  simp only [elm_answersSteady_iff one, forall_or_left]
  rw [ElmModel.all_cancel_iff positive rising units outputs, inputOf_weighted_iff one]

/-! ### A head on a plant's row -/

/-- A rising function through one at zero. -/
def secondOrder (x : ℚ) : ℚ := if 0 ≤ x then 1 + x + x ^ 2 / 2 else 1 / (1 - x + x ^ 2 / 2)

theorem secondOrder_below {x : ℚ} (below : ¬ 0 ≤ x) : 1 < 1 - x + x ^ 2 / 2 := by
  have square := sq_nonneg x
  linarith

theorem secondOrder_pos (x : ℚ) : 0 < secondOrder x := by
  unfold secondOrder
  split
  · positivity
  · rename_i below
    exact one_div_pos.mpr (one_pos.trans (secondOrder_below below))

theorem secondOrder_strictMono : StrictMono secondOrder := by
  intro x y less
  unfold secondOrder
  by_cases low : 0 ≤ x
  · have squares := pow_lt_pow_left₀ less low two_ne_zero
    rw [if_pos low, if_pos (low.trans less.le)]
    linarith
  · rw [if_neg low]
    by_cases high : 0 ≤ y
    · have square := sq_nonneg y
      rw [if_pos high]
      calc 1 / (1 - x + x ^ 2 / 2) < 1 := (div_lt_one (one_pos.trans (secondOrder_below low))).mpr (secondOrder_below low)
        _ ≤ 1 + y + y ^ 2 / 2 := by linarith
    · rw [if_neg high]
      have squares := pow_lt_pow_left₀ (neg_lt_neg less) (by linarith : 0 ≤ -y) two_ne_zero
      rw [neg_sq, neg_sq] at squares
      exact one_div_lt_one_div_of_lt (one_pos.trans (secondOrder_below high)) (by linarith)

/-- An operating point of a what-if simulation. -/
def whatIfRow : List ℚ := [15, 100, 30, 100, 820]

theorem one_row_steady_iff_default :
    (∀ net, AnswersSteady ⟨8, .torch net⟩ whatIfRow) ∧
      (∀ m : ElmModel (8 * whatIfRow.length) 32 2, AnswersSteady ⟨8, .temporalElm (m.predict secondOrder)⟩ whatIfRow ↔
          8 = 1 ∨ m.Cancels secondOrder (inputOf 8 whatIfRow (weightedWindow 8 whatIfRow))
            (inputOf 8 whatIfRow (List.replicate 8 whatIfRow))) ∧
      ((∀ m : ElmModel (8 * whatIfRow.length) 32 2, AnswersSteady ⟨8, .temporalElm (m.predict secondOrder)⟩ whatIfRow) ↔
        8 = 1 ∨ ∀ x ∈ whatIfRow, x = 0) :=
  one_row_steady_iff secondOrder secondOrder_pos secondOrder_strictMono 8 (by decide) 32 2 (by decide) (by decide) whatIfRow

/-- A machine of the default size that answers 0.6 of the operating point apart from the whole of it. -/
theorem weighted_row_differs :
    ¬ AnswersSteady ⟨8, .temporalElm ((ElmModel.probe 40 32 2 0 (1 / 100)).predict secondOrder)⟩ whatIfRow := by
  intro same
  rcases (@elm_answersSteady_iff secondOrder 8 32 2 whatIfRow (by decide) _).mp same with single | cancels
  · cases single
  · have equal := ElmModel.probe_cancels (by decide) 0 cancels
    revert equal
    decide +kernel

end Iems.Ml
