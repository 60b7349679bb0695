import Iems.Lib.Decimal
import Iems.Lib.ExtRat
import Mathlib.Algebra.BigOperators.Fin
import Mathlib.Tactic.FieldSimp

/-! The extreme learning machine: one hidden layer over standardized inputs, and what two inputs have to share for it
to answer them alike. -/
namespace Iems.Ml
open Lib

/-- The deviations are positive: training puts one in the place of a vanishing one. -/
structure ElmModel (inputDim nHidden outputDim : Nat) where
  W : Fin inputDim → Fin nHidden → ℚ
  b : Fin nHidden → ℚ
  beta : Fin nHidden → Fin outputDim → ℚ
  xMean : Fin inputDim → ℚ
  xStd : Fin inputDim → ℚ
  yMean : Fin outputDim → ℚ
  yStd : Fin outputDim → ℚ
  xVaries : ∀ i, 0 < xStd i
  yVaries : ∀ o, 0 < yStd o

/-- `exp` is the library's exponential. -/
def sigmoid (exp : ℚ → ℚ) (x : ℚ) : ℚ := 1 / (1 + exp (-(clip x (-40) 40)))

namespace ElmModel
variable {inputDim nHidden outputDim : Nat} (exp : ℚ → ℚ) (m : ElmModel inputDim nHidden outputDim)

def hidden (x : Fin inputDim → ℚ) (j : Fin nHidden) : ℚ :=
  sigmoid exp (∑ i, (x i - m.xMean i) / m.xStd i * m.W i j + m.b j)

def predictRow (x : Fin inputDim → ℚ) (o : Fin outputDim) : ℚ :=
  (∑ j, m.hidden exp x j * m.beta j o) * m.yStd o + m.yMean o

/-- The answer for a row of the width that the model was trained on. -/
def predict (row : List ℚ) : List ExtRat := List.ofFn fun o => .finite (m.predictRow exp (fun i => row.getD i 0) o)

/-- The output weights cancel what changes in the hidden layer between two inputs. -/
def Cancels (x x' : Fin inputDim → ℚ) : Prop := ∀ o, ∑ j, (m.hidden exp x j - m.hidden exp x' j) * m.beta j o = 0

/-! ### When two inputs are answered alike -/

variable {exp m}

theorem predictRow_eq_iff {x x' : Fin inputDim → ℚ} : m.predictRow exp x = m.predictRow exp x' ↔ m.Cancels exp x x' := by
  rw [funext_iff]
  refine forall_congr' fun o => ?_
  have varies := (m.yVaries o).ne'
  unfold predictRow
  rw [add_left_inj, mul_left_inj' varies, ← sub_eq_zero, ← Finset.sum_sub_distrib]
  simp only [sub_mul]

theorem predict_eq_iff {row row' : List ℚ} :
    m.predict exp row = m.predict exp row' ↔ m.Cancels exp (fun i => row.getD i 0) fun i => row'.getD i 0 := by
  rw [← predictRow_eq_iff]
  unfold predict
  rw [List.ofFn_inj]
  constructor
  · intro same
    funext o
    exact ExtRat.finite.inj (congrFun same o)
  · intro same
    rw [same]

theorem sigmoid_lt (positive : ∀ x, 0 < exp x) (rising : StrictMono exp) {x y : ℚ} (low : -40 ≤ x) (less : x < y)
    (high : y ≤ 40) : sigmoid exp x < sigmoid exp y := by
  have inside : ∀ z : ℚ, -40 ≤ z → z ≤ 40 → clip z (-40) 40 = z := by
    intro z above below
    unfold clip
    rw [max_eq_left above, min_eq_left below]
  unfold sigmoid
  rw [inside x low (less.le.trans high), inside y (low.trans less.le) high]
  apply one_div_lt_one_div_of_lt
  · have some_ := positive (-y)
    linarith
  · have fewer := rising (neg_lt_neg less)
    linarith

/-! ### A model that tells two inputs apart -/

/-- It reads one input, scaled, into every hidden unit, and adds the units up. -/
def probe (inputDim nHidden outputDim : Nat) (place : Fin inputDim) (scale : ℚ) : ElmModel inputDim nHidden outputDim where
  W i _ := if i = place then scale else 0
  b _ := 0
  beta _ _ := 1
  xMean _ := 0
  xStd _ := 1
  yMean _ := 0
  yStd _ := 1
  xVaries _ := one_pos
  yVaries _ := one_pos

theorem probe_hidden (place : Fin inputDim) (scale : ℚ) (x : Fin inputDim → ℚ) (j : Fin nHidden) :
    (probe inputDim nHidden outputDim place scale).hidden exp x j = sigmoid exp (x place * scale) := by
  simp [hidden, probe]

theorem probe_cancels {place : Fin inputDim} {scale : ℚ} {x x' : Fin inputDim → ℚ} (units : 1 ≤ nHidden) (o : Fin outputDim)
    (cancels : (probe inputDim nHidden outputDim place scale).Cancels exp x x') :
    sigmoid exp (x place * scale) = sigmoid exp (x' place * scale) := by
  have change := cancels o
  simp only [probe_hidden] at change
  simp only [probe, mul_one, Finset.sum_const, Finset.card_univ, Fintype.card_fin, nsmul_eq_mul, mul_eq_zero] at change
  rcases change with none_ | same
  · have counted : nHidden = 0 := by exact_mod_cast none_
    omega
  · exact sub_eq_zero.mp same

/-- A scale at which the probe clips neither of two inputs. -/
theorem probe_unclipped (z other : ℚ) :
    -40 ≤ z * (1 / (1 + |z| + |other|)) ∧ z * (1 / (1 + |z| + |other|)) ≤ 40 := by
  have room : 0 < 1 + |z| + |other| := by positivity
  have bounded : |z * (1 / (1 + |z| + |other|))| ≤ 1 := by
    rw [mul_one_div, abs_div, abs_of_pos room, div_le_one room]
    linarith [abs_nonneg other]
  obtain ⟨low, high⟩ := abs_le.mp bounded
  exact ⟨by linarith, by linarith⟩

/-- Every model of a size answers two inputs alike exactly where they are the same input. -/
theorem all_cancel_iff (positive : ∀ x, 0 < exp x) (rising : StrictMono exp) (units : 1 ≤ nHidden)
    (outputs : 1 ≤ outputDim) {x x' : Fin inputDim → ℚ} :
    (∀ m : ElmModel inputDim nHidden outputDim, m.Cancels exp x x') ↔ x = x' := by
  constructor
  · intro all
    funext place
    have same := probe_cancels units ⟨0, outputs⟩
      (all (probe inputDim nHidden outputDim place (1 / (1 + |x place| + |x' place|))))
    have first := probe_unclipped (x place) (x' place)
    have second := probe_unclipped (x' place) (x place)
    rw [add_right_comm] at second
    have scale : 0 < 1 / (1 + |x place| + |x' place|) := by positivity
    rcases lt_trichotomy (x place) (x' place) with less | equal | more
    · have apart := sigmoid_lt positive rising first.1 (mul_lt_mul_of_pos_right less scale) second.2
      exact absurd same apart.ne
    · exact equal
    · have apart := sigmoid_lt positive rising second.1 (mul_lt_mul_of_pos_right more scale) first.2
      exact absurd same apart.ne'
  · rintro rfl m o
    simp

end ElmModel
end Iems.Ml
