import Iems.Lib.LeastSquares
import Mathlib

/-! Lines of least squares. -/
namespace Iems.Lib
open Matrix

variable {m n K : Type} [Field K]

/-- A line over the points has a slope and a height. -/
def lineMatrix (x : m → K) : Matrix m (Fin 2) K := Matrix.of fun i => ![x i, 1]

theorem lineMatrix_mulVec (x : m → K) (line : Fin 2 → K) (i : m) : (lineMatrix x *ᵥ line) i = line 0 * x i + line 1 := by
  rw [mulVec, dotProduct, Fin.sum_univ_two]
  simp [lineMatrix, mul_comm]

variable [Fintype m] [Fintype n]

/-- A left inverse that projects along right angles. -/
theorem IsPseudoInverse.of_leftInverse [DecidableEq n] {A : Matrix m n K} {P : Matrix n m K} (left : P * A = 1)
    (symm : (A * P).transpose = A * P) : IsPseudoInverse A P where
  solves := by rw [Matrix.mul_assoc, left, Matrix.mul_one]
  reflexive := by rw [left, Matrix.one_mul]
  rangeSymm := symm
  domainSymm := by rw [left, Matrix.transpose_one]

/-- Above and below the line of least squares is the same. -/
theorem IsPseudoInverse.line_balanced {x y : m → K} {P : Matrix (Fin 2) m K} (inverse : IsPseudoInverse (lineMatrix x) P) :
    ∑ i, ((P *ᵥ y) 0 * x i + (P *ᵥ y) 1) = ∑ i, y i := by
  have height : ∑ i, 1 * ((lineMatrix x *ᵥ (P *ᵥ y)) i - y i) = 0 := congrFun (inverse.residual y) 1
  simp only [one_mul, Finset.sum_sub_distrib, sub_eq_zero, lineMatrix_mulVec] at height
  exact height

/-- The line through points that are not all above each other; `width` is their spread. -/
def linePinv (x : m → K) (width : K) : Matrix (Fin 2) m K :=
  Matrix.of ![fun i => (Fintype.card m * x i - ∑ k, x k) / width, fun i => ((∑ k, x k ^ 2) - (∑ k, x k) * x i) / width]

theorem linePinv_inverts {x : m → K} {width : K} (spread : Fintype.card m * ∑ k, x k ^ 2 - (∑ k, x k) ^ 2 = width)
    (apart : width ≠ 0) : IsPseudoInverse (lineMatrix x) (linePinv x width) := by
  have entry : ∀ (f : m → K) j k, (∀ i, linePinv x width j i * lineMatrix x i k = f i / width) →
      (linePinv x width * lineMatrix x) j k = (∑ i, f i) / width := by
    intro f j k each
    rw [Matrix.mul_apply, Finset.sum_congr rfl fun i _ => each i, Finset.sum_div]
  have own : ∑ i, (Fintype.card m * x i - ∑ k, x k) * x i = width := by
    rw [← spread]
    simp only [sub_mul, mul_assoc, ← sq, Finset.sum_sub_distrib, ← Finset.mul_sum]
  have across : ∑ i, (Fintype.card m * x i - ∑ k, x k) = 0 := by
    simp [Finset.sum_sub_distrib, ← Finset.mul_sum]
  have back : ∑ i, ((∑ k, x k ^ 2) - (∑ k, x k) * x i) * x i = 0 := by
    simp only [sub_mul, mul_assoc, ← sq, Finset.sum_sub_distrib, ← Finset.mul_sum]
    ring
  have level : ∑ i, ((∑ k, x k ^ 2) - (∑ k, x k) * x i) = width := by
    rw [← spread]
    simp [Finset.sum_sub_distrib, ← Finset.mul_sum, sq]
  apply IsPseudoInverse.of_leftInverse
  · ext j k
    fin_cases j <;> fin_cases k
    · refine (entry (fun i => (Fintype.card m * x i - ∑ k, x k) * x i) 0 0 fun i => div_mul_eq_mul_div _ _ _).trans ?_
      rw [own, div_self apart]
      rfl
    · refine (entry (fun i => Fintype.card m * x i - ∑ k, x k) 0 1 fun i => mul_one _).trans ?_
      rw [across, zero_div]
      rfl
    · refine (entry (fun i => ((∑ k, x k ^ 2) - (∑ k, x k) * x i) * x i) 1 0 fun i => div_mul_eq_mul_div _ _ _).trans ?_
      rw [back, zero_div]
      rfl
    · refine (entry (fun i => (∑ k, x k ^ 2) - (∑ k, x k) * x i) 1 1 fun i => mul_one _).trans ?_
      rw [level, div_self apart]
      rfl
  · ext i k
    have joined : ∀ i k, (lineMatrix x * linePinv x width) i k =
        x i * ((Fintype.card m * x k - ∑ l, x l) / width) + 1 * (((∑ l, x l ^ 2) - (∑ l, x l) * x k) / width) := by
      intro i k
      rw [Matrix.mul_apply, Fin.sum_univ_two]
      rfl
    rw [transpose_apply, joined, joined]
    ring

end Iems.Lib
