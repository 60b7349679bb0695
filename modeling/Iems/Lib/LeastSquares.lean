import Mathlib.Algebra.Order.BigOperators.Ring.Finset
import Mathlib.Data.Matrix.Mul
import Mathlib.LinearAlgebra.Matrix.DotProduct
import Mathlib.Tactic.Abel
import Mathlib.Tactic.Ring

/-! Least squares over an ordered field: what a pseudo-inverse solves. -/
namespace Iems.Lib
open Matrix

section
variable {m n K : Type} [Fintype m] [Fintype n] [Field K]

/-- The four equations of a pseudo-inverse. -/
structure IsPseudoInverse (A : Matrix m n K) (P : Matrix n m K) : Prop where
  solves : A * P * A = A
  reflexive : P * A * P = P
  rangeSymm : (A * P).transpose = A * P
  domainSymm : (P * A).transpose = P * A

/-- The squared distance of two vectors. -/
def sqDist (u v : m → K) : K := ∑ i, (u i - v i) ^ 2

theorem sqDist_eq_dotProduct (u v : m → K) : sqDist u v = (u - v) ⬝ᵥ (u - v) := by
  simp [sqDist, dotProduct, sq]

/-- Two steps at right angles. -/
theorem sqDist_add {u v w : m → K} (right : (u - v) ⬝ᵥ (v - w) = 0) : sqDist u w = sqDist u v + sqDist v w := by
  have whole : u - w = (u - v) + (v - w) := by abel
  have turned : (v - w) ⬝ᵥ (u - v) = 0 := by rw [dotProduct_comm, right]
  rw [sqDist_eq_dotProduct, sqDist_eq_dotProduct, sqDist_eq_dotProduct, whole, add_dotProduct, dotProduct_add, dotProduct_add,
    right, turned]
  ring

namespace IsPseudoInverse
variable {A : Matrix m n K} {P : Matrix n m K} {x : n → K} {y : m → K}

/-- What the solution leaves of a vector is at right angles to all that the matrix reaches. -/
theorem residual (inverse : IsPseudoInverse A P) (y : m → K) : A.transpose *ᵥ (A *ᵥ (P *ᵥ y) - y) = 0 := by
  have same : A.transpose * A * P = A.transpose := by
    calc A.transpose * A * P = A.transpose * (A * P).transpose := by rw [inverse.rangeSymm, Matrix.mul_assoc]
      _ = (A * P * A).transpose := by rw [Matrix.transpose_mul (A * P)]
      _ = A.transpose := by rw [inverse.solves]
  rw [mulVec_sub, mulVec_mulVec, mulVec_mulVec, same, sub_self]

theorem residual_orthogonal (inverse : IsPseudoInverse A P) (x : n → K) (y : m → K) :
    (A *ᵥ x) ⬝ᵥ (A *ᵥ (P *ᵥ y) - y) = 0 := by
  rw [dotProduct_comm, dotProduct_mulVec, ← mulVec_transpose, inverse.residual, zero_dotProduct]

theorem sqDist_split (inverse : IsPseudoInverse A P) (x : n → K) (y : m → K) :
    sqDist (A *ᵥ x) y = sqDist (A *ᵥ x) (A *ᵥ (P *ᵥ y)) + sqDist (A *ᵥ (P *ᵥ y)) y := by
  apply sqDist_add
  rw [← mulVec_sub]
  exact inverse.residual_orthogonal _ y

/-- All that is mapped to the same is longer by what it is away from the solution. -/
theorem sqDist_zero_split (inverse : IsPseudoInverse A P) (near : A *ᵥ x = A *ᵥ (P *ᵥ y)) :
    sqDist x 0 = sqDist x (P *ᵥ y) + sqDist (P *ᵥ y) 0 := by
  have own : P *ᵥ y = (P * A) *ᵥ (P *ᵥ y) := by rw [mulVec_mulVec, inverse.reflexive]
  have still : (P * A) *ᵥ (x - P *ᵥ y) = 0 := by
    rw [← mulVec_mulVec, mulVec_sub, near, sub_self, mulVec_zero]
  apply sqDist_add
  rw [sub_zero, own, dotProduct_mulVec, ← mulVec_transpose, inverse.domainSymm, ← own, still, zero_dotProduct]

end IsPseudoInverse

/-! ### What is least -/

section
variable [LinearOrder K] [IsStrictOrderedRing K]

theorem sqDist_nonneg (u v : m → K) : 0 ≤ sqDist u v := Finset.sum_nonneg fun i _ => sq_nonneg (u i - v i)

theorem sqDist_eq_zero_iff {u v : m → K} : sqDist u v = 0 ↔ u = v := by
  unfold sqDist
  rw [Finset.sum_eq_zero_iff_of_nonneg fun i _ => sq_nonneg _, funext_iff]
  refine forall_congr' fun i => ?_
  simp [sub_eq_zero]

namespace IsPseudoInverse
variable {A : Matrix m n K} {P : Matrix n m K} {x : n → K} {y : m → K}

/-- Nothing that the matrix reaches is nearer. -/
theorem least (inverse : IsPseudoInverse A P) (x : n → K) (y : m → K) : sqDist (A *ᵥ (P *ᵥ y)) y ≤ sqDist (A *ᵥ x) y := by
  rw [inverse.sqDist_split x y]
  exact le_add_of_nonneg_left (sqDist_nonneg _ _)

theorem least_iff (inverse : IsPseudoInverse A P) :
    sqDist (A *ᵥ x) y = sqDist (A *ᵥ (P *ᵥ y)) y ↔ A *ᵥ x = A *ᵥ (P *ᵥ y) := by
  rw [inverse.sqDist_split x y, add_eq_right, sqDist_eq_zero_iff]

/-- Of all that is as near, the pseudo-inverse gives the shortest. -/
theorem shortest (inverse : IsPseudoInverse A P) (near : A *ᵥ x = A *ᵥ (P *ᵥ y)) : sqDist (P *ᵥ y) 0 ≤ sqDist x 0 := by
  rw [inverse.sqDist_zero_split near]
  exact le_add_of_nonneg_left (sqDist_nonneg _ _)

end IsPseudoInverse
end
end
end Iems.Lib
