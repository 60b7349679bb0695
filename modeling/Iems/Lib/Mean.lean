import Mathlib.Algebra.BigOperators.Group.List.Basic
import Mathlib.Algebra.Field.Basic
import Mathlib.Algebra.Order.BigOperators.Group.List
import Mathlib.Algebra.Order.Field.Basic
import Mathlib.Tactic.LinearCombination

/-! Arithmetic means, and when means scaled by durations add up over a split sample. -/
namespace Iems.Lib

variable {K : Type} [Field K]

/-- The mean; 0 for no sample. -/
def average (samples : List K) : K := samples.sum / samples.length

@[simp] theorem average_nil : average ([] : List K) = 0 := by
  simp [average]

theorem average_perm {xs ys : List K} (same : xs.Perm ys) : average xs = average ys := by
  unfold average
  rw [same.sum_eq, same.length_eq]

variable [CharZero K]

theorem average_mul_length (samples : List K) : average samples * samples.length = samples.sum := by
  cases samples with
  | nil => simp
  | cons x rest =>
    have positive : ((x :: rest).length : K) ≠ 0 := Nat.cast_ne_zero.mpr (by simp)
    exact div_mul_cancel₀ _ positive

/-- The scaled mean of a split sample is the sum of the scaled means of its parts exactly when the
difference of the means is balanced by the sample counts. -/
theorem average_append_mul_iff (xs ys : List K) (dx dy d : K) :
    average (xs ++ ys) * d = average xs * dx + average ys * dy ↔
      (average xs - average ys) * (xs.length * dy - ys.length * dx) =
        (dx + dy - d) * (xs.sum + ys.sum) := by
  by_cases none_ : xs ++ ys = []
  · obtain ⟨rfl, rfl⟩ := List.append_eq_nil_iff.mp none_
    simp
  · have count : ((xs ++ ys).length : K) ≠ 0 := by
      rw [Nat.cast_ne_zero]
      exact fun zero => none_ (List.length_eq_zero_iff.mp zero)
    have whole := average_mul_length (xs ++ ys)
    have left := average_mul_length xs
    have right := average_mul_length ys
    rw [List.sum_append] at whole
    simp only [List.length_append, Nat.cast_add] at whole count
    rw [← mul_left_inj' count, ← left, ← right]
    rw [← left, ← right] at whole
    constructor
    · intro equal
      linear_combination equal - d * whole
    · intro balanced
      linear_combination balanced + d * whole

section
variable {F : Type} [Field F] [LinearOrder F] [IsStrictOrderedRing F]

theorem average_nonneg {samples : List F} (nonneg : ∀ x ∈ samples, 0 ≤ x) : 0 ≤ average samples :=
  div_nonneg (List.sum_nonneg nonneg) (Nat.cast_nonneg _)

theorem average_le_append_iff {xs ys : List F} (nonneg : ∀ y ∈ ys, 0 ≤ y) :
    average xs ≤ average (xs ++ ys) ↔ xs = [] ∨ ys = [] ∨ average xs ≤ average ys := by
  by_cases empty : xs = []
  · rw [empty, List.nil_append, average_nil]
    simp [average_nonneg nonneg]
  by_cases same : ys = []
  · simp [same]
  have more : (0 : F) < ys.length := Nat.cast_pos.mpr (List.length_pos_iff.mpr same)
  have first : (0 : F) < xs.length := Nat.cast_pos.mpr (List.length_pos_iff.mpr empty)
  have whole := average_mul_length (xs ++ ys)
  rw [List.sum_append, ← average_mul_length xs, ← average_mul_length ys, List.length_append, Nat.cast_add] at whole
  have count : (0 : F) < (xs.length : F) + ys.length := add_pos first more
  simp only [empty, same, false_or]
  constructor
  · intro grows
    have scaled := mul_le_mul_of_nonneg_right grows count.le
    rw [whole, mul_add] at scaled
    exact le_of_mul_le_mul_right (le_of_add_le_add_left scaled) more
  · intro larger
    have scaled := mul_le_mul_of_nonneg_right larger more.le
    have sum : average xs * (xs.length + ys.length) ≤ average (xs ++ ys) * (xs.length + ys.length) := by
      rw [whole, mul_add]
      exact add_le_add_right scaled _
    exact le_of_mul_le_mul_right sum count

end

end Iems.Lib
