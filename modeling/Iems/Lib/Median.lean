import Mathlib.Data.List.GetD
import Mathlib.Data.List.Sort

/-! The upper median of a list, and how many of its entries are below it. -/
namespace Iems.Lib

variable {α : Type} [LinearOrder α] {l : List α}

/-- The middle entry of the sorted list, the later of two, and a default for an empty one. -/
def upperMedian (d : α) (l : List α) : α := (l.mergeSort fun a b => a ≤ b).getD (l.length / 2) d

theorem countP_lt_sorted_le (sorted : l.Pairwise (· ≤ ·)) {k : Nat} (inside : k < l.length) :
    l.countP (· < l[k]) ≤ k := by
  have above : (l.drop k).countP (· < l[k]) = 0 := by
    rw [List.countP_eq_zero]
    intro x later
    rw [List.drop_eq_getElem_cons inside] at later
    have tail := sorted.sublist (List.drop_sublist k l)
    rw [List.drop_eq_getElem_cons inside] at tail
    rcases List.mem_cons.mp later with rfl | behind
    · simp
    · simpa using List.rel_of_pairwise_cons tail behind
  calc l.countP (· < l[k]) = (l.take k ++ l.drop k).countP (· < l[k]) := by rw [List.take_append_drop]
    _ = (l.take k).countP (· < l[k]) := by rw [List.countP_append, above, Nat.add_zero]
    _ ≤ (l.take k).length := List.countP_le_length
    _ ≤ k := List.length_take_le k l

theorem countP_lt_sorted_eq (sorted : l.Pairwise (· < ·)) {k : Nat} (inside : k < l.length) :
    l.countP (· < l[k]) = k := by
  have least := countP_lt_sorted_le (sorted.imp le_of_lt) inside
  have below : (l.take k).countP (· < l[k]) = k := by
    rw [List.countP_eq_length.mpr, List.length_take_of_le inside.le]
    intro x early
    obtain ⟨i, before, rfl⟩ := List.mem_iff_getElem.mp early
    have short : i < k := by simp at before; omega
    simpa using List.pairwise_iff_getElem.mp sorted i k (short.trans inside) inside short
  have whole : l.countP (· < l[k]) = (l.take k).countP (· < l[k]) + (l.drop k).countP (· < l[k]) := by
    rw [← List.countP_append, List.take_append_drop]
  omega

section
variable (d : α)

theorem upperMedian_getElem (l : List α) (inside : l.length / 2 < (l.mergeSort fun a b => a ≤ b).length) :
    upperMedian d l = (l.mergeSort fun a b => a ≤ b)[l.length / 2] :=
  List.getD_eq_getElem _ d inside

theorem half_inside (some_ : l ≠ []) : l.length / 2 < (l.mergeSort fun a b => a ≤ b).length := by
  have positive := List.length_pos_of_ne_nil some_
  rw [(List.mergeSort_perm l _).length_eq]
  omega

theorem upperMedian_mem (some_ : l ≠ []) : upperMedian d l ∈ l := by
  rw [upperMedian_getElem d l (half_inside some_)]
  exact List.mem_mergeSort.mp (List.getElem_mem (half_inside some_))

/-- At most half of the entries are below the upper median. -/
theorem countP_lt_upperMedian_le (l : List α) : l.countP (· < upperMedian d l) ≤ l.length / 2 := by
  by_cases empty : l = []
  · rw [empty]
    simp
  · rw [← (List.mergeSort_perm l fun a b => a ≤ b).countP_eq, upperMedian_getElem d l (half_inside empty)]
    exact countP_lt_sorted_le (List.pairwise_mergeSort' (· ≤ ·) l) (half_inside empty)

theorem countP_lt_upperMedian_eq (distinct : l.Nodup) : l.countP (· < upperMedian d l) = l.length / 2 := by
  by_cases empty : l = []
  · rw [empty]
    simp
  · have sorted := List.pairwise_mergeSort' (· ≤ ·) l
    have apart : (l.mergeSort fun a b => a ≤ b).Nodup := (List.mergeSort_perm l _).nodup_iff.mpr distinct
    rw [← (List.mergeSort_perm l fun a b => a ≤ b).countP_eq, upperMedian_getElem d l (half_inside empty)]
    exact countP_lt_sorted_eq (sorted.imp₂ (fun _ _ => lt_of_le_of_ne) apart) (half_inside empty)

theorem upperMedian_perm {l l' : List α} (perm : l.Perm l') : upperMedian d l = upperMedian d l' := by
  have sorted : (l.mergeSort fun a b => a ≤ b) = l'.mergeSort fun a b => a ≤ b :=
    ((List.mergeSort_perm l _).trans (perm.trans (List.mergeSort_perm l' _).symm)).eq_of_pairwise'
      (List.pairwise_mergeSort' (· ≤ ·) l) (List.pairwise_mergeSort' (· ≤ ·) l')
  rw [upperMedian, upperMedian, sorted, perm.length_eq]

end
end Iems.Lib
