import Mathlib.Data.Set.Lattice
import Mathlib.Order.CompletePartialOrder
import Mathlib.Order.Interval.Set.Basic
import Mathlib.Order.Monotone.Basic

/-! Grids: the half-open cells between strictly increasing boundaries. -/
namespace Iems.Lib

variable {α : Type} [LinearOrder α] {B : ℕ → α}

def cell (B : ℕ → α) (n : ℕ) : Set α := Set.Ico (B n) (B (n + 1))

theorem cell_unique (mono : StrictMono B) {x : α} {n m : ℕ} (first : x ∈ cell B n) (second : x ∈ cell B m) :
    n = m := by
  have lower : n < m + 1 := mono.lt_iff_lt.mp (lt_of_le_of_lt first.1 second.2)
  have upper : m < n + 1 := mono.lt_iff_lt.mp (lt_of_le_of_lt second.1 first.2)
  omega

theorem cell_disjoint (mono : StrictMono B) {n m : ℕ} (apart : n ≠ m) : Disjoint (cell B n) (cell B m) := by
  rw [Set.disjoint_left]
  intro x first second
  exact apart (cell_unique mono first second)

theorem boundary_le (mono : StrictMono B) {n m : ℕ} (meets : ∃ x, B n ≤ x ∧ x < B (m + 1)) : n ≤ m := by
  obtain ⟨x, low, high⟩ := meets
  exact Nat.le_of_lt_succ (mono.lt_iff_lt.mp (lt_of_le_of_lt low high))

theorem exists_cell (mono : StrictMono B) {x : α} {a b : ℕ} (low : B a ≤ x) (high : x < B b) :
    ∃ n, a ≤ n ∧ n < b ∧ x ∈ cell B n := by
  induction b with
  | zero => exact absurd (mono.lt_iff_lt.mp (lt_of_le_of_lt low high)) (Nat.not_lt_zero a)
  | succ b ih =>
    rcases lt_or_ge x (B b) with before | after
    · obtain ⟨n, lower, upper, inside⟩ := ih before
      exact ⟨n, lower, Nat.lt_succ_of_lt upper, inside⟩
    · exact ⟨b, boundary_le mono ⟨x, low, high⟩, Nat.lt_succ_self b, after, high⟩

theorem cell_subset (mono : StrictMono B) {a b n : ℕ} (lower : a ≤ n) (upper : n < b) :
    cell B n ⊆ Set.Ico (B a) (B b) := by
  rintro x ⟨low, high⟩
  exact ⟨(mono.monotone lower).trans low, lt_of_lt_of_le high (mono.monotone upper)⟩

theorem cell_subset_iff (mono : StrictMono B) {a b n : ℕ} :
    cell B n ⊆ Set.Ico (B a) (B b) ↔ a ≤ n ∧ n < b := by
  constructor
  · intro inside
    have start : B n ∈ cell B n := ⟨le_rfl, mono (Nat.lt_succ_self n)⟩
    obtain ⟨low, high⟩ := inside start
    exact ⟨mono.le_iff_le.mp low, mono.lt_iff_lt.mp high⟩
  · rintro ⟨lower, upper⟩
    exact cell_subset mono lower upper

theorem iUnion_cell (mono : StrictMono B) (a b : ℕ) :
    Set.Ico (B a) (B b) = ⋃ n ∈ Set.Ico a b, cell B n := by
  ext x
  simp only [Set.mem_iUnion, Set.mem_Ico, exists_prop]
  constructor
  · rintro ⟨low, high⟩
    obtain ⟨n, lower, upper, inside⟩ := exists_cell mono low high
    exact ⟨n, ⟨lower, upper⟩, inside⟩
  · rintro ⟨n, ⟨lower, upper⟩, inside⟩
    exact cell_subset mono lower upper inside

end Iems.Lib
