import Mathlib.Algebra.BigOperators.Group.List.Basic
import Mathlib.Algebra.Order.Field.Basic
import Mathlib.Data.List.Pairwise
import Mathlib.Order.Lattice
import Mathlib.Tactic.FieldSimp
import Mathlib.Tactic.Linarith
import Mathlib.Tactic.Ring

/-! Histograms over consecutive bins, and samples rebuilt from the midpoints of the bins. -/
namespace Iems.Lib

theorem countP_add_countP {α : Type} {p q r : α → Bool} {samples : List α}
    (split : ∀ x ∈ samples, (p x).toNat + (q x).toNat = (r x).toNat) :
    samples.countP p + samples.countP q = samples.countP r := by
  induction samples with
  | nil => rfl
  | cons x rest ih =>
    have here := split x List.mem_cons_self
    have later := ih fun y member => split y (List.mem_cons_of_mem _ member)
    have counted : ∀ inside : Bool, (if inside then 1 else 0) = inside.toNat := by decide
    simp only [List.countP_cons, counted]
    omega

section
variable {K : Type} [LinearOrder K]

/-- How many samples fall between consecutive edges; only the last bin holds its right edge. -/
def histogram : List K → List K → List Nat
  | lo :: hi :: rest, samples =>
    (samples.countP fun x => lo ≤ x ∧ (x < hi ∨ rest = [] ∧ x = hi)) :: histogram (hi :: rest) samples
  | _, _ => []

@[simp] theorem length_histogram (edges samples : List K) : (histogram edges samples).length = edges.length - 1 := by
  induction edges with
  | nil => rfl
  | cons lo rest ih =>
    cases rest with
    | nil => rfl
    | cons hi more =>
      rw [histogram, List.length_cons, ih]
      simp

/-- The order of the samples does not count. -/
theorem histogram_perm {samples other : List K} (same : samples.Perm other) (edges : List K) :
    histogram edges samples = histogram edges other := by
  induction edges with
  | nil => rfl
  | cons lo rest ih =>
    cases rest with
    | nil => rfl
    | cons hi more => rw [histogram, histogram, same.countP_eq, ih]

theorem histogram_map_range (edge : Nat → K) (first bins : Nat) (samples : List K) :
    histogram ((List.range' first (bins + 1)).map edge) samples =
      (List.range' first bins).map fun i =>
        samples.countP fun x => edge i ≤ x ∧ (x < edge (i + 1) ∨ i + 1 = first + bins ∧ x = edge (i + 1)) := by
  induction bins generalizing first with
  | zero => rfl
  | succ bins ih =>
    have later := ih (first + 1)
    have ends : (List.range' (first + 1 + 1) bins).map edge = [] ↔ first + 1 = first + (bins + 1) := by
      cases bins <;> simp
    rw [List.range'_succ, List.map_cons] at later
    rw [List.range'_succ, List.range'_succ, List.range'_succ, List.map_cons, List.map_cons, histogram, later,
      List.map_cons]
    simp only [ends, Nat.add_right_comm first 1 bins, Nat.add_assoc first bins 1]

/-- Bins that lie above some of the samples do not count these. -/
theorem histogram_append_below {edges below samples : List K} (apart : ∀ x ∈ below, ∀ edge ∈ edges, x < edge) :
    histogram edges (below ++ samples) = histogram edges samples := by
  induction edges with
  | nil => rfl
  | cons lo rest ih =>
    cases rest with
    | nil => rfl
    | cons hi more =>
      have none_ : below.countP (fun x => decide (lo ≤ x ∧ (x < hi ∨ more = [] ∧ x = hi))) = 0 := by
        rw [List.countP_eq_zero]
        intro x member inside
        have above := (decide_eq_true_iff.mp inside).1
        exact absurd (apart x member lo (by simp)) (not_lt.mpr above)
      have later := ih fun x member edge listed => apart x member edge (List.mem_cons_of_mem _ listed)
      rw [histogram, histogram, List.countP_append, none_, Nat.zero_add, later]

theorem sum_histogram {lo hi : K} {rest samples : List K} (increasing : (lo :: hi :: rest).Pairwise (· < ·))
    {last : K} (end_ : (hi :: rest).getLast? = some last) :
    (histogram (lo :: hi :: rest) samples).sum = samples.countP fun x => lo ≤ x ∧ x ≤ last := by
  induction rest generalizing lo hi with
  | nil =>
    obtain rfl : hi = last := by simpa using end_
    simp only [histogram, List.sum_cons, List.sum_nil, Nat.add_zero, true_and, ← le_iff_lt_or_eq]
  | cons next more ih =>
    have tail := (List.pairwise_cons.mp increasing).2
    have here : lo < hi := (List.pairwise_cons.mp increasing).1 hi (by simp)
    have beyond : hi < last := by
      have member := List.mem_of_getLast? (by simpa using end_ : (next :: more).getLast? = some last)
      exact (List.pairwise_cons.mp tail).1 last member
    rw [histogram, List.sum_cons, ih tail (by simpa using end_)]
    apply countP_add_countP
    intro x _
    -- below `hi`, at or above it: exactly one of the two bins
    rcases lt_or_ge x hi with below | above
    · have small : x ≤ last := (below.trans beyond).le
      simp [below, not_le.mpr below, small]
    · simp [above, not_lt.mpr above, here.le.trans above]

end

variable {K : Type} [Field K]

def midpoints : List K → List K
  | lo :: hi :: rest => 1 / 2 * (lo + hi) :: midpoints (hi :: rest)
  | _ => []

/-- The midpoint of each bin, as often as the bin counts. -/
def rebuild (edges : List K) (counts : List Nat) : List K :=
  ((midpoints edges).zip counts).flatMap fun bin => List.replicate bin.2 bin.1

theorem rebuild_cons (lo hi : K) (rest : List K) (count : Nat) (counts : List Nat) :
    rebuild (lo :: hi :: rest) (count :: counts) =
      List.replicate count (1 / 2 * (lo + hi)) ++ rebuild (hi :: rest) counts := rfl

theorem length_rebuild {edges : List K} {counts : List Nat} (shape : counts.length = edges.length - 1) :
    (rebuild edges counts).length = counts.sum := by
  induction edges generalizing counts with
  | nil => rw [List.length_eq_zero_iff.mp shape]; rfl
  | cons lo rest ih =>
    cases rest with
    | nil => rw [List.length_eq_zero_iff.mp shape]; rfl
    | cons hi more =>
      cases counts with
      | nil => simp at shape
      | cons count counts =>
        rw [rebuild_cons, List.length_append, List.length_replicate, ih (by simpa using shape), List.sum_cons]

/-- `steps + 1` evenly spaced points from `lo` to `hi`. -/
def linspace (lo hi : K) (steps : Nat) : List K :=
  (List.range (steps + 1)).map fun i : Nat => lo + (i : K) * ((hi - lo) / steps)

@[simp] theorem length_linspace (lo hi : K) (steps : Nat) : (linspace lo hi steps).length = steps + 1 := by
  simp [linspace]

variable [LinearOrder K] [IsStrictOrderedRing K]

theorem midpoint_between {lo hi : K} (apart : lo < hi) : lo < 1 / 2 * (lo + hi) ∧ 1 / 2 * (lo + hi) < hi := by
  constructor <;> linarith

theorem mem_rebuild {edges : List K} {counts : List Nat} (increasing : edges.Pairwise (· < ·)) {x : K}
    (member : x ∈ rebuild edges counts) : ∃ lo ∈ edges, ∃ hi ∈ edges, lo < x ∧ x < hi := by
  induction edges generalizing counts with
  | nil => cases member
  | cons lo rest ih =>
    cases rest with
    | nil => cases member
    | cons hi more =>
      cases counts with
      | nil => simp [rebuild] at member
      | cons count counts =>
        rw [rebuild_cons, List.mem_append] at member
        rcases member with here | later
        · have between := midpoint_between ((List.pairwise_cons.mp increasing).1 hi (by simp))
          rw [(List.mem_replicate.mp here).2]
          exact ⟨lo, by simp, hi, by simp, between⟩
        · obtain ⟨low, lowEdge, high, highEdge, between⟩ := ih (List.pairwise_cons.mp increasing).2 later
          exact ⟨low, List.mem_cons_of_mem _ lowEdge, high, List.mem_cons_of_mem _ highEdge, between⟩

/-- The midpoints fall back into the bins they stand for. -/
theorem histogram_rebuild {edges : List K} {counts : List Nat} (increasing : edges.Pairwise (· < ·))
    (shape : counts.length = edges.length - 1) : histogram edges (rebuild edges counts) = counts := by
  induction edges generalizing counts with
  | nil => exact (List.length_eq_zero_iff.mp shape).symm
  | cons lo rest ih =>
    cases rest with
    | nil => exact (List.length_eq_zero_iff.mp shape).symm
    | cons hi more =>
      cases counts with
      | nil => simp at shape
      | cons count counts =>
        obtain ⟨first, tail⟩ := List.pairwise_cons.mp increasing
        obtain ⟨above, below⟩ := midpoint_between (first hi (by simp))
        have lowest : ∀ edge ∈ hi :: more, hi ≤ edge := by
          intro edge listed
          rcases List.mem_cons.mp listed with rfl | later
          · exact le_rfl
          · exact ((List.pairwise_cons.mp tail).1 edge later).le
        have beyond : ∀ x ∈ rebuild (hi :: more) counts, hi < x := by
          intro x member
          obtain ⟨low, lowEdge, _, _, larger, _⟩ := mem_rebuild tail member
          exact (lowest low lowEdge).trans_lt larger
        have here : (List.replicate count (1 / 2 * (lo + hi)) ++ rebuild (hi :: more) counts).countP
            (fun x => lo ≤ x ∧ (x < hi ∨ more = [] ∧ x = hi)) = count := by
          have others : (rebuild (hi :: more) counts).countP
              (fun x => lo ≤ x ∧ (x < hi ∨ more = [] ∧ x = hi)) = 0 := by
            rw [List.countP_eq_zero]
            intro x member inside
            rcases (decide_eq_true_iff.mp inside).2 with before | ⟨-, same⟩
            · exact lt_asymm before (beyond x member)
            · exact (beyond x member).ne' same
          rw [List.countP_append, others, Nat.add_zero, List.countP_replicate, if_pos]
          exact decide_eq_true ⟨above.le, Or.inl below⟩
        have later : histogram (hi :: more) (List.replicate count (1 / 2 * (lo + hi)) ++ rebuild (hi :: more) counts) =
            counts := by
          rw [histogram_append_below]
          · exact ih tail (by simpa using shape)
          · intro x member edge listed
            rw [(List.mem_replicate.mp member).2]
            exact below.trans_le (lowest edge listed)
        rw [rebuild_cons, histogram, here, later]

variable {lo hi : K} {steps : Nat}

theorem linspace_increasing (apart : lo < hi) (some_ : 0 < steps) : (linspace lo hi steps).Pairwise (· < ·) := by
  have width : 0 < (hi - lo) / steps := div_pos (sub_pos.mpr apart) (Nat.cast_pos.mpr some_)
  unfold linspace
  rw [List.pairwise_map]
  refine List.pairwise_lt_range.imp ?_
  intro i j before
  have scaled := mul_lt_mul_of_pos_right (Nat.cast_lt.mpr before : (i : K) < j) width
  linarith

theorem mem_linspace_bounds (apart : lo ≤ hi) (some_ : 0 < steps) {edge : K} (member : edge ∈ linspace lo hi steps) :
    lo ≤ edge ∧ edge ≤ hi := by
  obtain ⟨i, inside, rfl⟩ := List.mem_map.mp member
  have width : 0 ≤ (hi - lo) / steps := div_nonneg (sub_nonneg.mpr apart) (Nat.cast_nonneg _)
  have positive : (0 : K) < steps := Nat.cast_pos.mpr some_
  have whole : (steps : K) * ((hi - lo) / steps) = hi - lo := mul_div_cancel₀ _ positive.ne'
  have most : (i : K) ≤ steps := Nat.cast_le.mpr (by rw [List.mem_range] at inside; omega)
  have low := mul_nonneg (Nat.cast_nonneg i : (0 : K) ≤ i) width
  have high := mul_le_mul_of_nonneg_right most width
  constructor <;> linarith

theorem sum_histogram_linspace (apart : lo < hi) (some_ : 0 < steps) {samples : List K}
    (within : ∀ x ∈ samples, lo ≤ x ∧ x ≤ hi) : (histogram (linspace lo hi steps) samples).sum = samples.length := by
  have positive : (steps : K) ≠ 0 := Nat.cast_ne_zero.mpr (by omega)
  have increasing := linspace_increasing apart some_
  have last : (linspace lo hi steps).getLast? = some hi := by
    have whole : lo + (steps : K) * ((hi - lo) / steps) = hi := by field_simp; ring
    simp [linspace, List.getLast?_range, whole]
  have first : (linspace lo hi steps).head? = some lo := by
    rw [linspace, List.range_succ_eq_map]
    simp
  match edges : linspace lo hi steps with
  | [] => simp [edges] at first
  | [_] =>
    have long := length_linspace lo hi steps
    simp [edges] at long
    omega
  | low :: next :: rest =>
    rw [edges] at increasing first last
    obtain rfl : low = lo := by simpa using first
    rw [sum_histogram increasing (by simpa using last), List.countP_eq_length]
    intro x member
    exact decide_eq_true (within x member)

/-- Samples that all lie at one edge fill the bin that starts there, at the last edge the last bin. -/
theorem histogram_linspace_replicate (apart : lo < hi) {place : Nat} (inside : place ≤ steps) (count : Nat) :
    histogram (linspace lo hi steps) (List.replicate count (lo + place * ((hi - lo) / steps))) =
      (List.range steps).map fun i => if i = min place (steps - 1) then count else 0 := by
  rcases Nat.eq_zero_or_pos steps with rfl | some_
  · rfl
  have width : 0 < (hi - lo) / steps := div_pos (sub_pos.mpr apart) (Nat.cast_pos.mpr some_)
  have below : ∀ i j : Nat, lo + (i : K) * ((hi - lo) / steps) < lo + (j : K) * ((hi - lo) / steps) ↔ i < j := by
    intro i j
    rw [add_lt_add_iff_left, mul_lt_mul_iff_left₀ width, Nat.cast_lt]
  have equal : ∀ i j : Nat, lo + (i : K) * ((hi - lo) / steps) = lo + (j : K) * ((hi - lo) / steps) ↔ i = j := by
    intro i j
    rw [add_right_inj, mul_left_inj' width.ne', Nat.cast_inj]
  have bins := histogram_map_range (fun i : Nat => lo + (i : K) * ((hi - lo) / steps)) 0 steps
    (List.replicate count (lo + place * ((hi - lo) / steps)))
  rw [← List.range_eq_range', ← List.range_eq_range'] at bins
  unfold linspace
  rw [bins]
  apply List.map_congr_left
  intro i listed
  have inRange : i < steps := List.mem_range.mp listed
  rw [List.countP_replicate]
  simp only [← not_lt, below, equal, decide_eq_true_eq]
  have same : (¬place < i ∧ (place < i + 1 ∨ i + 1 = 0 + steps ∧ place = i + 1)) ↔ i = min place (steps - 1) := by
    omega
  simp only [same]

end Iems.Lib
