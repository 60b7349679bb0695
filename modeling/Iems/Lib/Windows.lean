import Mathlib.Data.List.TakeDrop
import Mathlib.Order.Basic

/-! The windows of consecutive entries of a series, and series that are padded in front to have one. -/
namespace Iems.Lib

variable {α : Type} {l : List α} {width j : Nat}

/-- The places at which a window of at least one entry ends. -/
def windowEnds (width count : Nat) : List Nat := List.range' (width - 1) (count + 1 - width)

/-- The windows of a series: at each end, the entries up to it. -/
def windows (width : Nat) (l : List α) : List (List α) :=
  (windowEnds width l.length).map fun i => (l.take (i + 1)).drop (i + 1 - width)

/-- A series that is too short for a window, with its first entry repeated in front of it. -/
def padFront (width : Nat) (l : List α) : List α := (l.take 1).flatMap (List.replicate (width - l.length)) ++ l

theorem windowEnds_getElem? (positive : 1 ≤ width) {count : Nat} (inside : j < count + 1 - width) :
    (windowEnds width count)[j]? = some (j + width - 1) := by
  rw [windowEnds, List.getElem?_range' (by simpa using inside)]
  congr 1
  omega

@[simp] theorem length_windows (width : Nat) (l : List α) : (windows width l).length = l.length + 1 - width := by
  simp [windows, windowEnds]

theorem windows_getElem? (positive : 1 ≤ width) (inside : j < l.length + 1 - width) :
    (windows width l)[j]? = some ((l.drop j).take width) := by
  rw [windows, List.getElem?_map, windowEnds_getElem? positive inside, Option.map_some, List.take_drop]
  congr 2
  · omega
  · congr 1
    omega

theorem window_getLast? (positive : 1 ≤ width) (inside : j + width ≤ l.length) :
    ((l.drop j).take width).getLast? = l[j + width - 1]? := by
  rw [List.getLast?_eq_getElem?, List.length_take, List.length_drop, List.getElem?_take_of_lt (by omega),
    List.getElem?_drop]
  congr 1
  omega

theorem padFront_long (long : width ≤ l.length) : padFront width l = l := by
  simp [padFront, Nat.sub_eq_zero_of_le long]

theorem padFront_cons (first : α) (rest : List α) :
    padFront width (first :: rest) = List.replicate (width - (rest.length + 1)) first ++ first :: rest := by
  simp [padFront]

theorem length_padFront (some_ : l ≠ []) : (padFront width l).length = max l.length width := by
  obtain ⟨first, rest, rfl⟩ := List.exists_cons_of_ne_nil some_
  rw [padFront_cons, List.length_append, List.length_replicate, List.length_cons]
  omega

theorem padFront_getElem? (some_ : l ≠ []) (j : Nat) : (padFront width l)[width - l.length + j]? = l[j]? := by
  obtain ⟨first, rest, rfl⟩ := List.exists_cons_of_ne_nil some_
  rw [padFront_cons, List.length_cons, List.getElem?_append_right (by simp), List.length_replicate]
  congr 1
  omega

theorem windows_map {β : Type} (f : α → β) : windows width (l.map f) = (windows width l).map (List.map f) := by
  simp [windows, List.map_take, List.map_drop, Function.comp_def]

theorem windows_zero {window : List α} (member : window ∈ windows 0 l) : window = [] := by
  obtain ⟨i, _, rfl⟩ := List.mem_map.mp member
  apply List.drop_eq_nil_of_le
  rw [List.length_take]
  omega

theorem mem_windows (positive : 1 ≤ width) {window : List α} :
    window ∈ windows width l ↔ ∃ j, j + width ≤ l.length ∧ window = (l.drop j).take width := by
  rw [List.mem_iff_getElem?]
  constructor
  · rintro ⟨j, listed⟩
    have inside := (List.getElem?_eq_some_iff.mp listed).1
    rw [length_windows] at inside
    rw [windows_getElem? positive inside] at listed
    cases listed
    exact ⟨j, by omega, rfl⟩
  · rintro ⟨j, inside, rfl⟩
    exact ⟨j, windows_getElem? positive (by omega)⟩

/-! ### Series that go on after their own rows -/

/-- The rows of a series with their places. -/
def placed (l : List α) : List (α × Option Nat) := l.zipIdx.map fun x => (x.1, some x.2)

/-- Rows that have no place in a series. -/
def unplaced (l : List α) : List (α × Option Nat) := l.map fun x => (x, none)

/-- A window of consecutive rows of a series, in their order. -/
def IsRun (width : Nat) (whole : List α) (window : List (α × Option Nat)) : Prop :=
  ∃ start, start + width ≤ whole.length ∧ window = ((placed whole).drop start).take width

@[simp] theorem length_placed : (placed l).length = l.length := by
  simp [placed]

@[simp] theorem length_unplaced : (unplaced l).length = l.length := List.length_map _

theorem placed_getElem? (i : Nat) : (placed l)[i]? = l[i]?.map fun x => (x, some i) := by
  simp [placed, Function.comp_def]

theorem placed_take (n : Nat) : placed (l.take n) = (placed l).take n := by
  apply List.ext_getElem?
  intro i
  rw [placed_getElem?, List.getElem?_take, List.getElem?_take, placed_getElem?]
  split <;> rfl

theorem map_fst_placed : (placed l).map Prod.fst = l := by
  simp [placed, Function.comp_def]

theorem map_fst_unplaced : (unplaced l).map Prod.fst = l := by
  simp [unplaced, Function.comp_def]

theorem isRun_take {n : Nat} (inside : j + width ≤ n) (within : n ≤ l.length) :
    IsRun width l (((placed (l.take n)).drop j).take width) := by
  refine ⟨j, by omega, ?_⟩
  have fits : min width (n - j) = width := by omega
  rw [placed_take, List.drop_take, List.take_take, fits]

/-- The last window over a series that goes on ends with a row that is not its own. -/
theorem last_window_not_run {more : List α} (positive : 1 ≤ width) (long : width ≤ l.length) (some_ : more ≠ [])
    (whole : List α) : ∃ window ∈ windows width (placed l ++ unplaced more), ¬ IsRun width whole window := by
  have total : (placed l ++ unplaced more).length = l.length + more.length := by simp
  have grown := List.length_pos_iff.mpr some_
  refine ⟨_, (mem_windows positive).mpr ⟨l.length + more.length - width, by omega, rfl⟩, ?_⟩
  rintro ⟨start, inside, same⟩
  have last := window_getLast? (l := placed l ++ unplaced more) positive
    (show l.length + more.length - width + width ≤ _ by omega)
  rw [same, window_getLast? positive (by simpa using inside), placed_getElem?] at last
  have place : l.length + more.length - width + width - 1 - (placed l).length = more.length - 1 := by
    rw [length_placed]
    omega
  rw [List.getElem?_append_right (by simp; omega), place, unplaced, List.getElem?_map,
    List.getElem?_eq_getElem (by omega : more.length - 1 < more.length), Option.map_some] at last
  obtain ⟨_, _, wrong⟩ := Option.map_eq_some_iff.mp last
  cases wrong

/-- Over the first rows of a series and some that are not its own, every window is a run of it exactly where there are
none of those, or where windows are empty. -/
theorem windows_run_iff {n : Nat} (within : n ≤ l.length) (long : width ≤ n) (more : List α) :
    (∀ window ∈ windows width (placed (l.take n) ++ unplaced more), IsRun width l window) ↔ width = 0 ∨ more = [] := by
  have rows : (l.take n).length = n := List.length_take_of_le within
  constructor
  · intro runs
    by_contra neither
    obtain ⟨nonzero, some_⟩ := not_or.mp neither
    obtain ⟨window, member, broken⟩ :=
      last_window_not_run (Nat.pos_of_ne_zero nonzero) (rows.symm ▸ long) some_ l
    exact broken (runs window member)
  · rintro (rfl | rfl) window member
    · rw [windows_zero member]
      exact ⟨0, Nat.zero_le _, rfl⟩
    · rcases Nat.eq_zero_or_pos width with rfl | positive
      · rw [windows_zero member]
        exact ⟨0, Nat.zero_le _, rfl⟩
      · obtain ⟨j, inside, rfl⟩ := (mem_windows positive).mp member
        rw [unplaced, List.map_nil, List.append_nil, length_placed, rows] at inside
        rw [unplaced, List.map_nil, List.append_nil]
        exact isRun_take inside within

end Iems.Lib
