import Iems.Ml.Dataset
import Mathlib.Tactic.Linarith
import Mathlib.Tactic.NormNum

/-! The split of a dataset into arrays, and that no row is lost or seen twice by it. -/
namespace Iems.Ml
open Lib

def Sample.targets (sample : Sample) : List ℚ := [sample.energyIntensityKgoeTon, sample.carbonEmissionKgco2Ton]

def MLDataset.X (dataset : MLDataset) : List (List ℚ) := dataset.frame.map Sample.features

def MLDataset.y (dataset : MLDataset) : List (List ℚ) := dataset.frame.map Sample.targets

structure SplitArrays where
  xTrain : List (List ℚ)
  yTrain : List (List ℚ)
  xTest : List (List ℚ)
  yTest : List (List ℚ)
  deriving DecidableEq

/-- The rows at a list of places. -/
def rowsAt {α : Type} (rows : List α) (idx : List Nat) : List α := idx.filterMap (rows[·]?)

/-- `train_test_split` on the two arrays. -/
def splitArrays (shuffle : Int → Nat → List Nat) (dataset : MLDataset) (testRatio : ℚ) (seed : Int) (temporal : Bool) :
    Except TrainError SplitArrays :=
  let n := dataset.frame.length
  if n = 0 then .error (.other "None of the feature columns are in the columns")
  else if temporal then
    let cut := splitCut n testRatio
    let cut := if 1 < n then min cut (n - 1) else 1
    .ok ⟨dataset.X.take cut, dataset.y.take cut, dataset.X.drop cut, dataset.y.drop cut⟩
  else
    let idx := shuffle seed n
    let cut := splitCut n testRatio
    let trainIdx := idx.take cut
    let testIdx := idx.drop cut
    let testIdx := if testIdx = [] then trainIdx.drop (trainIdx.length - max 1 (n / 5)) else testIdx
    .ok ⟨rowsAt dataset.X trainIdx, rowsAt dataset.y trainIdx, rowsAt dataset.X testIdx, rowsAt dataset.y testIdx⟩

/-! ### Rows by their places -/

section
variable {α β : Type}

theorem rowsAt_map (f : α → β) (rows : List α) (idx : List Nat) : rowsAt (rows.map f) idx = (rowsAt rows idx).map f := by
  unfold rowsAt
  rw [List.map_filterMap]
  exact List.filterMap_congr fun i _ => List.getElem?_map ..

theorem rowsAt_range' (rows : List α) (start count : Nat) :
    rowsAt rows (List.range' start count) = (rows.drop start).take count := by
  induction count generalizing start with
  | zero => rw [List.take_zero]; rfl
  | succ count ih =>
    unfold rowsAt at ih ⊢
    rw [List.range'_succ, List.filterMap_cons, ih]
    by_cases inside : start < rows.length
    · rw [List.getElem?_eq_getElem inside, List.drop_eq_getElem_cons inside, List.take_succ_cons]
    · rw [List.getElem?_eq_none (not_lt.mp inside), List.drop_eq_nil_of_le (not_lt.mp inside),
        List.drop_eq_nil_of_le (by omega)]
      simp

theorem length_rowsAt_le (rows : List α) (idx : List Nat) : (rowsAt rows idx).length ≤ idx.length :=
  List.length_filterMap_le ..

theorem length_rowsAt {rows : List α} {idx : List Nat} (inside : ∀ i ∈ idx, i < rows.length) :
    (rowsAt rows idx).length = idx.length := by
  induction idx with
  | nil => rfl
  | cons i rest ih =>
    have first := List.getElem?_eq_getElem (inside i List.mem_cons_self)
    have later := ih fun j listed => inside j (List.mem_cons_of_mem _ listed)
    unfold rowsAt at later ⊢
    rw [List.filterMap_cons, first, List.length_cons, List.length_cons, later]

theorem rowsAt_ne_nil {rows : List α} {idx : List Nat} {i : Nat} (listed : i ∈ idx) (inside : i < rows.length) :
    rowsAt rows idx ≠ [] :=
  List.ne_nil_of_mem (List.mem_filterMap.mpr ⟨i, listed, List.getElem?_eq_getElem inside⟩)

end

/-- The arrays are the columns of the rows that the split deals out. -/
theorem splitArrays_rows (shuffle : Int → Nat → List Nat) (dataset : MLDataset) (testRatio : ℚ) (seed : Int)
    (temporal : Bool) : splitArrays shuffle dataset testRatio seed temporal =
      (trainTestSplit shuffle dataset testRatio seed temporal).map fun parts =>
        ⟨parts.1.map Sample.features, parts.1.map Sample.targets, parts.2.map Sample.features,
          parts.2.map Sample.targets⟩ := by
  unfold splitArrays trainTestSplit MLDataset.X MLDataset.y
  simp only [rowsAt_map, ← List.map_take, ← List.map_drop]
  by_cases empty : dataset.frame.length = 0
  · rw [if_pos empty, if_pos empty]
    rfl
  · rw [if_neg empty, if_neg empty]
    cases temporal <;> rfl

/-! ### A split without leakage -/

/-- Both parts have rows, and together they have every row once, its features beside its targets. -/
structure FairSplit (dataset : MLDataset) (temporal : Bool) (s : SplitArrays) : Prop where
  train : s.xTrain ≠ []
  test : s.xTest ≠ []
  once : ∃ trainIdx testIdx : List Nat, (trainIdx ++ testIdx).Perm (List.range dataset.frame.length) ∧
    s.xTrain = rowsAt dataset.X trainIdx ∧ s.yTrain = rowsAt dataset.y trainIdx ∧
    s.xTest = rowsAt dataset.X testIdx ∧ s.yTest = rowsAt dataset.y testIdx
  order : temporal = true → s.xTrain ++ s.xTest = dataset.X ∧ s.yTrain ++ s.yTest = dataset.y

/-! ### The cut in double precision -/

/-- The complement of a ratio is one from the ratio on that is half of the last gap below one. -/
theorem double_complement {testRatio : ℚ} (positive : 0 < testRatio) (less : testRatio < 1) :
    (1 / 2 ^ 54 < testRatio → double (1 - testRatio) ≤ 1 - 1 / 2 ^ 53) ∧
      (testRatio ≤ 1 / 2 ^ 54 → double (1 - testRatio) = 1) :=
  ⟨fun large => roundBinary_below_one 52 (by linarith) (by linarith),
    fun small => roundBinary_near_one 52 (by linarith) (by linarith)⟩

/-- A ratio that double precision tells from zero cuts before the last row. -/
theorem double_product_lt {n : Nat} (some_ : 0 < n) {testRatio : ℚ} (large : 1 / 2 ^ 54 < testRatio) (less : testRatio < 1) :
    double (double n * double (1 - testRatio)) < n := by
  have rows : (0 : ℚ) < n := by exact_mod_cast some_
  have complement : 0 < 1 - testRatio := by linarith
  have positive : 0 < testRatio := lt_trans (by norm_num) large
  obtain ⟨m, places⟩ := roundBinary_places 52 rows
  have shrinks := roundBinary_shrinks 52 (roundBinary_pos 52 rows) places (roundBinary_pos 52 complement)
    ((double_complement positive less).1 large)
  exact lt_of_roundBinary_lt 52 (mul_pos (roundBinary_pos 52 rows) (roundBinary_pos 52 complement)) shrinks rows

theorem splitCut_lt_iff {n : Nat} (two : 2 ≤ n) {testRatio : ℚ} (positive : 0 < testRatio) (less : testRatio < 1) :
    splitCut n testRatio < n ↔ 1 / 2 ^ 54 < testRatio ∨ double n < n := by
  have rows : (0 : ℚ) < n := by exact_mod_cast (by omega : 0 < n)
  have cut : splitCut n testRatio < n ↔ double (double n * double (1 - testRatio)) < n := by
    have floor := @Int.floor_lt _ _ _ _ (n : ℤ) (double (double n * double (1 - testRatio)))
    rw [Int.cast_natCast] at floor
    rw [← floor]
    unfold splitCut
    omega
  rw [cut]
  rcases lt_or_ge (1 / 2 ^ 54) testRatio with large | small
  · exact iff_of_true (double_product_lt (by omega) large less) (Or.inl large)
  · have whole : double (double n * double (1 - testRatio)) = double n := by
      rw [(double_complement positive less).2 small, mul_one]
      exact roundBinary_roundBinary 52 rows
    rw [whole]
    exact ⟨Or.inr, fun either => either.resolve_left (not_lt.mpr small)⟩

section
variable {dataset : MLDataset}

theorem fairSplit_of_places {trainIdx testIdx : List Nat} {s : SplitArrays} {temporal : Bool}
    (once : (trainIdx ++ testIdx).Perm (List.range dataset.frame.length)) (some_ : trainIdx ≠ []) (others : testIdx ≠ [])
    (arrays : s = ⟨rowsAt dataset.X trainIdx, rowsAt dataset.y trainIdx, rowsAt dataset.X testIdx,
      rowsAt dataset.y testIdx⟩)
    (order : temporal = true → s.xTrain ++ s.xTest = dataset.X ∧ s.yTrain ++ s.yTest = dataset.y) :
    FairSplit dataset temporal s := by
  have rows : dataset.X.length = dataset.frame.length := List.length_map ..
  have place (i : Nat) (listed : i ∈ trainIdx ++ testIdx) : i < dataset.X.length := by
    rw [rows]
    exact List.mem_range.mp (once.mem_iff.mp listed)
  obtain ⟨i, first⟩ := List.exists_mem_of_ne_nil _ some_
  obtain ⟨j, second⟩ := List.exists_mem_of_ne_nil _ others
  subst arrays
  exact ⟨rowsAt_ne_nil first (place i (List.mem_append_left _ first)),
    rowsAt_ne_nil second (place j (List.mem_append_right _ second)),
    ⟨trainIdx, testIdx, once, rfl, rfl, rfl, rfl⟩, order⟩

theorem temporalSplit_fair {cut : Nat} (low : 1 ≤ cut) (high : cut < dataset.frame.length) :
    FairSplit dataset true ⟨dataset.X.take cut, dataset.y.take cut, dataset.X.drop cut, dataset.y.drop cut⟩ := by
  have features : dataset.X.length = dataset.frame.length := List.length_map ..
  have targets : dataset.y.length = dataset.frame.length := List.length_map ..
  have whole : List.range' 0 cut ++ List.range' cut (dataset.frame.length - cut) = List.range dataset.frame.length := by
    have joined := @List.range'_append_1 0 cut (dataset.frame.length - cut)
    rw [Nat.zero_add, Nat.add_sub_cancel' high.le] at joined
    rw [joined, List.range_eq_range']
  have end_ (rows : List (List ℚ)) (long : rows.length = dataset.frame.length) :
      (rows.drop cut).take (dataset.frame.length - cut) = rows.drop cut :=
    List.take_of_length_le (by rw [List.length_drop, long])
  refine fairSplit_of_places (.of_eq whole) ?_ ?_ ?_ fun _ => ⟨List.take_append_drop .., List.take_append_drop ..⟩
  · rw [Ne, List.range'_eq_nil_iff]
    omega
  · rw [Ne, List.range'_eq_nil_iff]
    omega
  · rw [rowsAt_range', rowsAt_range', rowsAt_range', rowsAt_range', List.drop_zero, List.drop_zero,
      end_ _ features, end_ _ targets]

theorem shuffledSplit_fair {cut : Nat} {idx : List Nat} (permutes : idx.Perm (List.range dataset.frame.length))
    (low : 1 ≤ cut) (high : cut < dataset.frame.length) :
    FairSplit dataset false ⟨rowsAt dataset.X (idx.take cut), rowsAt dataset.y (idx.take cut),
      rowsAt dataset.X (idx.drop cut), rowsAt dataset.y (idx.drop cut)⟩ := by
  have long : idx.length = dataset.frame.length := permutes.length_eq.trans List.length_range
  refine fairSplit_of_places ?_ ?_ ?_ rfl (fun temporal => nomatch temporal)
  · rwa [List.take_append_drop]
  · apply List.ne_nil_of_length_pos
    rw [List.length_take]
    omega
  · apply List.ne_nil_of_length_pos
    rw [List.length_drop]
    omega

end

/-- A shuffled split without a row to spare uses rows of the training part again. -/
theorem wholeSplit_unfair {idx testIdx : List Nat} (permutes : idx.Perm (List.range dataset.frame.length)) :
    ¬ FairSplit dataset false ⟨rowsAt dataset.X idx, rowsAt dataset.y idx, rowsAt dataset.X testIdx,
      rowsAt dataset.y testIdx⟩ := by
  rintro ⟨_, others, ⟨trainIdx, heldIdx, once, train, _, held, _⟩, _⟩
  dsimp only at others train held
  have rows : dataset.X.length = dataset.frame.length := List.length_map ..
  have every : (rowsAt dataset.X idx).length = dataset.frame.length := by
    rw [length_rowsAt fun i listed => ?_, permutes.length_eq, List.length_range]
    rw [rows]
    exact List.mem_range.mp (permutes.mem_iff.mp listed)
  have some_ := List.length_pos_iff.mpr others
  have parts := once.length_eq
  have most := length_rowsAt_le dataset.X trainIdx
  have rest := length_rowsAt_le dataset.X heldIdx
  rw [List.length_append, List.length_range] at parts
  rw [← train, every] at most
  rw [← held] at rest
  omega

/-- A split of at least two rows is fair in temporal mode, where the cut is clamped; in shuffled mode it is where the
product of the cut, in double precision, stays below the row count. `shuffle` is the generator's, which puts the places
in some order. -/
theorem splitArrays_fair_iff {shuffle : Int → Nat → List Nat} (permutes : ∀ seed n, (shuffle seed n).Perm (List.range n))
    {dataset : MLDataset} (two : 2 ≤ dataset.frame.length) {testRatio : ℚ} (positive : 0 < testRatio)
    (less : testRatio < 1) (seed : Int) (temporal : Bool) :
    (∃ s, splitArrays shuffle dataset testRatio seed temporal = .ok s ∧ FairSplit dataset temporal s) ↔
      temporal = true ∨ 1 / 2 ^ 54 < testRatio ∨ double dataset.frame.length < dataset.frame.length := by
  have some_ : dataset.frame.length ≠ 0 := by omega
  have order := permutes seed dataset.frame.length
  have low := one_le_splitCut dataset.frame.length testRatio
  unfold splitArrays
  dsimp only
  rw [if_neg some_]
  cases temporal with
  | true =>
    rw [if_pos rfl, if_pos (by omega)]
    exact iff_of_true ⟨_, rfl, temporalSplit_fair (by omega) (by omega)⟩ (Or.inl rfl)
  | false =>
    rw [if_neg (by decide), ← splitCut_lt_iff two positive less]
    constructor
    · rintro ⟨s, split, fair⟩
      by_contra reached
      have all : (shuffle seed dataset.frame.length).take (splitCut dataset.frame.length testRatio) =
          shuffle seed dataset.frame.length := by
        apply List.take_of_length_le
        rw [order.length_eq, List.length_range]
        exact not_lt.mp (not_or.mp reached).2
      rw [all] at split
      cases split
      exact wholeSplit_unfair order fair
    · intro either
      have high := either.resolve_left Bool.false_ne_true
      -- the holdout is not empty, so no training row is used again
      have others : (shuffle seed dataset.frame.length).drop (splitCut dataset.frame.length testRatio) ≠ [] := by
        apply List.ne_nil_of_length_pos
        rw [List.length_drop, order.length_eq, List.length_range]
        omega
      rw [if_neg others]
      exact ⟨_, rfl, shuffledSplit_fair order low high⟩

def pairDataset : MLDataset where
  frame := [⟨15, 100, 30, 100, 400, 600, 50⟩, ⟨15, 100, 30, 100, 400, 700, 50⟩]
  source := "synthetic"
  plantCode := "olefin"

theorem splitArrays_fair_iff_pair : ∃ s,
    splitArrays (fun _ n => List.range n) pairDataset (1 / 5) 42 false = .ok s ∧ FairSplit pairDataset false s :=
  (splitArrays_fair_iff (fun _ n => List.Perm.refl _) (by decide) (by norm_num) (by norm_num) 42 false).mpr
    (Or.inr (Or.inl (by norm_num)))

/-- At a ratio of `2 ^ -60` both rows are trained on, and the second one is the test part as well. -/
theorem shuffled_split_reuses :
    splitArrays (fun _ n => List.range n) pairDataset (1 / 2 ^ 60) 42 false =
        .ok ⟨pairDataset.X, pairDataset.y, pairDataset.X.drop 1, pairDataset.y.drop 1⟩ ∧
      ¬ ∀ (shuffle : Int → Nat → List Nat) (dataset : MLDataset) (testRatio : ℚ) (seed : Int) (temporal : Bool),
        (∀ seed n, (shuffle seed n).Perm (List.range n)) → 2 ≤ dataset.frame.length → 0 < testRatio → testRatio < 1 →
        ∃ s, splitArrays shuffle dataset testRatio seed temporal = .ok s ∧ FairSplit dataset temporal s := by
  have computed : splitArrays (fun _ n => List.range n) pairDataset (1 / 2 ^ 60) 42 false =
      .ok ⟨pairDataset.X, pairDataset.y, pairDataset.X.drop 1, pairDataset.y.drop 1⟩ := by decide +kernel
  refine ⟨computed, fun always => ?_⟩
  obtain ⟨s, split, fair⟩ := always (fun _ n => List.range n) pairDataset (1 / 2 ^ 60) 42 false
    (fun _ n => List.Perm.refl _) (by decide) (by norm_num) (by norm_num)
  cases computed.symm.trans split
  exact @wholeSplit_unfair pairDataset [0, 1] [1] (List.Perm.refl _) fair

end Iems.Ml
