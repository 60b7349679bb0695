import Iems.Lib.Dict
import Iems.Lib.Histogram
import Iems.Lib.Mean
import Iems.Lib.Rounding
import Iems.Ml.Features
import Mathlib.Analysis.SpecialFunctions.Log.Basic

/-! Drift monitoring: the population stability index against a reference rebuilt from stored statistics. -/
namespace Iems.Ml
open Lib

/-- The numeric functions that are not arithmetic; `normal` draws from the generator seeded with 0. -/
structure Numpy (K : Type) where
  log : K → K
  sqrt : K → K
  normal : K → K → Nat → List K

/-- The statistics of one feature in `feature_ref`. -/
structure FeatureStats (K : Type) where
  mean : K
  std : K
  min : K
  max : K
  hist : List Nat
  edges : List K
  deriving DecidableEq

structure FeatureReference (K : Type) where
  n : Nat
  features : Dict String (FeatureStats K)
  deriving DecidableEq

structure DriftReport (K : Type) where
  perFeaturePsi : Dict String K
  maxPsi : K
  threshold : K
  driftAlert : Bool
  deriving DecidableEq

section
variable {K : Type} [Field K]

def psiOf (log : K → K) (refP curP : List K) : K :=
  (List.zipWith (fun c r => (c - r) * log (c / r)) curP refP).sum

@[simp] theorem psiOf_self (log : K → K) (p : List K) : psiOf log p p = 0 := by
  unfold psiOf
  induction p with
  | nil => rfl
  | cons share rest ih => simp

variable [LinearOrder K]

def lowest (samples : List K) : K := samples.min?.getD 0

def highest (samples : List K) : K := samples.max?.getD 0

/-- The share of each bin, none of them zero. -/
def binShares (hist : List Nat) : List K :=
  let p : List K := hist.map fun count => (count : K) / max hist.sum 1
  let clipped := p.map fun share => max share ((1 / 10 ^ 4 : ℚ) : K)
  clipped.map fun share => share / clipped.sum

def computePsi (log : K → K) (reference current : List K) (nBins : Nat) : K :=
  if reference.length < 5 ∨ current.length < 5 then 0
  else
    let lo := min (lowest reference) (lowest current)
    let hi := max (highest reference) (highest current)
    if hi - lo < (1 / 10 ^ 12 : ℚ) then 0
    else
      let bins := linspace lo hi nBins
      psiOf log (binShares (histogram bins reference)) (binShares (histogram bins current))

/-- The edges of `numpy.histogram(col, bins=10)`: equal bins over the range of the column, which a
constant column has half a unit to either side. -/
def binEdges (col : List K) : List K :=
  if lowest col = highest col then linspace (lowest col - (1 / 2 : ℚ)) (highest col + (1 / 2 : ℚ)) 10
  else linspace (lowest col) (highest col) 10

variable (np : Numpy K)

def featureStats (col : List K) : FeatureStats K where
  mean := average col
  std := np.sqrt (average (col.map fun x => (x - average col) ^ 2)) + (1 / 10 ^ 12 : ℚ)
  min := lowest col
  max := highest col
  hist := histogram (binEdges col) col
  edges := binEdges col

/-- `none` where the minimum of an empty column raises. -/
def featureReferenceStats (X : FeatureMatrix K) : Option (FeatureReference K) :=
  if featureColumns.any fun name => (X.feature name).isEmpty then none
  else some
    { n := X.rows.length
      features := Dict.collect (fun name => some (featureStats np (X.feature name))) featureColumns .empty }

/-- Draws from the mean and deviation stand in for a histogram that is missing or empty. -/
def referenceColumn (stored : Option (FeatureStats K)) : List K :=
  match stored with
  | none => np.normal 0 (max 1 (1 / 10 ^ 6 : ℚ)) 50
  | some st =>
    if st.hist ≠ [] ∧ st.edges.length = st.hist.length + 1 ∧ rebuild st.edges st.hist ≠ [] then
      rebuild st.edges st.hist
    else np.normal st.mean (max st.std (1 / 10 ^ 6 : ℚ)) 50

/-- `_reference_matrix_from_stats`: columns cut to the shortest. -/
def referenceMatrixFromStats (ref : FeatureReference K) : FeatureMatrix K :=
  let cols := featureColumns.map fun name => referenceColumn np (ref.features.get? name)
  .columnStack cols ((cols.map List.length).min?.getD 0)

def driftReport [FloorRing K] (referenceX currentX : FeatureMatrix K) (threshold : K) : DriftReport K :=
  let psi (name : String) : Option K :=
    let i := featureColumns.idxOf name
    if referenceX.width ≤ i ∨ currentX.width ≤ i then none
    else some (roundDigits 4 (computePsi np.log (referenceX.column i) (currentX.column i) 10))
  let perFeature := Dict.collect psi featureColumns .empty
  let maxPsi := perFeature.values.max?.getD 0
  { perFeaturePsi := perFeature
    maxPsi := roundDigits 4 maxPsi
    threshold := threshold
    driftAlert := threshold ≤ maxPsi }

/-- The drift reported for a matrix against the reference stored for it. -/
def selfDrift [FloorRing K] (X : FeatureMatrix K) (threshold : K) : Option K :=
  (featureReferenceStats np X).map fun stats =>
    (driftReport np (referenceMatrixFromStats np stats) X threshold).maxPsi

end

/-! ### A column against the reference rebuilt from it -/

section
variable {K : Type} [Field K] [LinearOrder K] {col : List K}

theorem lowest_spec (some_ : col ≠ []) : lowest col ∈ col ∧ ∀ x ∈ col, lowest col ≤ x := by
  cases found : col.min? with
  | none => exact absurd (List.min?_eq_none_iff.mp found) some_
  | some least =>
    rw [lowest, found]
    exact List.min?_eq_some_iff.mp found

theorem highest_spec (some_ : col ≠ []) : highest col ∈ col ∧ ∀ x ∈ col, x ≤ highest col := by
  cases found : col.max? with
  | none => exact absurd (List.max?_eq_none_iff.mp found) some_
  | some most =>
    rw [highest, found]
    exact List.max?_eq_some_iff.mp found

/-- A stuck sensor: every entry the same. -/
def Constant (col : List K) : Prop := ∀ x ∈ col, ∀ y ∈ col, x = y

theorem constant_iff (some_ : col ≠ []) : Constant col ↔ lowest col = highest col := by
  obtain ⟨lowMem, low⟩ := lowest_spec some_
  obtain ⟨highMem, high⟩ := highest_spec some_
  constructor
  · intro same
    exact same _ lowMem _ highMem
  · intro equal x xMem y yMem
    have pinned : ∀ z ∈ col, z = lowest col := fun z member => le_antisymm (equal ▸ high z member) (low z member)
    rw [pinned x xMem, pinned y yMem]

theorem binEdges_length (col : List K) : (binEdges col).length = 11 := by
  unfold binEdges
  split <;> simp

theorem binEdges_shape (col : List K) : (histogram (binEdges col) col).length = (binEdges col).length - 1 :=
  length_histogram _ _

variable [IsStrictOrderedRing K]

theorem binEdges_range (some_ : col ≠ []) :
    ∃ lo hi, binEdges col = linspace lo hi 10 ∧ lo < hi ∧ ∀ x ∈ col, lo ≤ x ∧ x ≤ hi := by
  obtain ⟨-, low⟩ := lowest_spec some_
  obtain ⟨highMem, high⟩ := highest_spec some_
  unfold binEdges
  split
  · rename_i same
    refine ⟨_, _, rfl, by linarith, fun x member => ?_⟩
    have above := low x member
    have below := high x member
    constructor <;> linarith
  · rename_i apart
    exact ⟨_, _, rfl, lt_of_le_of_ne (low _ highMem) apart, fun x member => ⟨low x member, high x member⟩⟩

theorem binEdges_increasing (some_ : col ≠ []) : (binEdges col).Pairwise (· < ·) := by
  obtain ⟨lo, hi, edges, apart, -⟩ := binEdges_range some_
  rw [edges]
  exact linspace_increasing apart (by norm_num)

def rebuilt (col : List K) : List K := rebuild (binEdges col) (histogram (binEdges col) col)

theorem length_rebuilt (some_ : col ≠ []) : (rebuilt col).length = col.length := by
  obtain ⟨lo, hi, edges, apart, within⟩ := binEdges_range some_
  rw [rebuilt, length_rebuild (binEdges_shape col), edges, sum_histogram_linspace apart (by norm_num) within]

theorem mem_rebuilt (some_ : col ≠ []) (varies : ¬Constant col) {x : K} (member : x ∈ rebuilt col) :
    lowest col ≤ x ∧ x ≤ highest col := by
  have apart : lowest col ≠ highest col := fun equal => varies ((constant_iff some_).mpr equal)
  have range := (lowest_spec some_).2 _ (highest_spec some_).1
  obtain ⟨lo, loEdge, hi, hiEdge, above, below⟩ := mem_rebuild (binEdges_increasing some_) member
  have edges : binEdges col = linspace (lowest col) (highest col) 10 := if_neg apart
  rw [edges] at loEdge hiEdge
  have left := (mem_linspace_bounds range (by norm_num) loEdge).1
  have right := (mem_linspace_bounds range (by norm_num) hiEdge).2
  exact ⟨left.trans above.le, below.le.trans right⟩

/-- Unless the column is constant, its rebuilt entries fall into the bins of its own histogram. -/
theorem psi_rebuilt (log : K → K) (varies : ¬Constant col) : computePsi log (rebuilt col) col 10 = 0 := by
  have some_ : col ≠ [] := by
    rintro rfl
    exact varies fun x member => by cases member
  have apart : lowest col ≠ highest col := fun equal => varies ((constant_iff some_).mpr equal)
  have long := length_rebuilt some_
  have someRebuilt : rebuilt col ≠ [] := by
    intro empty
    rw [empty] at long
    exact some_ (List.length_eq_zero_iff.mp long.symm)
  have low : min (lowest (rebuilt col)) (lowest col) = lowest col :=
    min_eq_right (mem_rebuilt some_ varies (lowest_spec someRebuilt).1).1
  have high : max (highest (rebuilt col)) (highest col) = highest col :=
    max_eq_right (mem_rebuilt some_ varies (highest_spec someRebuilt).1).2
  unfold computePsi
  split
  · rfl
  · dsimp only
    rw [low, high]
    split
    · rfl
    · have edges : linspace (lowest col) (highest col) 10 = binEdges col := (if_neg apart).symm
      have counts : histogram (binEdges col) (rebuilt col) = histogram (binEdges col) col :=
        histogram_rebuild (binEdges_increasing some_) (binEdges_shape col)
      rw [edges, counts, psiOf_self]

end

/-! ### A stuck sensor -/

section
variable {K : Type} [Field K] [LinearOrder K] {count : Nat} {x : K}

theorem lowest_replicate (some_ : 0 < count) : lowest (List.replicate count x) = x := by
  have filled : List.replicate count x ≠ [] := by simp; omega
  exact List.eq_of_mem_replicate (lowest_spec filled).1

theorem highest_replicate (some_ : 0 < count) : highest (List.replicate count x) = x := by
  have filled : List.replicate count x ≠ [] := by simp; omega
  exact List.eq_of_mem_replicate (highest_spec filled).1

variable [IsStrictOrderedRing K]

/-- The midpoint of the one filled bin misses a constant column. -/
theorem rebuilt_replicate (some_ : 0 < count) :
    rebuilt (List.replicate count x) = List.replicate count (x + 1 / 20) := by
  have edges : binEdges (List.replicate count x) = linspace (x - 1 / 2) (x + 1 / 2) 10 := by
    rw [binEdges, lowest_replicate some_, highest_replicate some_, if_pos rfl]
    norm_num
  have place : x = x - 1 / 2 + (5 : Nat) * ((x + 1 / 2 - (x - 1 / 2)) / (10 : Nat)) := by
    push_cast
    ring
  have wide : x - 1 / 2 < x + 1 / 2 := by linarith
  have counts := @histogram_linspace_replicate K _ _ _ _ _ 10 wide 5 (by norm_num) count
  rw [← place] at counts
  have middle : (1 / 2 : K) * (x - 1 / 2 + 5 * ((x + 1 / 2 - (x - 1 / 2)) / 10) +
      (x - 1 / 2 + 6 * ((x + 1 / 2 - (x - 1 / 2)) / 10))) = x + 1 / 20 := by
    ring
  rw [rebuilt, edges, counts]
  simp only [linspace, List.range_succ_eq_map, List.range_zero, List.map_cons, List.map_nil, rebuild, midpoints]
  have here : count = 0 ∨ _ := Or.inr middle
  simpa using here

end

theorem one_le_log : 1 ≤ Real.log 10000 := by
  have grows := Real.one_sub_inv_le_log_of_pos (show (0 : ℝ) < 10 by norm_num)
  have power : (10000 : ℝ) = 10 ^ 4 := by norm_num
  rw [power, Real.log_pow]
  push_cast
  linarith

/-- All of the mass moves from the last bin to the first. -/
theorem psi_moved {count : Nat} (some_ : 0 < count) :
    1 ≤ psiOf Real.log (binShares [0, 0, 0, 0, 0, 0, 0, 0, 0, count]) (binShares [count, 0, 0, 0, 0, 0, 0, 0, 0, 0]) := by
  have whole : (count : ℝ) / max (count : ℝ) 1 = 1 := by
    have least : (1 : ℝ) ≤ count := by exact_mod_cast some_
    rw [max_eq_left least, div_self (by linarith)]
  have clipped : max (1 : ℝ) (1 / 10000) = 1 := by norm_num
  have first : binShares [count, 0, 0, 0, 0, 0, 0, 0, 0, 0] =
      (10000 / 10009 : ℝ) :: List.replicate 9 (1 / 10009 : ℝ) := by
    norm_num [binShares, whole, clipped, List.replicate]
  have last : binShares [0, 0, 0, 0, 0, 0, 0, 0, 0, count] =
      List.replicate 9 (1 / 10009 : ℝ) ++ [(10000 / 10009 : ℝ)] := by
    norm_num [binShares, whole, clipped, List.replicate]
  rw [first, last]
  have inverse : Real.log (1 / 10000) = -Real.log 10000 := by rw [one_div, Real.log_inv]
  have large := one_le_log
  norm_num [psiOf, List.replicate]
  linarith

theorem psi_constant {col : List ℝ} (long : 5 ≤ col.length) (same : Constant col) :
    1 ≤ computePsi Real.log (rebuilt col) col 10 := by
  have some_ : col ≠ [] := by
    rintro rfl
    simp at long
  have positive : 0 < col.length := by omega
  have copies : col = List.replicate col.length (lowest col) :=
    List.eq_replicate_iff.mpr ⟨rfl, fun x member => same x member _ (lowest_spec some_).1⟩
  generalize col.length = count at long positive copies
  generalize lowest col = x at copies
  subst copies
  have low : min (x + 1 / 20) x = x := min_eq_right (by linarith)
  have high : max (x + 1 / 20) x = x + 1 / 20 := max_eq_left (by linarith)
  have wide : x < x + 1 / 20 := by linarith
  have current := @histogram_linspace_replicate ℝ _ _ _ _ _ 10 wide 0 (by norm_num) count
  have reference := @histogram_linspace_replicate ℝ _ _ _ _ _ 10 wide 10 (by norm_num) count
  have start : x + ((0 : Nat) : ℝ) * ((x + 1 / 20 - x) / (10 : Nat)) = x := by simp
  have stop : x + ((10 : Nat) : ℝ) * ((x + 1 / 20 - x) / (10 : Nat)) = x + 1 / 20 := by push_cast; ring
  rw [start] at current
  rw [stop] at reference
  rw [rebuilt_replicate positive, computePsi]
  rw [if_neg (by simp; omega), lowest_replicate positive, lowest_replicate positive, highest_replicate positive,
    highest_replicate positive, low, high]
  dsimp only
  rw [if_neg (by norm_num), current, reference]
  exact psi_moved positive

/-! ### The report against the stored reference -/

section
variable {np : Numpy ℝ} {X referenceX : FeatureMatrix ℝ} {threshold : ℝ}

theorem highest_zero {values : List ℝ} (zero : ∀ value ∈ values, value = 0) : values.max?.getD 0 = 0 := by
  cases found : values.max? with
  | none => rfl
  | some most => exact zero most (List.max?_eq_some_iff.mp found).1

theorem le_highest {values : List ℝ} {value : ℝ} (member : value ∈ values) : value ≤ values.max?.getD 0 :=
  (highest_spec (List.ne_nil_of_mem member)).2 value member

theorem mem_perFeaturePsi {value : ℝ} :
    value ∈ (driftReport np referenceX X threshold).perFeaturePsi.values ↔
      ∃ name ∈ featureColumns, featureColumns.idxOf name < referenceX.width ∧ featureColumns.idxOf name < X.width ∧
        value = roundDigits 4 (computePsi np.log (referenceX.column (featureColumns.idxOf name))
          (X.column (featureColumns.idxOf name)) 10) := by
  unfold driftReport
  simp only [Dict.mem_values, Dict.get?_collect, Dict.get?_empty, Option.or_none]
  constructor
  · rintro ⟨name, found⟩
    split at found
    · rename_i listed
      split at found
      · cases found
      · rename_i wide
        rw [not_or, not_le, not_le] at wide
        exact ⟨name, listed, wide.1, wide.2, (Option.some.inj found).symm⟩
    · cases found
  · rintro ⟨name, listed, inReference, inCurrent, rfl⟩
    refine ⟨name, ?_⟩
    rw [if_pos listed, if_neg]
    rw [not_or, not_le, not_le]
    exact ⟨inReference, inCurrent⟩

theorem referenceColumn_stats {col : List ℝ} (some_ : col ≠ []) :
    referenceColumn np (some (featureStats np col)) = rebuilt col := by
  have long := length_rebuilt some_
  have filled : rebuild (binEdges col) (histogram (binEdges col) col) ≠ [] := by
    intro empty
    rw [rebuilt, empty] at long
    exact some_ (List.length_eq_zero_iff.mp long.symm)
  have bins : histogram (binEdges col) col ≠ [] := by
    intro empty
    have shape := binEdges_shape col
    rw [empty, binEdges_length] at shape
    simp at shape
  have shape : (binEdges col).length = (histogram (binEdges col) col).length + 1 := by
    rw [binEdges_shape, binEdges_length]
  exact if_pos ⟨bins, shape, filled⟩

theorem feature_filled (enough : 5 ≤ X.rows.length) (some_ : 0 < X.width) (name : String) : X.feature name ≠ [] := by
  intro empty
  have long := X.length_feature name some_
  rw [empty, List.length_nil] at long
  omega

theorem featureReferenceStats_isSome (enough : 5 ≤ X.rows.length) :
    (featureReferenceStats np X).isSome ↔ 0 < X.width := by
  unfold featureReferenceStats
  constructor
  · intro stored
    by_contra none_
    have flat : X.rows.flatten = [] := by
      rw [List.flatten_eq_nil_iff]
      intro row member
      exact List.length_eq_zero_iff.mp ((X.uniform row member).trans (by omega))
    have empty : (featureColumns.any fun name => (X.feature name).isEmpty) = true := by
      refine List.any_eq_true.mpr ⟨"electricity_power_mw", by decide, ?_⟩
      rw [FeatureMatrix.feature, if_neg (by omega), flat]
      rfl
    rw [if_pos empty] at stored
    cases stored
  · intro some_
    have filled : ¬(featureColumns.any fun name => (X.feature name).isEmpty) = true := by
      rw [List.any_eq_true]
      rintro ⟨name, -, empty⟩
      exact feature_filled enough some_ name (List.isEmpty_iff.mp empty)
    rw [if_neg filled]
    rfl

theorem stored_features {stats : FeatureReference ℝ}
    (stored : featureReferenceStats np X = some stats) (name : String) (listed : name ∈ featureColumns) :
    stats.features.get? name = some (featureStats np (X.feature name)) := by
  unfold featureReferenceStats at stored
  split at stored
  · cases stored
  · cases Option.some.inj stored
    simp [Dict.get?_collect, listed]

/-- The shortest rebuilt column has one entry for each row: the columns of features have, the others have no fewer. -/
theorem rebuilt_shortest (enough : 5 ≤ X.rows.length) (some_ : 0 < X.width) :
    (featureColumns.map fun name => (rebuilt (X.feature name)).length).min? = some X.rows.length := by
  rw [List.min?_eq_some_iff]
  constructor
  · refine List.mem_map.mpr ⟨"electricity_power_mw", by decide, ?_⟩
    have first : featureColumns.idxOf "electricity_power_mw" = 0 := rfl
    rw [length_rebuilt (feature_filled enough some_ _), FeatureMatrix.feature, first, if_pos some_,
      FeatureMatrix.length_column]
  · intro long listed
    obtain ⟨name, -, rfl⟩ := List.mem_map.mp listed
    rw [length_rebuilt (feature_filled enough some_ _)]
    exact X.length_feature name some_

/-- The rebuilt matrix has the features of the matrix, each rebuilt from its own histogram. -/
theorem rebuilt_column (enough : 5 ≤ X.rows.length) {stats : FeatureReference ℝ}
    (stored : featureReferenceStats np X = some stats) {name : String} (listed : name ∈ featureColumns)
    (wide : featureColumns.idxOf name < X.width) :
    (referenceMatrixFromStats np stats).column (featureColumns.idxOf name) =
      rebuilt (X.column (featureColumns.idxOf name)) := by
  have some_ : 0 < X.width := by omega
  have columns : (featureColumns.map fun name => referenceColumn np (stats.features.get? name)) =
      featureColumns.map fun name => rebuilt (X.feature name) := by
    apply List.map_congr_left
    intro other member
    rw [stored_features stored other member, referenceColumn_stats (feature_filled enough some_ other)]
  have same : X.feature name = X.column (featureColumns.idxOf name) := if_pos wide
  have long : (rebuilt (X.feature name)).length = X.rows.length := by
    rw [length_rebuilt (feature_filled enough some_ name), same, FeatureMatrix.length_column]
  have place : (featureColumns.map fun name => rebuilt (X.feature name))[featureColumns.idxOf name]? =
      some (rebuilt (X.feature name)) := by
    rw [List.getElem?_map, List.getElem?_idxOf listed]
    rfl
  unfold referenceMatrixFromStats
  dsimp only
  rw [columns, List.map_map]
  have shortest := rebuilt_shortest enough some_
  simp only [Function.comp_def, shortest, Option.getD_some]
  rw [FeatureMatrix.column_columnStack place long.ge, ← long, List.take_length, same]

theorem maxPsi_eq : (driftReport np referenceX X threshold).maxPsi =
    roundDigits 4 ((driftReport np referenceX X threshold).perFeaturePsi.values.max?.getD 0) := rfl

theorem stuck_drifts (natural : np.log = Real.log) (enough : 5 ≤ X.rows.length) {stats : FeatureReference ℝ}
    (stored : featureReferenceStats np X = some stats) {name : String} (listed : name ∈ featureColumns)
    (wide : featureColumns.idxOf name < X.width) (stuck : Constant (X.column (featureColumns.idxOf name))) :
    1 ≤ (driftReport np (referenceMatrixFromStats np stats) X threshold).maxPsi := by
  have moved := psi_constant (by simpa using enough) stuck
  have inReference : featureColumns.idxOf name < (referenceMatrixFromStats np stats).width := by
    simpa [referenceMatrixFromStats, FeatureMatrix.columnStack] using List.idxOf_lt_length_iff.mpr listed
  have reported := (@mem_perFeaturePsi np X _ threshold _).mpr ⟨name, listed, inReference, wide, rfl⟩
  rw [rebuilt_column enough stored listed wide, natural] at reported
  rw [maxPsi_eq]
  exact one_le_roundDigits ((one_le_roundDigits moved).trans (le_highest reported))

theorem varied_agrees (enough : 5 ≤ X.rows.length) {stats : FeatureReference ℝ}
    (stored : featureReferenceStats np X = some stats)
    (varies : ∀ i < featureColumns.length, i < X.width → ¬Constant (X.column i)) :
    (driftReport np (referenceMatrixFromStats np stats) X threshold).maxPsi = 0 := by
  rw [maxPsi_eq, highest_zero, roundDigits_zero]
  intro value member
  obtain ⟨name, listed, -, wide, rfl⟩ := mem_perFeaturePsi.mp member
  have moves := varies _ (List.idxOf_lt_length_iff.mpr listed) wide
  rw [rebuilt_column enough stored listed wide, psi_rebuilt np.log moves, roundDigits_zero]

/-- The stored reference is faithful exactly for the matrices that have a feature and none that is stuck. -/
theorem stored_reference_iff (normal : ℝ → ℝ → Nat → List ℝ) (threshold : ℝ) (X : FeatureMatrix ℝ)
    (enough : 5 ≤ X.rows.length) :
    selfDrift ⟨Real.log, Real.sqrt, normal⟩ X threshold = some 0 ↔
      0 < X.width ∧ ∀ i < featureColumns.length, i < X.width → ¬Constant (X.column i) := by
  have stats := @featureReferenceStats_isSome ⟨Real.log, Real.sqrt, normal⟩ X enough
  unfold selfDrift
  cases stored : featureReferenceStats ⟨Real.log, Real.sqrt, normal⟩ X with
  | none =>
    rw [stored] at stats
    have empty : ¬0 < X.width := fun wide => absurd (stats.mpr wide) (by simp)
    simp [empty]
  | some reference =>
    rw [stored] at stats
    simp only [Option.map_some, Option.some.injEq]
    constructor
    · intro still
      refine ⟨stats.mp rfl, fun i place wide stuck => ?_⟩
      have index : featureColumns.idxOf featureColumns[i] = i := List.Nodup.idxOf_getElem (by decide) i place
      have drifts := @stuck_drifts _ X threshold rfl enough reference stored _ (List.getElem_mem place)
        (by rwa [index]) (by rwa [index])
      rw [still] at drifts
      linarith
    · rintro ⟨-, varies⟩
      exact varied_agrees enough stored varies

end

/-- Five readings of a plant whose feed sensor stands still. -/
def stuckFeed : FeatureMatrix ℝ where
  width := 5
  rows := (List.range 5).map fun i : Nat => [15 + i, 100 + i, 30 + i, 120, 400 + i]
  uniform := by simp

theorem stored_reference_iff_stuck_feed :
    selfDrift ⟨Real.log, Real.sqrt, fun _ _ _ => []⟩ stuckFeed (1 / 5) = some 0 ↔
      0 < stuckFeed.width ∧
        ∀ i < featureColumns.length, i < stuckFeed.width → ¬Constant (stuckFeed.column i) :=
  stored_reference_iff _ (1 / 5) stuckFeed (by simp [stuckFeed])

theorem stuck_feed_drifts :
    ¬selfDrift ⟨Real.log, Real.sqrt, fun _ _ _ => []⟩ stuckFeed (1 / 5) = some 0 := by
  have stuck : Constant (stuckFeed.column 3) := by
    intro x xMem y yMem
    have pinned : ∀ z ∈ stuckFeed.column 3, z = 120 := by
      intro z member
      obtain ⟨row, listed, rfl⟩ := List.mem_map.mp member
      obtain ⟨i, -, rfl⟩ := List.mem_map.mp listed
      rfl
    rw [pinned x xMem, pinned y yMem]
  intro still
  obtain ⟨stats, stored, zero⟩ := Option.map_eq_some_iff.mp still
  have drifts := @stuck_drifts _ stuckFeed (1 / 5) rfl (by simp [stuckFeed]) stats stored "feed_flow_tonh"
    (by decide) (by decide) stuck
  rw [zero] at drifts
  linarith

end Iems.Ml
