import Iems.Ml.Drift

/-! The laws of the stability index: its sign, its symmetry and when it is zero. -/
namespace Iems.Ml
open Lib

/-! ### The sum over the bins -/

theorem divergence_nonneg {c r : ℝ} (current : 0 < c) (reference : 0 < r) : 0 ≤ (c - r) * Real.log (c / r) := by
  rcases le_total r c with more | less
  · have ratio : 1 ≤ c / r := (one_le_div reference).mpr more
    exact mul_nonneg (sub_nonneg.mpr more) (Real.log_nonneg ratio)
  · have ratio : c / r ≤ 1 := (div_le_one reference).mpr less
    have shrinks := Real.log_nonpos (div_pos current reference).le ratio
    exact mul_nonneg_of_nonpos_of_nonpos (sub_nonpos.mpr less) shrinks

theorem psiOf_nonneg {refP curP : List ℝ} (reference : ∀ r ∈ refP, 0 < r) (current : ∀ c ∈ curP, 0 < c) :
    0 ≤ psiOf Real.log refP curP := by
  unfold psiOf
  rw [← List.map_uncurry_zip_eq_zipWith]
  apply List.sum_nonneg
  intro term member
  obtain ⟨⟨c, r⟩, paired, rfl⟩ := List.mem_map.mp member
  have sides := List.of_mem_zip paired
  exact divergence_nonneg (current c sides.1) (reference r sides.2)

/-- Both factors of a term change their sign. -/
theorem psiOf_symm (refP curP : List ℝ) : psiOf Real.log refP curP = psiOf Real.log curP refP := by
  unfold psiOf
  rw [List.zipWith_comm]
  congr 2
  funext r c
  have inverse : Real.log (c / r) = -Real.log (r / c) := by rw [← Real.log_inv, inv_div]
  rw [inverse]
  ring

/-- The shares before they are made to sum to one. -/
noncomputable def clippedShares (p : List ℝ) : List ℝ := p.map fun share => max share ((1 / 10 ^ 4 : ℚ) : ℝ)

theorem binShares_eq (hist : List Nat) :
    binShares (K := ℝ) hist =
      let clipped := clippedShares (hist.map fun count : Nat => (count : ℝ) / max hist.sum 1)
      clipped.map fun share => share / clipped.sum := by
  simp [binShares, clippedShares, Function.comp_def, ← List.map_eq_flatMap]

theorem binShares_pos {hist : List Nat} {share : ℝ} (member : share ∈ binShares (K := ℝ) hist) : 0 < share := by
  rw [binShares_eq] at member
  obtain ⟨clipped, listed, rfl⟩ := List.mem_map.mp member
  have positive : ∀ p : List ℝ, ∀ x ∈ clippedShares p, 0 < x := by
    intro p x held
    obtain ⟨share, _, rfl⟩ := List.mem_map.mp held
    exact lt_max_of_lt_right (by norm_num)
  have total := List.sum_pos _ (positive _) (List.ne_nil_of_mem listed)
  exact div_pos (positive _ _ listed) total

/-- The shares of a filled histogram depend on its proportions only. -/
theorem binShares_proportions {hist other : List Nat} (filled : 1 ≤ hist.sum) (filled' : 1 ≤ other.sum)
    (equal : hist.map (fun count : Nat => (count : ℝ) / hist.sum) = other.map fun count : Nat => (count : ℝ) / other.sum) :
    binShares (K := ℝ) hist = binShares other := by
  rw [binShares_eq, binShares_eq, max_eq_left filled, max_eq_left filled', equal]

/-! ### The index of two samples -/

section
variable {a b : List ℝ} {nBins : Nat}

theorem lowest_perm (same : a.Perm b) : lowest a = lowest b := by
  by_cases empty : a = []
  · subst empty
    rw [same.symm.eq_nil]
  · obtain ⟨aMem, aLow⟩ := lowest_spec empty
    obtain ⟨bMem, bLow⟩ := lowest_spec fun none_ : b = [] => empty (none_ ▸ same).eq_nil
    exact le_antisymm (aLow _ (same.mem_iff.mpr bMem)) (bLow _ (same.mem_iff.mp aMem))

theorem highest_perm (same : a.Perm b) : highest a = highest b := by
  by_cases empty : a = []
  · subst empty
    rw [same.symm.eq_nil]
  · obtain ⟨aMem, aHigh⟩ := highest_spec empty
    obtain ⟨bMem, bHigh⟩ := highest_spec fun none_ : b = [] => empty (none_ ▸ same).eq_nil
    exact le_antisymm (bHigh _ (same.mem_iff.mp aMem)) (aHigh _ (same.mem_iff.mpr bMem))

/-- The bins that both samples are counted in. -/
noncomputable def sharedBins (a b : List ℝ) (nBins : Nat) : List ℝ :=
  linspace (min (lowest a) (lowest b)) (max (highest a) (highest b)) nBins

/-- The share of the sample in each bin. -/
noncomputable def proportions (bins sample : List ℝ) : List ℝ :=
  (histogram bins sample).map fun count : Nat => (count : ℝ) / sample.length

theorem computePsi_cases (a b : List ℝ) (nBins : Nat) :
    computePsi Real.log a b nBins = 0 ∨
      5 ≤ a.length ∧ 5 ≤ b.length ∧ min (lowest a) (lowest b) < max (highest a) (highest b) ∧
        computePsi Real.log a b nBins = psiOf Real.log (binShares (histogram (sharedBins a b nBins) a))
          (binShares (histogram (sharedBins a b nBins) b)) := by
  unfold computePsi sharedBins
  split
  · exact Or.inl rfl
  · rename_i long
    dsimp only
    split
    · exact Or.inl rfl
    · rename_i wide
      refine Or.inr ⟨by omega, by omega, ?_, rfl⟩
      have gap : (0 : ℝ) < ((1 / 10 ^ 12 : ℚ) : ℝ) := by norm_num
      linarith [not_lt.mp wide]

theorem computePsi_nonneg (a b : List ℝ) (nBins : Nat) : 0 ≤ computePsi Real.log a b nBins := by
  rcases computePsi_cases a b nBins with zero | ⟨_, _, _, index⟩
  · rw [zero]
  · rw [index]
    exact psiOf_nonneg (fun _ => binShares_pos) fun _ => binShares_pos

theorem computePsi_symm (a b : List ℝ) (nBins : Nat) :
    computePsi Real.log a b nBins = computePsi Real.log b a nBins := by
  unfold computePsi
  rw [min_comm (lowest b), max_comm (highest b)]
  simp only [or_comm (a := b.length < 5), psiOf_symm (binShares (histogram _ b))]

theorem computePsi_perm {a' b' : List ℝ} (first : a'.Perm a) (second : b'.Perm b) :
    computePsi Real.log a' b' nBins = computePsi Real.log a b nBins := by
  unfold computePsi
  simp only [first.length_eq, second.length_eq, lowest_perm first, lowest_perm second, highest_perm first,
    highest_perm second, histogram_perm first, histogram_perm second]

theorem sum_histogram_shared (apart : min (lowest a) (lowest b) < max (highest a) (highest b)) (some_ : 1 ≤ nBins)
    {sample : List ℝ} (one : sample = a ∨ sample = b) :
    (histogram (sharedBins a b nBins) sample).sum = sample.length := by
  apply sum_histogram_linspace apart some_
  intro x member
  have filled := List.ne_nil_of_mem member
  have low := (lowest_spec filled).2 x member
  have high := (highest_spec filled).2 x member
  rcases one with rfl | rfl
  · exact ⟨(min_le_left _ _).trans low, high.trans (le_max_left _ _)⟩
  · exact ⟨(min_le_right _ _).trans low, high.trans (le_max_right _ _)⟩

theorem computePsi_proportions (some_ : 1 ≤ nBins)
    (equal : proportions (sharedBins a b nBins) a = proportions (sharedBins a b nBins) b) :
    computePsi Real.log a b nBins = 0 := by
  rcases computePsi_cases a b nBins with zero | ⟨longA, longB, apart, index⟩
  · exact zero
  · have countA := sum_histogram_shared apart some_ (Or.inl rfl)
    have countB := sum_histogram_shared apart some_ (Or.inr rfl)
    have filledA : 1 ≤ (histogram (sharedBins a b nBins) a).sum := by omega
    have filledB : 1 ≤ (histogram (sharedBins a b nBins) b).sum := by omega
    unfold proportions at equal
    rw [← countA, ← countB] at equal
    rw [index, binShares_proportions filledA filledB equal, psiOf_self]

end

/-- The index is never negative, symmetric, blind to the order of the samples, and zero for samples that fall into
the shared bins in equal proportions. -/
theorem computePsi_laws (a b : List ℝ) (nBins : Nat) (some_ : 1 ≤ nBins) :
    0 ≤ computePsi Real.log a b nBins ∧
      computePsi Real.log a b nBins = computePsi Real.log b a nBins ∧
      (∀ a' b', a'.Perm a → b'.Perm b → computePsi Real.log a' b' nBins = computePsi Real.log a b nBins) ∧
      (proportions (sharedBins a b nBins) a = proportions (sharedBins a b nBins) b →
        computePsi Real.log a b nBins = 0) ∧
      (a.Perm b → computePsi Real.log a b nBins = 0) := by
  refine ⟨computePsi_nonneg a b nBins, computePsi_symm a b nBins, ?_, computePsi_proportions some_, ?_⟩
  · intro a' b' first second
    exact computePsi_perm first second
  · intro same
    apply computePsi_proportions some_
    unfold proportions
    rw [histogram_perm same, same.length_eq]

theorem computePsi_laws_two :
    0 ≤ computePsi Real.log [0, 0, 1, 1, 2] [0, 1, 1, 2, 2] 2 ∧
      computePsi Real.log [0, 0, 1, 1, 2] [0, 1, 1, 2, 2] 2 = computePsi Real.log [0, 1, 1, 2, 2] [0, 0, 1, 1, 2] 2 ∧
      (∀ a' b' : List ℝ, a'.Perm [0, 0, 1, 1, 2] → b'.Perm [0, 1, 1, 2, 2] →
        computePsi Real.log a' b' 2 = computePsi Real.log [0, 0, 1, 1, 2] [0, 1, 1, 2, 2] 2) ∧
      (proportions (sharedBins [0, 0, 1, 1, 2] [0, 1, 1, 2, 2] 2) [0, 0, 1, 1, 2] =
          proportions (sharedBins [0, 0, 1, 1, 2] [0, 1, 1, 2, 2] 2) [0, 1, 1, 2, 2] →
        computePsi Real.log [0, 0, 1, 1, 2] [0, 1, 1, 2, 2] 2 = 0) ∧
      (([0, 0, 1, 1, 2] : List ℝ).Perm [0, 1, 1, 2, 2] →
        computePsi Real.log [0, 0, 1, 1, 2] [0, 1, 1, 2, 2] 2 = 0) :=
  computePsi_laws _ _ 2 (by decide)

end Iems.Ml
