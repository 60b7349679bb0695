import Mathlib.Algebra.Order.Floor.Semifield
import Mathlib.Algebra.Order.Field.Rat
import Mathlib.Data.Finset.Prod
import Mathlib.Data.Rat.Floor
import Mathlib.Tactic.Linarith

/-! Points that keep a distance, counted in a short stretch. -/
namespace Iems.Lib

variable {ι γ : Type} {time : ι → ℚ} {d lo : ℚ} {k : ℕ}

/-- Points less than the distance apart lie in different steps of it. -/
theorem eq_of_same_step (positive : 0 < d) {x y : ι} (first : lo ≤ time x) (second : lo ≤ time y)
    (apart : x ≠ y → d ≤ |time x - time y|) (same : ⌊(time x - lo) / d⌋₊ = ⌊(time y - lo) / d⌋₊) : x = y := by
  by_contra distinct
  have far := apart distinct
  have lowX := Nat.floor_le (div_nonneg (sub_nonneg.mpr first) positive.le)
  have lowY := Nat.floor_le (div_nonneg (sub_nonneg.mpr second) positive.le)
  have highX := Nat.lt_floor_add_one ((time x - lo) / d)
  have highY := Nat.lt_floor_add_one ((time y - lo) / d)
  rw [same] at lowX highX
  rw [le_div_iff₀ positive] at lowX lowY
  rw [div_lt_iff₀ positive] at highX highY
  have near : |time x - time y| < d := by
    rw [abs_lt]
    constructor <;> linarith
  exact absurd far (not_le.mpr near)

/-- Where the points of a class keep a distance, `k` distances hold at most `k` of them. -/
theorem length_le_of_spaced {l : List ι} {classes : List γ} {kind : ι → γ} (positive : 0 < d) (nodup : l.Nodup)
    (covers : ∀ x ∈ l, kind x ∈ classes)
    (apart : ∀ x ∈ l, ∀ y ∈ l, x ≠ y → kind x = kind y → d ≤ |time x - time y|)
    (within : ∀ x ∈ l, lo ≤ time x ∧ time x - lo < k * d) : l.length ≤ classes.length * k := by
  classical
  have step : ∀ x ∈ l.toFinset, (kind x, ⌊(time x - lo) / d⌋₊) ∈ classes.toFinset ×ˢ Finset.range k := by
    intro x listed
    have member := List.mem_toFinset.mp listed
    obtain ⟨above, below⟩ := within x member
    refine Finset.mem_product.mpr ⟨List.mem_toFinset.mpr (covers x member), Finset.mem_range.mpr ?_⟩
    rw [Nat.floor_lt (div_nonneg (sub_nonneg.mpr above) positive.le), div_lt_iff₀ positive]
    exact below
  have injective : Set.InjOn (fun x => (kind x, ⌊(time x - lo) / d⌋₊)) (l.toFinset : Set ι) := by
    intro x listedX y listedY same
    have memberX := List.mem_toFinset.mp listedX
    have memberY := List.mem_toFinset.mp listedY
    obtain ⟨sameKind, sameStep⟩ := Prod.mk.inj same
    exact eq_of_same_step positive (within x memberX).1 (within y memberY).1
      (fun distinct => apart x memberX y memberY distinct sameKind) sameStep
  calc l.length = l.toFinset.card := (List.toFinset_card_of_nodup nodup).symm
    _ ≤ (classes.toFinset ×ˢ Finset.range k).card := Finset.card_le_card_of_injOn _ step injective
    _ = classes.toFinset.card * k := by rw [Finset.card_product, Finset.card_range]
    _ ≤ classes.length * k := Nat.mul_le_mul_right k (List.toFinset_card_le classes)

end Iems.Lib
