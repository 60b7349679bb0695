import Iems.Lib.Decimal
import Mathlib.Algebra.Order.Floor.Ring
import Mathlib.Tactic.Linarith

/-! Decimal rounding over any ordered field with floors. -/
namespace Iems.Lib

variable {K : Type} [Field K] [LinearOrder K] [FloorRing K]

/-- Nearest integer, ties to the even one. -/
def nearestEven (x : K) : ℤ :=
  let below := ⌊x⌋
  let rest := x - below
  if rest + rest < 1 then below
  else if 1 < rest + rest then below + 1
  else if below % 2 = 0 then below
  else below + 1

def roundDigits (digits : Nat) (x : K) : K := (nearestEven (x * 10 ^ digits) : K) / 10 ^ digits

/-- On the rationals it is the rounding of the other figures. -/
theorem roundDigits_rat (digits : Nat) (x : ℚ) : roundDigits digits x = roundTo digits x := by
  have under (rest : ℚ) : rest + rest < 1 ↔ rest < 1 / 2 := by constructor <;> intro <;> linarith
  have above (rest : ℚ) : 1 < rest + rest ↔ 1 / 2 < rest := by constructor <;> intro <;> linarith
  unfold roundDigits nearestEven
  simp only [under, above]
  rfl

theorem le_nearestEven {n : ℤ} {x : K} (reached : (n : K) ≤ x) : n ≤ nearestEven x := by
  have floor : n ≤ ⌊x⌋ := Int.le_floor.mpr reached
  unfold nearestEven
  dsimp only
  split_ifs <;> omega

variable [IsStrictOrderedRing K]

theorem nearestEven_le {n : ℤ} {x : K} (bounded : x ≤ n) : nearestEven x ≤ n := by
  have floor : ⌊x⌋ ≤ n := Int.floor_le_iff.mpr (by linarith)
  rcases floor.lt_or_eq with below | equal
  · unfold nearestEven
    dsimp only
    split_ifs <;> omega
  · have exactly : x = ⌊x⌋ := le_antisymm (by rwa [equal]) (Int.floor_le x)
    have rest : x - ⌊x⌋ = 0 := by linarith
    simp [nearestEven, rest, floor]

theorem nearestEven_mono {x y : K} (order : x ≤ y) : nearestEven x ≤ nearestEven y := by
  have floors : ⌊x⌋ ≤ ⌊y⌋ := Int.floor_mono order
  rcases floors.lt_or_eq with below | equal
  · have under : x ≤ (⌊y⌋ : K) := by
      have next := Int.lt_floor_add_one x
      have step : ((⌊x⌋ + 1 : ℤ) : K) ≤ ⌊y⌋ := Int.cast_le.mpr below
      push_cast at step
      linarith
    exact (nearestEven_le under).trans (le_nearestEven (Int.floor_le y))
  · -- Within one integer the rest decides, and it is the larger one of the two.
    unfold nearestEven
    dsimp only
    rw [equal]
    split_ifs <;> first | omega | (exfalso; linarith)

theorem nearestEven_near (x : K) :
    x + x - 1 ≤ nearestEven x + nearestEven x ∧ (nearestEven x : K) + nearestEven x ≤ x + x + 1 := by
  have floor := Int.floor_le x
  have ceiling := Int.lt_floor_add_one x
  unfold nearestEven
  dsimp only
  split_ifs <;> push_cast <;> constructor <;> linarith

/-- A move by an even integer keeps the ties where they were. -/
theorem nearestEven_add_even (x : K) (k : ℤ) : nearestEven (x + (k + k : ℤ)) = nearestEven x + (k + k) := by
  have floor : ⌊x + (k + k : ℤ)⌋ = ⌊x⌋ + (k + k) := Int.floor_add_intCast x _
  have rest : x + (k + k : ℤ) - ((⌊x⌋ + (k + k) : ℤ) : K) = x - ⌊x⌋ := by push_cast; ring
  have parity : (⌊x⌋ + (k + k)) % 2 = ⌊x⌋ % 2 := by omega
  unfold nearestEven
  dsimp only
  rw [floor, rest, parity]
  split_ifs <;> ring

theorem le_roundDigits {digits : Nat} {n : ℤ} {x : K} (reached : (n : K) ≤ x) : (n : K) ≤ roundDigits digits x := by
  have positive : (0 : K) < 10 ^ digits := pow_pos (by norm_num) _
  have scaled : ((n * 10 ^ digits : ℤ) : K) ≤ x * 10 ^ digits := by
    push_cast
    exact mul_le_mul_of_nonneg_right reached positive.le
  rw [roundDigits, le_div_iff₀ positive]
  exact_mod_cast (Int.cast_le (R := K)).mpr (le_nearestEven scaled)

theorem roundDigits_le {digits : Nat} {n : ℤ} {x : K} (bounded : x ≤ n) : roundDigits digits x ≤ n := by
  have positive : (0 : K) < 10 ^ digits := pow_pos (by norm_num) _
  have scaled : x * 10 ^ digits ≤ ((n * 10 ^ digits : ℤ) : K) := by
    push_cast
    exact mul_le_mul_of_nonneg_right bounded positive.le
  rw [roundDigits, div_le_iff₀ positive]
  exact_mod_cast (Int.cast_le (R := K)).mpr (nearestEven_le scaled)

@[simp] theorem roundDigits_zero (digits : Nat) : roundDigits digits (0 : K) = 0 := by
  simp [roundDigits, nearestEven]

theorem one_le_roundDigits {digits : Nat} {x : K} (large : 1 ≤ x) : 1 ≤ roundDigits digits x := by
  have positive : (0 : K) < 10 ^ digits := pow_pos (by norm_num) _
  have scaled : ((10 ^ digits : ℤ) : K) ≤ x * 10 ^ digits := by
    push_cast
    exact le_mul_of_one_le_left positive.le large
  have reached := le_nearestEven scaled
  rw [roundDigits, one_le_div positive]
  exact_mod_cast (Int.cast_le (R := K)).mpr reached

/-- With at least one decimal, an integer moves through the rounding. -/
theorem roundDigits_add_int (digits : Nat) (x : K) (n : ℤ) :
    roundDigits (digits + 1) (x + n) = roundDigits (digits + 1) x + n := by
  have positive : (0 : K) < 10 ^ (digits + 1) := pow_pos (by norm_num) _
  have scaled : (x + n) * 10 ^ (digits + 1) =
      x * 10 ^ (digits + 1) + ((5 * 10 ^ digits * n + 5 * 10 ^ digits * n : ℤ) : K) := by
    push_cast
    ring
  rw [roundDigits, scaled, nearestEven_add_even, roundDigits, eq_comm, eq_div_iff positive.ne', add_mul,
    div_mul_cancel₀ _ positive.ne']
  push_cast
  ring

/-- A fraction with that many decimals is already rounded. -/
theorem roundDigits_fraction (digits : Nat) (n : ℤ) : roundDigits digits ((n : K) / 10 ^ digits) = n / 10 ^ digits := by
  have positive : (0 : K) < 10 ^ digits := pow_pos (by norm_num) _
  have whole : nearestEven (n : K) = n := le_antisymm (nearestEven_le le_rfl) (le_nearestEven le_rfl)
  rw [roundDigits, div_mul_cancel₀ _ positive.ne', whole]

theorem roundDigits_roundDigits (digits : Nat) (x : K) :
    roundDigits digits (roundDigits digits x) = roundDigits digits x :=
  roundDigits_fraction digits (nearestEven (x * 10 ^ digits))

theorem roundTo_roundTo (digits : Nat) (x : ℚ) : roundTo digits (roundTo digits x) = roundTo digits x := by
  simp only [← roundDigits_rat, roundDigits_roundDigits]

/-- The sum of two rounded numbers needs no rounding. -/
theorem roundTo_add (digits : Nat) (x y : ℚ) :
    roundTo digits (roundTo digits x + roundTo digits y) = roundTo digits x + roundTo digits y := by
  have sum := roundDigits_fraction (K := ℚ) digits (nearestEven (x * 10 ^ digits) + nearestEven (y * 10 ^ digits))
  simp only [← roundDigits_rat]
  push_cast [add_div] at sum
  exact sum

theorem le_roundTo {digits : Nat} {n : ℤ} {x : ℚ} (reached : (n : ℚ) ≤ x) : (n : ℚ) ≤ roundTo digits x := by
  rw [← roundDigits_rat]
  exact le_roundDigits reached

theorem roundTo_le {digits : Nat} {n : ℤ} {x : ℚ} (bounded : x ≤ n) : roundTo digits x ≤ n := by
  rw [← roundDigits_rat]
  exact roundDigits_le bounded

theorem roundTo_mono {digits : Nat} {x y : ℚ} (order : x ≤ y) : roundTo digits x ≤ roundTo digits y := by
  have positive : (0 : ℚ) < 10 ^ digits := pow_pos (by norm_num) _
  rw [← roundDigits_rat, ← roundDigits_rat]
  unfold roundDigits
  refine div_le_div_of_nonneg_right (Int.cast_le.mpr (nearestEven_mono ?_)) positive.le
  exact mul_le_mul_of_nonneg_right order positive.le

theorem roundTo_nonneg {digits : Nat} {x : ℚ} (nonneg : 0 ≤ x) : 0 ≤ roundTo digits x := by
  have reached : ((0 : ℤ) : ℚ) ≤ x := by simpa using nonneg
  simpa using @le_roundTo digits 0 x reached

/-- A clip carries a bound on the difference through. -/
theorem clip_le_add {x y d : ℚ} (lo hi : ℚ) (near : x ≤ y + d) (nonneg : 0 ≤ d) : clip x lo hi ≤ clip y lo hi + d := by
  have above : max x lo ≤ max y lo + d :=
    max_le (near.trans (add_le_add_left (le_max_left y lo) d)) ((le_max_right y lo).trans (le_add_of_nonneg_right nonneg))
  unfold clip
  rw [← min_add_add_right]
  exact le_min ((min_le_left _ _).trans above) ((min_le_right _ _).trans (le_add_of_nonneg_right nonneg))

theorem roundTo_near (x : ℚ) : x - 1 / 200 ≤ roundTo 2 x ∧ roundTo 2 x ≤ x + 1 / 200 := by
  have hundred : (10 : ℚ) ^ 2 = 100 := by norm_num
  obtain ⟨under, above⟩ := nearestEven_near (x * 100)
  rw [← roundDigits_rat, roundDigits, hundred]
  constructor
  · rw [le_div_iff₀ (by norm_num)]
    linarith
  · rw [div_le_iff₀ (by norm_num)]
    linarith

theorem roundTo_error (x : ℚ) : |roundTo 2 x - x| ≤ 1 / 200 := by
  obtain ⟨under, above⟩ := roundTo_near x
  rw [abs_le]
  constructor <;> linarith

/-- A rounded sum is off the sum of the rounded parts by half a hundredth for each rounding. -/
theorem roundTo_sum_error (parts : List ℚ) :
    |roundTo 2 parts.sum - (parts.map (roundTo 2)).sum| ≤ (parts.length + 1) / 200 := by
  have each : |parts.sum - (parts.map (roundTo 2)).sum| ≤ (parts.length : ℚ) / 200 := by
    induction parts with
    | nil => simp
    | cons x rest ih =>
      have own := roundTo_error x
      rw [abs_le] at own ih ⊢
      simp only [List.sum_cons, List.map_cons, List.length_cons]
      push_cast
      constructor <;> linarith [own.1, own.2, ih.1, ih.2]
  have whole := roundTo_error parts.sum
  rw [abs_le] at each whole ⊢
  constructor <;> linarith [each.1, each.2, whole.1, whole.2]

end Iems.Lib
