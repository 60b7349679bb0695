import Iems.Lib.Rounding
import Mathlib.Data.Int.Log
import Mathlib.Tactic.FieldSimp
import Mathlib.Tactic.NormNum

/-! Binary floating point numbers of a precision, with exponents of any size. -/
namespace Iems.Lib

variable {K : Type} [Field K] [LinearOrder K] [FloorRing K]

/-- The last place of the significand of a number. -/
def lastPlace (precision : Nat) (x : K) : K := (2 : ℕ) ^ (Int.log 2 |x| + 1 - precision)

/-- The nearest number with that many binary digits, ties to the even one. -/
def roundBinary (precision : Nat) (x : K) : K := nearestEven (x / lastPlace precision x) * lastPlace precision x

theorem lastPlace_eq (precision : Nat) (x : K) : lastPlace precision x = 2 ^ (Int.log 2 |x| + 1 - precision) := by
  rw [lastPlace, Nat.cast_ofNat]

variable [IsStrictOrderedRing K] {x y : K}

theorem lastPlace_pos (precision : Nat) (x : K) : 0 < lastPlace precision x := zpow_pos (by norm_num) _

/-! ### Within a power of two -/

theorem pow_log_le (positive : 0 < x) : (2 : K) ^ Int.log 2 |x| ≤ x := by
  have least := Int.zpow_log_le_self (b := 2) (by norm_num) (abs_pos.mpr positive.ne')
  rw [Nat.cast_ofNat] at least
  exact least.trans_eq (abs_of_pos positive)

theorem lt_pow_log (positive : 0 < x) : x < (2 : K) ^ (Int.log 2 |x| + 1) := by
  have above := Int.lt_zpow_succ_log_self (b := 2) (by norm_num) |x|
  rw [Nat.cast_ofNat] at above
  exact (abs_of_pos positive).symm.trans_lt above

theorem log_abs_mono (positive : 0 < x) (order : x ≤ y) : Int.log 2 |x| ≤ Int.log 2 |y| :=
  Int.log_mono_right (abs_pos.mpr positive.ne') (abs_le_abs_of_nonneg positive.le order)

theorem log_of_bounds {k : ℤ} (low : (2 : K) ^ k ≤ x) (high : x < 2 ^ (k + 1)) : Int.log 2 |x| = k := by
  have positive : 0 < x := (zpow_pos (by norm_num) k).trans_le low
  rw [abs_of_pos positive]
  have below := (Int.zpow_le_iff_le_log (b := 2) (by norm_num) positive).mp low
  have above := (Int.lt_zpow_iff_log_lt (b := 2) (by norm_num) positive).mp high
  omega

theorem pow_mul_lastPlace (precision : Nat) (x : K) : 2 ^ precision * lastPlace precision x = 2 ^ (Int.log 2 |x| + 1) := by
  rw [lastPlace_eq, ← zpow_natCast, ← zpow_add₀ two_pos.ne']
  congr 1
  omega

theorem half_mul_lastPlace (digits : Nat) (x : K) : 2 ^ digits * lastPlace (digits + 1) x = 2 ^ Int.log 2 |x| := by
  have whole := pow_mul_lastPlace (digits + 1) x
  rw [pow_succ, zpow_add_one₀ two_ne_zero] at whole
  linarith

theorem roundBinary_le_pow (precision : Nat) (positive : 0 < x) : roundBinary precision x ≤ 2 ^ (Int.log 2 |x| + 1) := by
  have place := lastPlace_pos precision x
  have scaled : x / lastPlace precision x ≤ ((2 ^ precision : ℤ) : K) := by
    push_cast
    rw [div_le_iff₀ place, pow_mul_lastPlace]
    exact (lt_pow_log positive).le
  have bounded : (nearestEven (x / lastPlace precision x) : K) ≤ 2 ^ precision := by exact_mod_cast nearestEven_le scaled
  rw [← pow_mul_lastPlace precision x]
  exact mul_le_mul_of_nonneg_right bounded place.le

theorem pow_le_roundBinary (digits : Nat) (positive : 0 < x) : 2 ^ Int.log 2 |x| ≤ roundBinary (digits + 1) x := by
  have place := lastPlace_pos (digits + 1) x
  have scaled : ((2 ^ digits : ℤ) : K) ≤ x / lastPlace (digits + 1) x := by
    push_cast
    rw [le_div_iff₀ place, half_mul_lastPlace]
    exact pow_log_le positive
  have bounded : (2 : K) ^ digits ≤ nearestEven (x / lastPlace (digits + 1) x) := by exact_mod_cast le_nearestEven scaled
  rw [← half_mul_lastPlace digits x]
  exact mul_le_mul_of_nonneg_right bounded place.le

theorem roundBinary_pos (digits : Nat) (positive : 0 < x) : 0 < roundBinary (digits + 1) x :=
  (zpow_pos (by norm_num) _).trans_le (pow_le_roundBinary digits positive)

theorem roundBinary_mono (digits : Nat) (positive : 0 < x) (order : x ≤ y) :
    roundBinary (digits + 1) x ≤ roundBinary (digits + 1) y := by
  rcases (log_abs_mono positive order).lt_or_eq with below | equal
  · calc roundBinary (digits + 1) x ≤ 2 ^ (Int.log 2 |x| + 1) := roundBinary_le_pow _ positive
      _ ≤ 2 ^ Int.log 2 |y| := zpow_le_zpow_right₀ (by norm_num) below
      _ ≤ roundBinary (digits + 1) y := pow_le_roundBinary digits (positive.trans_le order)
  · have same : lastPlace (digits + 1) x = lastPlace (digits + 1) y := by rw [lastPlace, lastPlace, equal]
    unfold roundBinary
    rw [same]
    have place := lastPlace_pos (digits + 1) y
    have scaled := nearestEven_mono (div_le_div_of_nonneg_right order place.le)
    exact mul_le_mul_of_nonneg_right (Int.cast_le.mpr scaled) place.le

/-! ### Rounded numbers -/

/-- A rounded number is a whole number of its own last places. -/
theorem roundBinary_places (digits : Nat) (positive : 0 < x) :
    ∃ m : ℤ, roundBinary (digits + 1) x = m * lastPlace (digits + 1) (roundBinary (digits + 1) x) := by
  rcases (roundBinary_le_pow (digits + 1) positive).lt_or_eq with below | equal
  · have same : lastPlace (digits + 1) (roundBinary (digits + 1) x) = lastPlace (digits + 1) x := by
      rw [lastPlace, lastPlace, log_of_bounds (pow_le_roundBinary digits positive) below]
    refine ⟨nearestEven (x / lastPlace (digits + 1) x), ?_⟩
    rw [same]
    rfl
  · -- the significand was rounded up to the next power of two
    have next : Int.log 2 |roundBinary (digits + 1) x| = Int.log 2 |x| + 1 := by
      refine log_of_bounds equal.ge ?_
      rw [equal]
      exact zpow_lt_zpow_right₀ (by norm_num) (by omega)
    refine ⟨2 ^ digits, ?_⟩
    push_cast
    rw [half_mul_lastPlace, next]
    exact equal

theorem roundBinary_roundBinary (digits : Nat) (positive : 0 < x) :
    roundBinary (digits + 1) (roundBinary (digits + 1) x) = roundBinary (digits + 1) x := by
  obtain ⟨m, places⟩ := roundBinary_places digits positive
  have whole : nearestEven (m : K) = m := le_antisymm (nearestEven_le le_rfl) (le_nearestEven le_rfl)
  generalize roundBinary (digits + 1) x = rounded at places ⊢
  have place := lastPlace_pos (digits + 1) rounded
  have significand : rounded / lastPlace (digits + 1) rounded = m := by
    rw [div_eq_iff place.ne']
    exact places
  rw [roundBinary, significand, whole]
  exact places.symm

/-- What lies below a rounded number is rounded below what is rounded to it. -/
theorem lt_of_roundBinary_lt (digits : Nat) (positive : 0 < x) (below : roundBinary (digits + 1) x < roundBinary (digits + 1) y)
    (other : 0 < y) : roundBinary (digits + 1) x < y := by
  by_contra reached
  have order := roundBinary_mono digits other (not_lt.mp reached)
  rw [roundBinary_roundBinary digits positive] at order
  exact absurd below (not_lt.mpr order)

/-- Less than half a place under a whole number of places, a number is rounded to fewer places. -/
theorem roundBinary_under (precision : Nat) {m : ℤ} (under : x < (m - 1 / 2) * lastPlace precision x) :
    roundBinary precision x < m * lastPlace precision x := by
  have place := lastPlace_pos precision x
  have scaled : x / lastPlace precision x < m - 1 / 2 := by rwa [div_lt_iff₀ place]
  have near := (nearestEven_near (x / lastPlace precision x)).2
  exact mul_lt_mul_of_pos_right (by linarith) place

/-! ### Beside one -/

theorem roundBinary_one (digits : Nat) : roundBinary (digits + 1) (1 : K) = 1 := by
  have exponent : Int.log 2 |(1 : K)| = 0 := by simp
  have place : (2 : K) ^ digits * lastPlace (digits + 1) (1 : K) = 1 := by rw [half_mul_lastPlace, exponent, zpow_zero]
  have significand : 1 / lastPlace (digits + 1) (1 : K) = ((2 ^ digits : ℤ) : K) := by
    push_cast
    rw [div_eq_iff (lastPlace_pos _ _).ne', place]
  have whole : nearestEven ((2 ^ digits : ℤ) : K) = 2 ^ digits := le_antisymm (nearestEven_le le_rfl) (le_nearestEven le_rfl)
  rw [roundBinary, significand, whole]
  push_cast
  exact place

/-- Just below one the significand takes all its digits. -/
theorem roundBinary_upper_half (precision : Nat) (half : 1 / 2 ≤ x) (below : x < 1) :
    roundBinary precision x = nearestEven (x * 2 ^ precision) / 2 ^ precision := by
  have exponent : Int.log 2 |x| = -1 := log_of_bounds (by simpa using half) (by simpa using below)
  have full := pow_mul_lastPlace precision x
  rw [exponent, neg_add_cancel, zpow_zero] at full
  have place : lastPlace precision x = (2 ^ precision)⁻¹ := eq_inv_of_mul_eq_one_right full
  rw [roundBinary, place, div_inv_eq_mul, ← div_eq_mul_inv]

/-- From the middle of the last gap on, a number below one is rounded to one. -/
theorem roundBinary_near_one (digits : Nat) (near : 1 - 1 / 2 ^ (digits + 2) ≤ x) (below : x ≤ 1) :
    roundBinary (digits + 1) x = 1 := by
  rcases below.lt_or_eq with below | rfl
  · have power : (0 : K) < 2 ^ (digits + 1) := by positivity
    have small : (1 : K) / 2 ^ (digits + 2) ≤ 1 / 2 := by
      gcongr
      exact le_self_pow₀ (by norm_num) (by omega)
    have reached : (2 : K) ^ (digits + 1) - 1 / 2 ≤ x * 2 ^ (digits + 1) := by
      calc (2 : K) ^ (digits + 1) - 1 / 2 = (1 - 1 / 2 ^ (digits + 2)) * 2 ^ (digits + 1) := by
            rw [pow_succ _ (digits + 1)]
            field_simp
        _ ≤ x * 2 ^ (digits + 1) := mul_le_mul_of_nonneg_right near power.le
    have short : x * 2 ^ (digits + 1) < 2 ^ (digits + 1) := by
      calc x * 2 ^ (digits + 1) < 1 * 2 ^ (digits + 1) := mul_lt_mul_of_pos_right below power
        _ = 2 ^ (digits + 1) := one_mul _
    have floor : ⌊x * 2 ^ (digits + 1)⌋ = (2 : ℤ) ^ (digits + 1) - 1 := by
      rw [Int.floor_eq_iff]
      push_cast
      constructor <;> linarith
    -- a tie lies above an odd significand, so it goes up as well
    have odd : ((2 : ℤ) ^ (digits + 1) - 1) % 2 ≠ 0 := by
      rw [pow_succ]
      omega
    have significand : nearestEven (x * 2 ^ (digits + 1)) = (2 : ℤ) ^ (digits + 1) := by
      unfold nearestEven
      dsimp only
      rw [floor, if_neg (by push_cast; linarith), if_neg odd, ite_self]
      ring
    rw [roundBinary_upper_half _ (by linarith) below, significand]
    push_cast
    exact div_self power.ne'
  · exact roundBinary_one digits

/-- Below the middle of the last gap, a number is rounded below one. -/
theorem roundBinary_below_one (digits : Nat) (positive : 0 < x) (below : x < 1 - 1 / 2 ^ (digits + 2)) :
    roundBinary (digits + 1) x ≤ 1 - 1 / 2 ^ (digits + 1) := by
  have power : (0 : K) < 2 ^ (digits + 1) := by positivity
  have gap : (0 : K) < 1 / 2 ^ (digits + 2) := by positivity
  by_cases half : 1 / 2 ≤ x
  · have short : x * 2 ^ (digits + 1) < 2 ^ (digits + 1) - 1 / 2 := by
      calc x * 2 ^ (digits + 1) < (1 - 1 / 2 ^ (digits + 2)) * 2 ^ (digits + 1) := mul_lt_mul_of_pos_right below power
        _ = 2 ^ (digits + 1) - 1 / 2 := by
            rw [pow_succ _ (digits + 1)]
            field_simp
    have near := (nearestEven_near (x * 2 ^ (digits + 1))).2
    have significand : nearestEven (x * 2 ^ (digits + 1)) < (2 : ℤ) ^ (digits + 1) := by
      apply (Int.cast_lt (R := K)).mp
      push_cast
      linarith
    have bounded : (nearestEven (x * 2 ^ (digits + 1)) : K) ≤ 2 ^ (digits + 1) - 1 := by
      have order : nearestEven (x * 2 ^ (digits + 1)) ≤ (2 : ℤ) ^ (digits + 1) - 1 := by omega
      exact_mod_cast (Int.cast_le (R := K)).mpr order
    rw [roundBinary_upper_half _ half (by linarith), div_le_iff₀ power, sub_mul, one_mul, one_div,
      inv_mul_cancel₀ power.ne']
    exact bounded
  · have small : (1 : K) / 2 ^ (digits + 1) ≤ 1 / 2 := by
      gcongr
      exact le_self_pow₀ (by norm_num) (by omega)
    have exponent : Int.log 2 |x| < -1 := by
      rw [abs_of_pos positive]
      apply (Int.lt_zpow_iff_log_lt (b := 2) (by norm_num) positive).mp
      simpa using not_le.mp half
    calc roundBinary (digits + 1) x ≤ 2 ^ (Int.log 2 |x| + 1) := roundBinary_le_pow _ positive
      _ ≤ 2 ^ (-1 : ℤ) := zpow_le_zpow_right₀ (by norm_num) (by omega)
      _ ≤ 1 - 1 / 2 ^ (digits + 1) := by
          rw [zpow_neg_one]
          linarith

/-- Times the largest number below one, or less, a rounded number gets smaller, also once the product is rounded. -/
theorem roundBinary_shrinks (digits : Nat) {factor : K} (positive : 0 < y) {m : ℤ} (places : y = m * lastPlace (digits + 1) y)
    (some_ : 0 < factor) (small : factor ≤ 1 - 1 / 2 ^ (digits + 1)) : roundBinary (digits + 1) (y * factor) < y := by
  have product : 0 < y * factor := mul_pos positive some_
  have shrunk : y * factor ≤ y - y / 2 ^ (digits + 1) := by
    calc y * factor ≤ y * (1 - 1 / 2 ^ (digits + 1)) := mul_le_mul_of_nonneg_left small positive.le
      _ = y - y / 2 ^ (digits + 1) := by ring
  have lost : 0 < y / 2 ^ (digits + 1) := by positivity
  rcases (log_abs_mono product (by linarith : y * factor ≤ y)).lt_or_eq with below | equal
  · -- the product lies in a lower power of two
    have next : (2 : K) ^ (Int.log 2 |y * factor| + 1) ≤ 2 ^ Int.log 2 |y| := zpow_le_zpow_right₀ (by norm_num) below
    rcases (next.trans (pow_log_le positive)).lt_or_eq with above | power
    · exact (roundBinary_le_pow _ product).trans_lt above
    · have whole := (pow_mul_lastPlace (digits + 1) (y * factor)).trans power
      have place := lastPlace_pos (digits + 1) (y * factor)
      have one_ : y / 2 ^ (digits + 1) = lastPlace (digits + 1) (y * factor) := by
        rw [div_eq_iff (by positivity), mul_comm]
        exact whole.symm
      have under := @roundBinary_under K _ _ _ _ (y * factor) (digits + 1) (2 ^ (digits + 1)) (by
        push_cast
        rw [sub_mul, whole]
        linarith)
      push_cast at under
      rwa [whole] at under
  · have same : lastPlace (digits + 1) (y * factor) = lastPlace (digits + 1) y := by rw [lastPlace, lastPlace, equal]
    have place := lastPlace_pos (digits + 1) y
    have above : (2 : K) ^ digits * lastPlace (digits + 1) y < y := by
      rw [half_mul_lastPlace, ← equal]
      exact (pow_log_le product).trans_lt (by linarith)
    have half : lastPlace (digits + 1) y / 2 < y / 2 ^ (digits + 1) := by
      rw [lt_div_iff₀ (by positivity), pow_succ]
      linarith
    have under := @roundBinary_under K _ _ _ _ (y * factor) (digits + 1) m (by
      rw [same, sub_mul, ← places]
      linarith)
    rw [same] at under
    exact under.trans_eq places.symm

end Iems.Lib
