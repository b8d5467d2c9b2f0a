/-
**Floating point numbers of 53 bits.**

The doubles are taken as the rational numbers that they are, a whole number of units in their last
place. The result of an operation is the double nearest to the exact value, and the one with the even
mantissa if there are two. The exponent has no bounds here: no infinities and no subnormal numbers.

* `roundEven`: the nearest whole number.
* `ulp`, `nearest`: the unit in the last place, the nearest double.
* `le_nearest`: no whole number is passed by the rounding.
* `nearest_eq`: a whole number takes all that is less than half a unit away from it.
* `nearest_sub_le`: the error is half a unit at most.
* `bounds_of_bucket`: the numbers of a bucket that doubles are put into.
-/

import Mathlib.Algebra.Order.Floor.Ring
import Mathlib.Data.Int.Log
import Mathlib.Data.Rat.Floor
import Mathlib.Tactic.Linarith

namespace NewsCollect.Doubles

/-! ### Whole numbers -/

/-- The whole number nearest to a number, the even one of two. -/
def roundEven (x : ℚ) : ℤ :=
  if x - ⌊x⌋ < 1 / 2 ∨ x - ⌊x⌋ = 1 / 2 ∧ ⌊x⌋ % 2 = 0 then ⌊x⌋ else ⌊x⌋ + 1

section Whole

variable {x : ℚ} {n : ℤ}

/-- **What a rounded number is**: down by half at most, or up by half at most. -/
theorem roundEven_cases (x : ℚ) :
    (roundEven x = ⌊x⌋ ∧ x - ⌊x⌋ ≤ 1 / 2) ∨ (roundEven x = ⌊x⌋ + 1 ∧ 1 / 2 ≤ x - ⌊x⌋) := by
  unfold roundEven
  split
  · next down => exact .inl ⟨rfl, down.elim le_of_lt fun tie => tie.1.le⟩
  · next up =>
    rw [not_or, not_lt] at up
    exact .inr ⟨rfl, up.1⟩

/-- The error is a half at most. -/
theorem roundEven_sub_le (x : ℚ) : |roundEven x - x| ≤ 1 / 2 := by
  have below := Int.floor_le x
  have above := Int.lt_floor_add_one x
  rw [abs_le]
  rcases roundEven_cases x with ⟨down, near⟩ | ⟨up, near⟩
  · rw [down]
    constructor <;> linarith
  · rw [up, Int.cast_add, Int.cast_one]
    constructor <;> linarith

/-- What lies above a whole number is not rounded below it. -/
theorem le_roundEven (above : (n : ℚ) ≤ x) : n ≤ roundEven x := by
  have floor : n ≤ ⌊x⌋ := Int.le_floor.2 above
  rcases roundEven_cases x with ⟨down, -⟩ | ⟨up, -⟩
  · rwa [down]
  · rw [up]
    omega

/-- A whole number takes what is less than a half away. -/
theorem roundEven_eq (close : |x - n| < 1 / 2) : roundEven x = n := by
  have error := roundEven_sub_le x
  have apart : |(roundEven x - n : ℚ)| < 1 := by
    calc |(roundEven x - n : ℚ)| ≤ |roundEven x - x| + |x - n| := abs_sub_le _ _ _
      _ < 1 / 2 + 1 / 2 := add_lt_add_of_le_of_lt error close
      _ = 1 := by norm_num
  rw [← Int.cast_sub, ← Int.cast_abs, ← Int.cast_one, Int.cast_lt, Int.abs_lt_one_iff] at apart
  exact sub_eq_zero.1 apart

end Whole

/-! ### Doubles -/

/-- The unit in the last place of the doubles next to a number. -/
def ulp (x : ℚ) : ℚ := 2 ^ (Int.log 2 |x| - 52)

/-- **The double nearest to a number.** -/
def nearest (x : ℚ) : ℚ := roundEven (x / ulp x) * ulp x

section Doubles

variable {x : ℚ} {n : ℤ}

theorem ulp_pos (x : ℚ) : 0 < ulp x := zpow_pos (by norm_num) _

/-- The unit grows with the number. -/
theorem ulp_mono {y : ℚ} (large : 1 ≤ |y|) (smaller : |x| ≤ |y|) : ulp x ≤ ulp y := by
  refine zpow_le_zpow_right₀ (by norm_num) (sub_le_sub_right ?_ _)
  by_cases zero : x = 0
  · rw [zero, abs_zero, Int.log_of_right_le_zero _ le_rfl, Int.log_of_one_le_right _ large]
    exact Int.natCast_nonneg _
  · exact Int.log_mono_right (abs_pos.2 zero) smaller

/-- The unit of a number less than a power of two. -/
theorem ulp_le {k : ℕ} (bound : |x| < 2 ^ (k + 1)) : ulp x ≤ 2 ^ ((k : ℤ) - 52) := by
  refine zpow_le_zpow_right₀ (by norm_num) (sub_le_sub_right ?_ _)
  by_cases zero : x = 0
  · rw [zero, abs_zero, Int.log_of_right_le_zero _ le_rfl]
    exact Int.natCast_nonneg k
  · have less : Int.log 2 |x| < k + 1 := (Int.lt_zpow_iff_log_lt (by norm_num) (abs_pos.2 zero)).1
      (by exact_mod_cast bound)
    omega

/-- The unit of a number from a power of two on. -/
theorem le_ulp {k : ℕ} (bound : 2 ^ k ≤ |x|) : 2 ^ ((k : ℤ) - 52) ≤ ulp x := by
  refine zpow_le_zpow_right₀ (by norm_num) (sub_le_sub_right ?_ _)
  have positive : 0 < |x| := lt_of_lt_of_le (by positivity) bound
  exact (Int.zpow_le_iff_le_log (by norm_num) positive).1 (by exact_mod_cast bound)

/-- The error is half a unit at most. -/
theorem nearest_sub_le (x : ℚ) : |nearest x - x| ≤ ulp x / 2 := by
  have positive := ulp_pos x
  have scaled : nearest x - x = (roundEven (x / ulp x) - x / ulp x) * ulp x := by
    rw [sub_mul, div_mul_cancel₀ _ positive.ne', nearest]
  rw [scaled, abs_mul, abs_of_pos positive]
  linarith [mul_le_mul_of_nonneg_right (roundEven_sub_le (x / ulp x)) positive.le]

/-- A whole number is a whole number of units, next to a number of less than 54 bits. -/
theorem exists_units (small : |x| < 2 ^ 53) (n : ℤ) : ∃ units : ℤ, (n : ℚ) / ulp x = units := by
  have exponent : Int.log 2 |x| - 52 ≤ 0 := by
    by_cases zero : x = 0
    · rw [zero, abs_zero, Int.log_of_right_le_zero _ le_rfl]
      norm_num
    · have less := (Int.lt_zpow_iff_log_lt (b := 2) (x := 53) (by norm_num) (abs_pos.2 zero)).1
        (by exact_mod_cast small)
      omega
  obtain ⟨places, same⟩ := Int.eq_ofNat_of_zero_le (neg_nonneg.2 exponent)
  refine ⟨n * 2 ^ places, ?_⟩
  rw [ulp, div_eq_mul_inv, ← zpow_neg, same, zpow_natCast]
  push_cast
  rfl

/-- **What lies above a whole number is not rounded below it.** -/
theorem le_nearest (small : |x| < 2 ^ 53) (above : (n : ℚ) ≤ x) : (n : ℚ) ≤ nearest x := by
  obtain ⟨units, same⟩ := exists_units small n
  have scaled : (units : ℚ) ≤ x / ulp x := same ▸ div_le_div_of_nonneg_right above (ulp_pos x).le
  have rounded : (units : ℚ) ≤ roundEven (x / ulp x) := Int.cast_le.2 (le_roundEven scaled)
  rw [← same, div_le_iff₀ (ulp_pos x)] at rounded
  exact rounded

/-- **A whole number takes what is less than half a unit away.** -/
theorem nearest_eq (small : |x| < 2 ^ 53) (close : |x - n| < ulp x / 2) : nearest x = n := by
  obtain ⟨units, same⟩ := exists_units small n
  have positive := ulp_pos x
  have scaled : |x / ulp x - units| < 1 / 2 := by
    rw [← same, ← sub_div, abs_div, abs_of_pos positive, div_lt_iff₀ positive]
    linarith
  rw [nearest, roundEven_eq scaled, ← same, div_mul_cancel₀ _ positive.ne']

/-! ### Buckets -/

variable {width : ℕ} {bucket : ℤ}

/-- **The numbers of a bucket**, of this width, that doubles are put into: at its start those that are
rounded up to it, and at its end none of those that are rounded up to the next one. -/
theorem bounds_of_bucket (positive : 0 < width) (small : |x| < 2 ^ 53)
    (same : ⌊nearest x / width⌋ = bucket) :
    width * bucket - x ≤ ulp x / 2 ∧ x < width * (bucket + 1) ∧
      ulp x / 2 ≤ width * (bucket + 1) - x := by
  have some : (0 : ℚ) < width := Nat.cast_pos.2 positive
  obtain ⟨from_start, before_end⟩ := Int.floor_eq_iff.1 same
  rw [le_div_iff₀ some] at from_start
  rw [div_lt_iff₀ some] at before_end
  have ends : ((width * (bucket + 1) : ℤ) : ℚ) = width * (bucket + 1) := by push_cast; ring
  have short : x < width * (bucket + 1) := by
    by_contra beyond
    have rounded := le_nearest small (ends.trans_le (not_lt.1 beyond))
    rw [ends] at rounded
    linarith
  refine ⟨?_, short, ?_⟩
  · have error := (abs_le.1 (nearest_sub_le x)).2
    linarith
  · by_contra close
    have near : |x - ((width * (bucket + 1) : ℤ) : ℚ)| < ulp x / 2 := by
      rw [ends, abs_sub_comm, abs_of_pos (by linarith)]
      exact not_le.1 close
    have rounded := nearest_eq small near
    rw [ends] at rounded
    linarith

end Doubles

end NewsCollect.Doubles
