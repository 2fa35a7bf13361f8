import Mathlib.Algebra.Order.Field.Power
import Mathlib.Algebra.Order.Field.Rat
import Mathlib.Data.Int.Cast.Lemmas
import Mathlib.Tactic.NormNum.Basic
import TableExchange.Number.Decimal
import TableExchange.Proofs.Text.Digits

/-!
# The values of decimals

A decimal stands for a rational number, and its leading exponent says between which powers of ten
that number lies.

* `Decimal.value`, `Decimal.magnitude`, `Decimal.magnitude_eq`: the number and its absolute value.
* `Decimal.tenPow_le_magnitude`, `Decimal.magnitude_lt_tenPow`: those two powers of ten.
-/

namespace TableExchange

namespace Decimal

/-- The rational number `mantissa · 10 ^ (-scale)`. -/
def value (d : Decimal) : ℚ := d.mantissa * 10 ^ (-d.scale)

/-- The absolute value of that number. -/
def magnitude (d : Decimal) : ℚ := d.mantissa.natAbs * 10 ^ (-d.scale)

theorem tenPow_pos (n : Int) : (0 : ℚ) < 10 ^ n := zpow_pos (by norm_num) n

/-! ## Signs -/

variable {d : Decimal}

theorem value_of_nonneg (h : 0 ≤ d.mantissa) : d.value = d.magnitude := by
  rw [value, magnitude, Nat.cast_natAbs, abs_of_nonneg h]

theorem value_of_nonpos (h : d.mantissa ≤ 0) : d.value = -d.magnitude := by
  rw [value, magnitude, Nat.cast_natAbs, abs_of_nonpos h, Int.cast_neg, neg_mul, neg_neg]

theorem value_pos_iff : 0 < d.value ↔ 0 < d.mantissa := by
  rw [value, mul_pos_iff_of_pos_right (tenPow_pos _), Int.cast_pos]

theorem value_nonneg_iff : 0 ≤ d.value ↔ 0 ≤ d.mantissa := by
  rw [value, mul_nonneg_iff_of_pos_right (tenPow_pos _), Int.cast_nonneg_iff]

theorem mantissa_eq_zero_iff (d : Decimal) : d.mantissa = 0 ↔ d.value = 0 := by
  rw [value, mul_eq_zero, Int.cast_eq_zero, or_iff_left (tenPow_pos _).ne']

theorem magnitude_eq (d : Decimal) : d.magnitude = |d.value| := by
  rw [magnitude, value, abs_mul, abs_of_pos (tenPow_pos _), Nat.cast_natAbs, Int.cast_abs]

theorem value_abs (d : Decimal) : d.abs.value = |d.value| := by
  rw [← magnitude_eq]
  simp only [value, abs, magnitude, Int.cast_natCast]

/-! ## Digits -/

theorem digitCount_abs (d : Decimal) : d.abs.digitCount = d.digitCount := by
  rw [digitCount, abs, Int.natAbs_natCast, digitCount]

theorem digitCount_pos (d : Decimal) : 0 < d.digitCount := Digits.length_ofNat_pos _

theorem natAbs_lt (d : Decimal) : d.mantissa.natAbs < 10 ^ d.digitCount :=
  Digits.lt_pow_length _

theorem le_natAbs (h : d.mantissa ≠ 0) : 10 ^ (d.digitCount - 1) ≤ d.mantissa.natAbs :=
  Digits.pow_length_le (Int.natAbs_pos.2 h)

theorem magnitude_lt_tenPow (d : Decimal) : d.magnitude < 10 ^ (d.leadingExponent + 1) := by
  have hdigits : (d.mantissa.natAbs : ℚ) < 10 ^ (d.digitCount : Int) := by
    exact_mod_cast d.natAbs_lt
  calc d.magnitude < 10 ^ (d.digitCount : Int) * 10 ^ (-d.scale) :=
        mul_lt_mul_of_pos_right hdigits (tenPow_pos _)
    _ = 10 ^ (d.leadingExponent + 1) := by
        rw [← zpow_add₀ (by decide), leadingExponent]
        congr 1
        omega

theorem tenPow_le_magnitude (h : d.mantissa ≠ 0) : 10 ^ d.leadingExponent ≤ d.magnitude := by
  have hpos := d.digitCount_pos
  have hdigits : (10 : ℚ) ^ ((d.digitCount - 1 : Nat) : Int) ≤ d.mantissa.natAbs := by
    exact_mod_cast le_natAbs h
  calc (10 : ℚ) ^ d.leadingExponent = 10 ^ ((d.digitCount - 1 : Nat) : Int) * 10 ^ (-d.scale) := by
        rw [← zpow_add₀ (by decide), leadingExponent]
        congr 1
        omega
    _ ≤ d.magnitude := mul_le_mul_of_nonneg_right hdigits (tenPow_pos _).le

end Decimal

end TableExchange
