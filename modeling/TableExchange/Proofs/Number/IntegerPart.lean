import Mathlib.Data.Rat.Floor
import TableExchange.Proofs.Number.DecimalValue

/-!
# Integer parts

The integer part of a decimal is its value, rounded toward zero. It is not taken where the scale or
the digits of the integer are too wide.

* `towardZero`: a rational number without its fraction.
* `Decimal.toInteger?_eq_some_iff`: of which decimals an integer part is taken, and which one.
* `Decimal.value_ofInt`, `Decimal.hasIntegerPart_ofInt`: of an integer, the limit on its digits alone
  decides.
-/

namespace TableExchange

/-- A rational number without its fraction. -/
def towardZero (q : ℚ) : ℤ := if 0 ≤ q then ⌊q⌋ else ⌈q⌉

theorem towardZero_intCast (n : ℤ) : towardZero n = n := by
  rw [towardZero, Int.floor_intCast, Int.ceil_intCast, ite_self]

theorem towardZero_div (m : ℤ) {n : ℕ} (hn : 0 < n) : towardZero (m / n) = m.tdiv n := by
  have hpos : (0 : ℚ) < n := Nat.cast_pos.2 hn
  by_cases hm : 0 ≤ m
  · have hle : (0 : ℚ) ≤ m / n := div_nonneg (Int.cast_nonneg hm) hpos.le
    rw [towardZero, if_pos hle, Rat.floor_intCast_div_natCast, Int.tdiv_eq_ediv_of_nonneg hm]
  · have hlt : ((m : ℚ) / n) < 0 := div_neg_of_neg_of_pos (Int.cast_lt_zero.2 (by omega)) hpos
    rw [towardZero, if_neg (not_le.2 hlt), Rat.ceil_intCast_div_natCast,
      ← Int.tdiv_eq_ediv_of_nonneg (by omega), Int.neg_tdiv, neg_neg]

namespace Decimal

variable {d : Decimal}

/-- The integer part is not too wide to be taken: neither the scale nor, where zeros have to be
added, the number of digits. -/
def HasIntegerPart (d : Decimal) : Prop :=
  d.mantissa = 0 ∨
    d.scale.natAbs ≤ maxIntegerScale ∧
      (d.scale ≤ 0 → d.digitCount + d.scale.natAbs ≤ maxIntegerDigits)

instance (d : Decimal) : Decidable d.HasIntegerPart := inferInstanceAs (Decidable (_ ∨ _))

theorem value_of_scale_nonpos (h : d.scale ≤ 0) :
    d.value = (d.mantissa * Nat.pow 10 d.scale.natAbs : Int) := by
  have hscale : -d.scale = d.scale.natAbs := by omega
  rw [value, hscale, zpow_natCast, Nat.pow_eq]
  push_cast
  rfl

theorem value_of_scale_pos (h : 0 < d.scale) :
    d.value = d.mantissa / (Nat.pow 10 d.scale.natAbs : Nat) := by
  have hscale : d.scale = d.scale.natAbs := by omega
  rw [value, zpow_neg, hscale, zpow_natCast, Nat.pow_eq, Int.natAbs_natCast, div_eq_mul_inv]
  push_cast
  rfl

/-- A number with no more digits than its scale is less than one. -/
theorem tdiv_eq_zero (h : d.digitCount ≤ d.scale.natAbs) :
    d.mantissa.tdiv (Nat.pow 10 d.scale.natAbs) = 0 := by
  have hlt : d.mantissa.natAbs < 10 ^ d.scale.natAbs :=
    d.natAbs_lt.trans_le (Nat.pow_le_pow_right (by decide) h)
  rw [← Int.natAbs_eq_zero, Int.natAbs_tdiv, Int.natAbs_natCast]
  exact Nat.div_eq_of_lt hlt

theorem toInteger?_of_hasIntegerPart (h : d.HasIntegerPart) :
    d.toInteger? = some (towardZero d.value) := by
  rw [toInteger?]
  split
  · next hzero =>
    have hvalue : d.value = (0 : Int) := by rw [value, hzero, Int.cast_zero, zero_mul]
    rw [hvalue, towardZero_intCast]
  · next hzero =>
    obtain ⟨hscale, hdigits⟩ := h.resolve_left hzero
    rw [if_neg (Nat.not_lt.2 hscale)]
    split
    · next hsign =>
      rw [if_neg (Nat.not_lt.2 (hdigits hsign)), value_of_scale_nonpos hsign, towardZero_intCast]
    · next hsign =>
      have hpos : 0 < Nat.pow 10 d.scale.natAbs := Nat.pow_pos (by decide)
      rw [value_of_scale_pos (Int.lt_of_not_ge hsign), towardZero_div _ hpos]
      split
      · next hdigits => rw [tdiv_eq_zero hdigits]
      · rfl

theorem toInteger?_eq_none (h : ¬d.HasIntegerPart) : d.toInteger? = none := by
  obtain ⟨hzero, hwide⟩ := not_or.1 h
  rw [toInteger?, if_neg hzero]
  split
  · rfl
  · next hscale =>
    obtain ⟨hsign, hdigits⟩ : d.scale ≤ 0 ∧ maxIntegerDigits < d.digitCount + d.scale.natAbs := by
      simpa using not_and.1 hwide (Nat.not_lt.1 hscale)
    rw [if_pos hsign, if_pos hdigits]

/-- The integer part is the value rounded toward zero, wherever it is not too wide. -/
theorem toInteger?_eq_some_iff {z : Int} :
    d.toInteger? = some z ↔ d.HasIntegerPart ∧ z = towardZero d.value := by
  by_cases h : d.HasIntegerPart
  · simp [toInteger?_of_hasIntegerPart h, h, eq_comm]
  · simp [toInteger?_eq_none h, h]

/-! ## Integers -/

theorem value_ofInt (n : Int) : (ofInt n).value = n := by
  rw [value_of_scale_nonpos (Int.le_refl 0)]
  simp [ofInt]

theorem hasIntegerPart_ofInt {n : Int} :
    (ofInt n).HasIntegerPart ↔ (Digits.ofNat n.natAbs).length ≤ maxIntegerDigits := by
  unfold HasIntegerPart digitCount
  simp only [ofInt, Int.natAbs_zero, Nat.add_zero, Nat.zero_le, true_and, Int.le_refl,
    forall_const, or_iff_right_iff_imp]
  rintro rfl
  decide

end Decimal

end TableExchange
