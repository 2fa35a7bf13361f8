import Mathlib.Algebra.Order.Ring.Unbundled.Basic
import Mathlib.Data.List.Sort
import TableExchange.Proofs.Number.DecimalValue

/-!
# The order of decimals

Decimals are compared without their values: by sign, then by leading exponent, and only at equal
leading exponents by mantissas brought to one scale. That is the order of the values.

* `Decimal.compareMagnitude_eq`: magnitudes are compared as rational numbers. The gap between the
  scales is bounded by the digits of the mantissas, so that it is never too wide to close.
* `Decimal.compare_eq`: so are the signed values.
* `Decimal.compare_orders_values`: what follows for equality, the laws of an order, and sorting.
-/

namespace TableExchange

namespace Decimal

variable {a b : Decimal}

/-! ## Magnitudes -/

/-- A mantissa of a smaller scale, brought to a larger one. -/
theorem scaled_eq (m : Nat) {s t : Int} (h : s ≤ t) :
    ((m * Nat.pow 10 (t - s).natAbs : Nat) : ℚ) * 10 ^ (-t) = m * 10 ^ (-s) := by
  have hpow : (10 : ℚ) ^ (t - s).natAbs = 10 ^ (t - s) := by
    rw [← zpow_natCast, Int.natAbs_of_nonneg (by omega)]
  rw [Nat.cast_mul, Nat.pow_eq, Nat.cast_pow, Nat.cast_ofNat, hpow, mul_assoc,
    ← zpow_add₀ (by norm_num)]
  congr 2
  omega

theorem compare_natCast_mul_tenPow (m n : Nat) (t : Int) :
    Ord.compare ((m : ℚ) * 10 ^ (-t)) (n * 10 ^ (-t)) = Ord.compare m n := by
  rw [← cmp_eq_compare, ← cmp_eq_compare, cmp_mul_pos_right (tenPow_pos _),
    Nat.strictMono_cast.cmp_map_eq]

/-- Mantissas brought to one scale are compared as the magnitudes they stand for. -/
theorem compareAligned_eq (m n : Nat) {s t : Int} (hgap : (s - t).natAbs ≤ maxScaleGap) :
    compareAligned m s n t = Ord.compare ((m : ℚ) * 10 ^ (-s)) (n * 10 ^ (-t)) := by
  rw [compareAligned, if_neg (Nat.not_lt.2 hgap)]
  split
  · next h => rw [← scaled_eq m h, compare_natCast_mul_tenPow]
  · next h => rw [← scaled_eq n (Int.le_of_not_le h), compare_natCast_mul_tenPow]

theorem magnitude_lt_of_leadingExponent_lt (hb : b.mantissa ≠ 0)
    (h : a.leadingExponent < b.leadingExponent) : a.magnitude < b.magnitude :=
  calc a.magnitude < 10 ^ (a.leadingExponent + 1) := a.magnitude_lt_tenPow
    _ ≤ 10 ^ b.leadingExponent := zpow_le_zpow_right₀ (by norm_num) h
    _ ≤ b.magnitude := tenPow_le_magnitude hb

theorem leadingExponent_le (ha : a.mantissa ≠ 0) (h : a.magnitude ≤ b.magnitude) :
    a.leadingExponent ≤ b.leadingExponent :=
  Int.not_lt.1 fun hlt => not_lt.2 h (magnitude_lt_of_leadingExponent_lt ha hlt)

/-- Magnitudes are compared as rational numbers, unless the leading exponents are equal and the gap
between the scales is too wide to close. -/
theorem compareMagnitude_eq_of_gap (ha : a.mantissa ≠ 0) (hb : b.mantissa ≠ 0)
    (hgap : a.leadingExponent = b.leadingExponent → (a.scale - b.scale).natAbs ≤ maxScaleGap) :
    compareMagnitude a b = Ord.compare a.magnitude b.magnitude := by
  rw [compareMagnitude]
  split
  · next h => exact compareAligned_eq _ _ (hgap h)
  · next h =>
    rcases lt_or_gt_of_ne h with h | h
    · rw [compare_lt_iff_lt.2 h, compare_lt_iff_lt.2 (magnitude_lt_of_leadingExponent_lt hb h)]
    · rw [compare_gt_iff_gt.2 h, compare_gt_iff_gt.2 (magnitude_lt_of_leadingExponent_lt ha h)]

/-- Where the gap between the scales is too wide to close, the scales decide. -/
theorem compareMagnitude_of_wide (hlead : a.leadingExponent = b.leadingExponent)
    (hwide : maxScaleGap < (a.scale - b.scale).natAbs) :
    compareMagnitude a b = Ord.compare b.scale a.scale := by
  rw [compareMagnitude, if_pos hlead, compareAligned, if_pos hwide]

/-- At equal leading exponents the scales differ by as much as the numbers of digits do. -/
theorem compareMagnitude_eq (ha : a.mantissa ≠ 0) (hb : b.mantissa ≠ 0)
    (hadigits : a.digitCount < 2 ^ 32) (hbdigits : b.digitCount < 2 ^ 32) :
    compareMagnitude a b = Ord.compare a.magnitude b.magnitude := by
  refine compareMagnitude_eq_of_gap ha hb fun h => ?_
  unfold leadingExponent at h
  unfold maxScaleGap
  omega

/-! ## Values -/

theorem compare_neg (x y : ℚ) : Ord.compare (-x) (-y) = Ord.compare y x := by
  have hanti : StrictAnti (Neg.neg : ℚ → ℚ) := fun _ _ h => neg_lt_neg h
  rw [← cmp_eq_compare, ← cmp_eq_compare, hanti.cmp_map_eq]

theorem value_lt_of_sign_lt (h : a.mantissa.sign < b.mantissa.sign) : a.value < b.value := by
  rcases lt_trichotomy a.mantissa 0 with hneg | hzero | hpos
  · have ha : a.value < 0 := lt_of_not_ge fun hle => not_le.2 hneg (value_nonneg_iff.1 hle)
    refine ha.trans_le (value_nonneg_iff.2 (le_of_not_gt fun hb => ?_))
    rw [Int.sign_eq_neg_one_of_neg hneg, Int.sign_eq_neg_one_of_neg hb] at h
    exact lt_irrefl _ h
  · rw [hzero, Int.sign_zero, Int.sign_pos_iff] at h
    rw [value, hzero, Int.cast_zero, zero_mul]
    exact value_pos_iff.2 h
  · rw [Int.sign_eq_one_of_pos hpos] at h
    have hle := Int.sign_trichotomy b.mantissa
    omega

/-- Values are compared as rational numbers. -/
theorem compare_eq (hadigits : a.digitCount < 2 ^ 32) (hbdigits : b.digitCount < 2 ^ 32) :
    a.compare b = Ord.compare a.value b.value := by
  rw [compare]
  rcases lt_trichotomy a.mantissa.sign b.mantissa.sign with hsign | hsign | hsign
  · rw [compare_lt_iff_lt.2 hsign, compare_lt_iff_lt.2 (value_lt_of_sign_lt hsign)]
  · rw [compare_eq_iff_eq.2 hsign]
    rcases lt_trichotomy a.mantissa 0 with hneg | hzero | hpos
    · have hb : b.mantissa < 0 := by
        rwa [Int.sign_eq_neg_one_of_neg hneg, eq_comm, Int.sign_eq_neg_one_iff_neg] at hsign
      simp only [hneg.ne, if_false, hneg.not_gt]
      rw [compareMagnitude_eq hb.ne hneg.ne hbdigits hadigits, value_of_nonpos hneg.le,
        value_of_nonpos hb.le, compare_neg]
    · have hb : b.mantissa = 0 := by
        rwa [hzero, Int.sign_zero, eq_comm, Int.sign_eq_zero_iff_zero] at hsign
      simp [hzero, value, hb]
    · have hb : 0 < b.mantissa := by
        rwa [Int.sign_eq_one_of_pos hpos, eq_comm, Int.sign_eq_one_iff_pos] at hsign
      simp only [hpos.ne', if_false, hpos, if_true]
      rw [compareMagnitude_eq hpos.ne' hb.ne' hadigits hbdigits, value_of_nonneg hpos.le,
        value_of_nonneg hb.le]
  · rw [compare_gt_iff_gt.2 hsign, compare_gt_iff_gt.2 (value_lt_of_sign_lt hsign)]

theorem sameValue_iff (hadigits : a.digitCount < 2 ^ 32) (hbdigits : b.digitCount < 2 ^ 32) :
    a.sameValue b = true ↔ a.value = b.value := by
  rw [sameValue, beq_iff_eq, compare_eq hadigits hbdigits, compare_eq_iff_eq]

theorem atMost_iff (hadigits : a.digitCount < 2 ^ 32) (hbdigits : b.digitCount < 2 ^ 32) :
    a.atMost b = true ↔ a.value ≤ b.value := by
  rw [atMost, bne_iff_ne, compare_eq hadigits hbdigits, compare_le_iff_le]

/-! ## Sorting -/

/-- A list sorted by `atMost` has its values in ascending order. -/
theorem map_value_mergeSort {ds : List Decimal} (hdigits : ∀ d ∈ ds, d.digitCount < 2 ^ 32) :
    (ds.mergeSort atMost).map value = (ds.map value).mergeSort := by
  refine List.map_mergeSort fun x hx y hy => ?_
  rw [Bool.eq_iff_iff, atMost_iff (hdigits x hx) (hdigits y hy), decide_eq_true_iff]

/-- **Decimals are ordered by their exact values.** For decimals of fewer than `2 ^ 32` digits,
whatever their scales, the comparison is that of the rational numbers they stand for, and two are
the same value if these are equal. So the order is total, antisymmetric up to value and transitive,
and sorting by it puts the values in ascending order. -/
theorem compare_orders_values (a b c : Decimal) (ds : List Decimal) (ha : a.digitCount < 2 ^ 32)
    (hb : b.digitCount < 2 ^ 32) (hc : c.digitCount < 2 ^ 32)
    (hds : ∀ d ∈ ds, d.digitCount < 2 ^ 32) :
    a.compare b = Ord.compare a.value b.value ∧
    (a.sameValue b = true ↔ a.value = b.value) ∧
    (a.atMost b = true ∨ b.atMost a = true) ∧
    (a.atMost b = true → b.atMost a = true → a.value = b.value) ∧
    (a.atMost b = true → b.atMost c = true → a.atMost c = true) ∧
    (ds.mergeSort atMost).Perm ds ∧
    (ds.mergeSort atMost).Pairwise fun x y => x.value ≤ y.value := by
  refine ⟨compare_eq ha hb, sameValue_iff ha hb, ?_, ?_, ?_, List.mergeSort_perm ds atMost, ?_⟩
  · rw [atMost_iff ha hb, atMost_iff hb ha]
    exact le_total a.value b.value
  · rw [atMost_iff ha hb, atMost_iff hb ha]
    exact le_antisymm
  · rw [atMost_iff ha hb, atMost_iff hb hc, atMost_iff ha hc]
    exact le_trans
  · rw [← List.pairwise_map, map_value_mergeSort hds]
    exact List.pairwise_mergeSort' _ _

/-- Numbers of several scales, out of order. -/
def mixedScales : List Decimal := [⟨2, 0⟩, ⟨150, 2⟩, ⟨-1, -3⟩, ⟨15, 1⟩]

/-- 150 hundredths and 15 tenths are one value, and minus a thousand, in which one digit stands before
three zeros, comes before both. -/
theorem compare_orders_values_mixedScales :
    (∀ d ∈ mixedScales, d.digitCount < 2 ^ 32) ∧
    (⟨150, 2⟩ : Decimal).compare ⟨15, 1⟩ = .eq ∧
    (⟨150, 2⟩ : Decimal).value = (⟨15, 1⟩ : Decimal).value ∧
    (⟨-1, -3⟩ : Decimal).atMost ⟨150, 2⟩ = true ∧
    (mixedScales.mergeSort atMost).Pairwise fun x y => x.value ≤ y.value := by
  have hdigits : ∀ d ∈ mixedScales, d.digitCount < 2 ^ 32 := by decide
  obtain ⟨-, hsame, -, -, -, -, hsorted⟩ :=
    compare_orders_values ⟨150, 2⟩ ⟨15, 1⟩ ⟨-1, -3⟩ mixedScales (by decide) (by decide) (by decide)
      hdigits
  exact ⟨hdigits, by decide, hsame.1 (by decide), by decide, hsorted⟩

end Decimal

end TableExchange
