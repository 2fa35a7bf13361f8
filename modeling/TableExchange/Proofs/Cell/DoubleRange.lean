import TableExchange.Cell.Range
import TableExchange.Proofs.Number.DecimalOrder
import TableExchange.Proofs.Number.Shortest

/-!
# The range of doubles

A decimal passes the range guard if its magnitude lies between two bounds, which are rounded
themselves: the lower one lies below the shortest decimal of the least double, and the upper one is
the shortest decimal of the greatest. These two are computed; whatever rounds to another double is
well within.

* `isDoubleOverflow_eq_false`: the guard in terms of magnitudes.
* `Binary64.leastDouble_le_of_nearest`, `Binary64.le_greatestDouble_of_nearest`: what rounds to a
  double other than the extreme ones.
* `Binary64.shortest_in_range`: the shortest decimal of a magnitude passes the guard.
-/

namespace TableExchange

/-- What lies between the bounds passes the guard. -/
theorem isDoubleOverflow_eq_false {d : Decimal} (hdigits : d.digitCount < 2 ^ 32)
    (hlow : leastDouble.magnitude ≤ d.magnitude) (hhigh : d.magnitude ≤ greatestDouble.magnitude) :
    isDoubleOverflow d = false := by
  have hvalue : d.abs.value = d.magnitude := by rw [Decimal.value_abs, Decimal.magnitude_eq]
  have hleast : leastDouble.value = leastDouble.magnitude := Decimal.value_of_nonneg (by decide)
  have hgreatest : greatestDouble.value = greatestDouble.magnitude :=
    Decimal.value_of_nonneg (by decide)
  rw [← Decimal.digitCount_abs] at hdigits
  have hless : d.abs.compare leastDouble ≠ .lt := by
    rw [Decimal.compare_eq hdigits (by decide), Ne, compare_lt_iff_lt, hvalue, hleast]
    exact not_lt.2 hlow
  have hgreater : d.abs.compare greatestDouble ≠ .gt := by
    rw [Decimal.compare_eq hdigits (by decide), Ne, compare_gt_iff_gt, hvalue, hgreatest]
    exact not_lt.2 hhigh
  simp [isDoubleOverflow, hless, hgreater]

namespace Binary64

variable {x : Finite} {q : ℚ} {n : Nat} {e : Int}

theorem leastDouble_magnitude : leastDouble.magnitude = 49 / 10 ^ 325 := by
  show ((49 : Nat) : ℚ) * 10 ^ (-(325 : Nat) : Int) = _
  rw [zpow_neg, zpow_natCast, Nat.cast_ofNat, div_eq_mul_inv]

theorem greatestDouble_magnitude : greatestDouble.magnitude = 17976931348623157 * 10 ^ 292 := by
  show ((17976931348623157 : Nat) : ℚ) * 10 ^ ((292 : Nat) : Int) = _
  rw [zpow_natCast, Nat.cast_ofNat]

theorem leadingExponent_leastDouble : leastDouble.leadingExponent = -324 := by decide

theorem leadingExponent_greatestDouble : greatestDouble.leadingExponent = 308 := by decide

theorem ulp_ge (x : Finite) : 1 / 2 ^ 1074 ≤ x.ulp := by
  have hle := zpow_le_zpow_right₀ (by norm_num : (1 : ℚ) ≤ 2) x.canonical.2.1
  rwa [show (-1074 : Int) = -(1074 : Nat) from rfl, zpow_neg, zpow_natCast, ← one_div] at hle

theorem le_log_magnitude (hx : x.significand ≠ 0) : -324 ≤ Int.log 10 x.magnitude := by
  refine (Int.zpow_le_iff_le_log (b := 10) (by decide) (Finite.magnitude_pos hx)).1 ?_
  have hbound : (2 ^ 1074 : ℚ) ≤ 10 ^ 324 := by
    have hnat : 2 ^ 1074 ≤ 10 ^ 324 := by decide +kernel
    exact_mod_cast hnat
  have hone : (1 : ℚ) ≤ x.significand := Nat.one_le_cast.2 (Nat.pos_of_ne_zero hx)
  calc ((10 : Nat) : ℚ) ^ (-324 : Int) = 1 / 10 ^ 324 := by
        rw [show (-324 : Int) = -(324 : Nat) from rfl, zpow_neg, zpow_natCast, one_div,
          Nat.cast_ofNat]
    _ ≤ 1 / 2 ^ 1074 := one_div_le_one_div_of_le (pow_pos (by norm_num) _) hbound
    _ ≤ x.ulp := ulp_ge x
    _ ≤ x.significand * x.ulp := le_mul_of_one_le_left x.ulp_pos.le hone

/-- Unless it is the least magnitude, all that rounds to it is above the lower bound. -/
theorem leastDouble_le_of_nearest (hx : x.significand ≠ 0) (h : x.Nearest q)
    (hleast : ¬(x.significand = 1 ∧ x.exponent = -1074)) : leastDouble.magnitude ≤ q := by
  obtain ⟨-, -, -, hfill⟩ := x.canonical
  have htwo : 2 ≤ x.significand := by
    rcases hfill with hfill | hexponent
    · exact le_trans (by decide) hfill
    · have hone : x.significand ≠ 1 := fun hone => hleast ⟨hone, hexponent⟩
      omega
  have hsteps : (3 / 2 : ℚ) ≤ x.significand - x.halfBelow := by
    have hcast : (2 : ℚ) ≤ x.significand := by exact_mod_cast htwo
    have hhalf := x.halfBelow_le
    linarith
  have hbound : (49 * (2 * 2 ^ 1074) : ℚ) ≤ 3 * 10 ^ 325 := by
    have hnat : 49 * (2 * 2 ^ 1074) ≤ 3 * 10 ^ 325 := by decide +kernel
    exact_mod_cast hnat
  have hten : (0 : ℚ) < 10 ^ 325 := pow_pos (by norm_num) _
  have htwos : (0 : ℚ) < 2 ^ 1074 := pow_pos (by norm_num) _
  calc leastDouble.magnitude = 49 / 10 ^ 325 := leastDouble_magnitude
    _ ≤ 3 / (2 * 2 ^ 1074) := (div_le_div_iff₀ hten (mul_pos (by norm_num) htwos)).2 hbound
    _ = 3 / 2 * (1 / 2 ^ 1074) := by rw [div_mul_div_comm, mul_one]
    _ ≤ (x.significand - x.halfBelow) * x.ulp :=
        mul_le_mul hsteps (ulp_ge x) (one_div_pos.2 htwos).le (by linarith)
    _ ≤ q := h.low

/-- Unless it is the greatest magnitude, all that rounds to it is below the upper bound. -/
theorem le_greatestDouble_of_nearest (h : x.Nearest q)
    (hgreatest : ¬(x.significand = significandBound - 1 ∧ x.exponent = 971)) :
    q ≤ greatestDouble.magnitude := by
  obtain ⟨hbits, -, hexponent, -⟩ := x.canonical
  have hsteps : (x.significand + 1 / 2) * x.ulp ≤ (2 ^ 54 - 3) * 2 ^ 970 := by
    have htwos : (0 : ℚ) < 2 ^ 970 := pow_pos (by norm_num) _
    rcases Int.lt_or_eq_of_le hexponent with hlt | heq
    · have hulp : x.ulp ≤ 2 ^ 970 := by
        have hle := zpow_le_zpow_right₀ (by norm_num : (1 : ℚ) ≤ 2)
          (by omega : x.exponent ≤ 970)
        exact hle.trans (le_of_eq (zpow_natCast 2 970))
      have hcast : (x.significand : ℚ) < 2 ^ 53 := by
        rw [← cast_significandBound]
        exact_mod_cast hbits
      exact mul_le_mul (by linarith) hulp x.ulp_pos.le (by norm_num)
    · have hulp : x.ulp = 2 * 2 ^ 970 := by
        rw [Finite.ulp, heq, ← pow_succ']
        exact zpow_natCast 2 971
      have hcast : (x.significand : ℚ) + 2 ≤ 2 ^ 53 := by
        have hne : x.significand ≠ significandBound - 1 := fun hm => hgreatest ⟨hm, heq⟩
        rw [← cast_significandBound]
        exact_mod_cast (by omega : x.significand + 2 ≤ significandBound)
      rw [hulp, ← mul_assoc]
      exact mul_le_mul_of_nonneg_right (by linarith) htwos.le
  have hbound : ((2 ^ 54 - 3) * 2 ^ 970 : ℚ) ≤ 17976931348623157 * 10 ^ 292 := by
    have hnat : 18014398509481981 * 2 ^ 970 ≤ 17976931348623157 * 10 ^ 292 := by decide +kernel
    rw [show (2 ^ 54 - 3 : ℚ) = 18014398509481981 by norm_num]
    exact_mod_cast hnat
  rw [greatestDouble_magnitude]
  exact h.high.trans (hsteps.trans hbound)

/-- The shortest decimals of the least and of the greatest magnitude. -/
theorem shortest_extremes (x : Finite) :
    (x.significand = 1 ∧ x.exponent = -1074 → x.shortest .up = ⟨5, 324⟩) ∧
    (x.significand = significandBound - 1 ∧ x.exponent = 971 →
      x.shortest .up = greatestDouble) := by
  obtain ⟨negative, m, e, canonical⟩ := x
  constructor
  · rintro ⟨rfl, rfl⟩
    revert negative canonical
    decide +kernel
  · rintro ⟨rfl, rfl⟩
    revert negative canonical
    decide +kernel

/-- The shortest decimal of a magnitude is within the range of doubles. -/
theorem shortest_in_range (hx : x.significand ≠ 0) (hshortest : x.shortest .up = ⟨n, -e⟩)
    (hnear : x.Nearest (n * 10 ^ e)) :
    leastDouble.magnitude ≤ n * 10 ^ e ∧ n * 10 ^ e ≤ greatestDouble.magnitude := by
  have hmagnitude : (x.shortest .up).magnitude = n * 10 ^ e := by
    rw [hshortest, Decimal.magnitude, Int.natAbs_natCast, neg_neg]
  obtain ⟨hleast, hgreatest⟩ := shortest_extremes x
  constructor
  · by_cases h : x.significand = 1 ∧ x.exponent = -1074
    · rw [← hmagnitude, hleast h, ← Decimal.value_of_nonneg (by decide),
        ← Decimal.value_of_nonneg (by decide)]
      exact (Decimal.atMost_iff (by decide) (by decide)).1 (by decide)
    · exact leastDouble_le_of_nearest hx hnear h
  · by_cases h : x.significand = significandBound - 1 ∧ x.exponent = 971
    · rw [← hmagnitude, hgreatest h]
    · exact le_greatestDouble_of_nearest hnear h

end Binary64

end TableExchange
