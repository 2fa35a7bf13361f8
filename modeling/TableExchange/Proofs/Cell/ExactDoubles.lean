import TableExchange.Proofs.Cell.NearestDouble
import TableExchange.Proofs.Number.ExactDoubles

/-!
# Doubles and the range guard

The upper bound of the range guard is the shortest decimal of the greatest double, and that is less
than the double itself. So a decimal that is exactly the greatest double is refused. A decimal that
is any other double passes, unless it has more digits than the guard can compare.

* `compareMagnitude_leastDouble`, `compareMagnitude_greatestDouble`: an exact double against the
  bounds of the guard.
* `isDoubleOverflow_exact`: which exact doubles are refused.
* `Cell.exact_doubles_pass`: the same of cells that hold integers.
-/

namespace TableExchange

open Binary64

variable {d : Decimal} {n : Nat}

/-! ## The lower bound -/

theorem steps_pos (hd : d.mantissa ≠ 0) (hn : d.magnitude = n * leastStep) : 1 ≤ n := by
  have hpos := (Decimal.tenPow_pos _).trans_le (Decimal.tenPow_le_magnitude hd)
  refine Nat.pos_of_ne_zero ?_
  rintro rfl
  rw [hn, Nat.cast_zero, zero_mul] at hpos
  exact lt_irrefl _ hpos

theorem leastStep_eq : leastStep = 1 / 2 ^ 1074 := by
  rw [leastStep, show (-1074 : Int) = -(1074 : Nat) from rfl, zpow_neg, zpow_natCast, one_div]

/-- The least step lies above the lower bound of the guard. -/
theorem leastDouble_le_leastStep : leastDouble.magnitude ≤ leastStep := by
  have hnat : 49 * 2 ^ 1074 ≤ 10 ^ 325 := by decide +kernel
  have hcast : (49 * 2 ^ 1074 : ℚ) ≤ 10 ^ 325 := by exact_mod_cast hnat
  rw [leastDouble_magnitude, leastStep_eq,
    div_le_div_iff₀ (pow_pos (by norm_num) _) (pow_pos (by norm_num) _), one_mul]
  exact hcast

/-- One step above zero, and two, have their first digit where the lower bound has it. -/
theorem leadingExponent_steps (hd : d.mantissa ≠ 0) (hn : d.magnitude = n * leastStep) :
    d.leadingExponent = -324 ↔ n ≤ 2 := by
  have hsteps : (0 : ℚ) < 2 ^ 1074 := pow_pos (by norm_num) _
  have htens : (0 : ℚ) < 10 ^ 323 := pow_pos (by norm_num) _
  have hone : (1 : ℚ) ≤ n := by exact_mod_cast steps_pos hd hn
  rw [leastStep_eq, mul_one_div] at hn
  have hlow : (10 : ℚ) ^ (-324 : Int) ≤ d.magnitude := by
    have hnat : 2 ^ 1074 ≤ 10 ^ 324 := by decide +kernel
    have hcast : (2 ^ 1074 : ℚ) ≤ 10 ^ 324 := by exact_mod_cast hnat
    rw [hn, show (-324 : Int) = -(324 : Nat) from rfl, zpow_neg, zpow_natCast, ← one_div]
    exact (one_div_le_one_div_of_le hsteps hcast).trans (div_le_div_of_nonneg_right hone hsteps.le)
  have hhigh : d.magnitude < (10 : ℚ) ^ (-324 + 1 : Int) ↔ n * 10 ^ 323 < 2 ^ 1074 := by
    rw [hn, show (-324 + 1 : Int) = -(323 : Nat) from rfl, zpow_neg, zpow_natCast, ← one_div,
      div_lt_div_iff₀ hsteps htens, one_mul]
    exact_mod_cast Iff.rfl
  rw [Decimal.leadingExponent_eq_iff hd, and_iff_right hlow, hhigh]
  have htwo : 2 * 10 ^ 323 < 2 ^ 1074 := by decide +kernel
  have hthree : 2 ^ 1074 ≤ 3 * 10 ^ 323 := by decide +kernel
  generalize 10 ^ 323 = unit at *
  generalize 2 ^ 1074 = steps at *
  constructor
  · intro hless
    by_contra hmore
    have hmul := Nat.mul_le_mul_right unit (Nat.not_le.1 hmore)
    omega
  · intro hle
    have hmul := Nat.mul_le_mul_right unit hle
    omega

/-- A whole number of steps is not below the lower bound. One step and two count as if they were,
where they are written with so many digits that the scales decide. -/
theorem compareMagnitude_leastDouble (hd : d.mantissa ≠ 0) (hn : d.magnitude = n * leastStep) :
    Decimal.compareMagnitude d leastDouble = .lt ↔ n ≤ 2 ∧ 2 ^ 32 + 1 < d.digitCount := by
  have hlead := leadingExponent_steps hd hn
  have hleast := Binary64.leadingExponent_leastDouble
  have hscale : leastDouble.scale = 325 := rfl
  have hexponent : d.leadingExponent = d.digitCount - 1 - d.scale := rfl
  have hdigits := d.digitCount_pos
  by_cases hgap : d.leadingExponent = leastDouble.leadingExponent →
      (d.scale - leastDouble.scale).natAbs ≤ Decimal.maxScaleGap
  · have hone : (1 : ℚ) ≤ n := by exact_mod_cast steps_pos hd hn
    have hlow : leastDouble.magnitude ≤ d.magnitude := by
      rw [hn]
      exact leastDouble_le_leastStep.trans
        (le_mul_of_one_le_left (zpow_nonneg (by norm_num) _) hone)
    rw [Decimal.compareMagnitude_eq_of_gap hd (by decide) hgap, compare_lt_iff_lt]
    unfold Decimal.maxScaleGap at hgap
    constructor
    · exact fun hless => absurd hlow hless.not_ge
    · rintro ⟨htwo, hwide⟩
      have hnear := hgap (by rw [hlead.2 htwo, hleast])
      omega
  · obtain ⟨hsame, hwide⟩ := Classical.not_imp.1 hgap
    rw [Decimal.compareMagnitude_of_wide hsame (not_le.1 hwide), compare_lt_iff_lt]
    rw [hleast] at hsame
    unfold Decimal.maxScaleGap at hwide
    omega

/-! ## The upper bound -/

theorem greatestMagnitude_eq : greatestMagnitude = (2 ^ 53 - 1) * 2 ^ 971 := by
  rw [greatestMagnitude]
  exact congrArg _ (zpow_natCast 2 971)

/-- The upper bound of the guard lies between the two greatest doubles. -/
theorem greatestDouble_between : (2 ^ 53 - 2) * 2 ^ (971 : Int) ≤ greatestDouble.magnitude ∧
    greatestDouble.magnitude < greatestMagnitude := by
  have hplace : (2 : ℚ) ^ (971 : Int) = 2 ^ 971 := zpow_natCast 2 971
  rw [greatestDouble_magnitude, greatestMagnitude, hplace]
  constructor
  · have hnat : 9007199254740990 * 2 ^ 971 ≤ 17976931348623157 * 10 ^ 292 := by decide +kernel
    rw [show (2 ^ 53 - 2 : ℚ) = 9007199254740990 by norm_num]
    exact_mod_cast hnat
  · have hnat : 17976931348623157 * 10 ^ 292 < 9007199254740991 * 2 ^ 971 := by decide +kernel
    rw [show (2 ^ 53 - 1 : ℚ) = 9007199254740991 by norm_num]
    exact_mod_cast hnat

theorem leadingExponent_greatest (hd : d.mantissa ≠ 0) (h : d.magnitude = greatestMagnitude) :
    d.leadingExponent = 308 := by
  rw [Decimal.leadingExponent_eq_iff hd, h, greatestMagnitude_eq,
    show (2 ^ 53 - 1 : ℚ) = 9007199254740991 by norm_num]
  constructor
  · have hnat : 10 ^ 308 ≤ 9007199254740991 * 2 ^ 971 := by decide +kernel
    exact_mod_cast hnat
  · have hnat : 9007199254740991 * 2 ^ 971 < 10 ^ 309 := by decide +kernel
    have hcast : (9007199254740991 * 2 ^ 971 : ℚ) < 10 ^ 309 := by exact_mod_cast hnat
    exact hcast.trans_eq (zpow_natCast 10 309).symm

/-- The greatest double, and no other one, is above the upper bound. It does not count as if it were
where it is written with so many digits that the scales decide. -/
theorem compareMagnitude_greatestDouble (hd : d.mantissa ≠ 0)
    (hcases : d.magnitude = greatestMagnitude ∨ d.magnitude ≤ (2 ^ 53 - 2) * 2 ^ (971 : Int)) :
    Decimal.compareMagnitude d greatestDouble = .gt ↔
      d.magnitude = greatestMagnitude ∧ d.digitCount ≤ 2 ^ 32 + 16 := by
  obtain ⟨hsecond, hfirst⟩ := greatestDouble_between
  have hgreatest := Binary64.leadingExponent_greatestDouble
  have hscale : greatestDouble.scale = -292 := rfl
  have hexponent : d.leadingExponent = d.digitCount - 1 - d.scale := rfl
  have hdigits := d.digitCount_pos
  by_cases hgap : d.leadingExponent = greatestDouble.leadingExponent →
      (d.scale - greatestDouble.scale).natAbs ≤ Decimal.maxScaleGap
  · rw [Decimal.compareMagnitude_eq_of_gap hd (by decide) hgap, compare_gt_iff_gt]
    unfold Decimal.maxScaleGap at hgap
    rcases hcases with heq | hle
    · have hlead := leadingExponent_greatest hd heq
      have hnear := hgap (hlead.trans hgreatest.symm)
      exact ⟨fun _ => ⟨heq, by omega⟩, fun _ => heq ▸ hfirst⟩
    · have hbelow := hle.trans hsecond
      exact ⟨fun hgreater => absurd hbelow (not_le.2 hgreater),
        fun ⟨heq, _⟩ => absurd hbelow (heq ▸ hfirst.not_ge)⟩
  · obtain ⟨hsame, hwide⟩ := Classical.not_imp.1 hgap
    rw [Decimal.compareMagnitude_of_wide hsame (not_le.1 hwide), compare_gt_iff_gt]
    rw [hgreatest] at hsame
    unfold Decimal.maxScaleGap at hwide
    omega

/-! ## The guard -/

/-- The exact doubles that the guard refuses: the greatest magnitude, and one step above zero and
two if they are written with more digits than the guard can compare. The greatest passes if it is. -/
def RefusedDouble (d : Decimal) : Prop :=
  d.magnitude = greatestMagnitude ∧ d.digitCount ≤ 2 ^ 32 + 16 ∨
    (d.magnitude = leastStep ∨ d.magnitude = 2 * leastStep) ∧ 2 ^ 32 + 1 < d.digitCount

theorem leastStep_pos : 0 < leastStep := zpow_pos (by norm_num) _

theorem greatestMagnitude_pos : 0 < greatestMagnitude :=
  mul_pos (by norm_num) (zpow_pos (by norm_num) _)

theorem not_refusedDouble_zero (h : d.magnitude = 0) : ¬RefusedDouble d := by
  have hstep := leastStep_pos
  have hgreatest := greatestMagnitude_pos
  rintro (⟨heq, -⟩ | ⟨heq | heq, -⟩) <;> linarith

/-- One step or two, as a number of steps. -/
theorem steps_le_two_iff (hone : 1 ≤ n) (hn : d.magnitude = n * leastStep) :
    n ≤ 2 ↔ d.magnitude = leastStep ∨ d.magnitude = 2 * leastStep := by
  have hstep := leastStep_pos.ne'
  rw [hn, mul_left_inj' hstep, mul_eq_right₀ hstep]
  norm_cast
  omega

theorem isDoubleOverflow_exact (h : IsExact d.value) :
    isDoubleOverflow d = true ↔ RefusedDouble d := by
  by_cases hd : d.mantissa = 0
  · have hzero : isDoubleOverflow d = false := by simp [isDoubleOverflow, Decimal.isZero, hd]
    have hmagnitude : d.magnitude = 0 := by simp [Decimal.magnitude, hd]
    simp [hzero, not_refusedDouble_zero hmagnitude]
  · have habs : d.abs.mantissa ≠ 0 := Int.natCast_ne_zero.2 (Int.natAbs_ne_zero.2 hd)
    obtain ⟨n, hn⟩ := h.exists_steps
    have hcases := h.abs_cases
    rw [← Decimal.magnitude_eq] at hn hcases
    rw [← magnitude_abs] at hcases
    have hlow := compareMagnitude_leastDouble habs ((magnitude_abs d).trans hn)
    have hhigh := compareMagnitude_greatestDouble habs hcases
    rw [Decimal.digitCount_abs] at hlow hhigh
    rw [magnitude_abs] at hhigh
    rw [isDoubleOverflow_eq hd, Bool.or_eq_true, beq_iff_eq, beq_iff_eq, hlow, hhigh,
      steps_le_two_iff (steps_pos hd hn) hn, or_comm, RefusedDouble]

theorem two_mul_leastStep_lt_one : 2 * leastStep < 1 := by
  have hle : leastStep ≤ 2 ^ (-2 : Int) := zpow_le_zpow_right₀ (by norm_num) (by decide)
  rw [show (2 : ℚ) ^ (-2 : Int) = 1 / 4 by norm_num] at hle
  linarith

/-- Of the integers, only the greatest double is refused. -/
theorem refusedDouble_ofInt (n : Int) :
    RefusedDouble (.ofInt n) ↔ |(n : ℚ)| = greatestMagnitude := by
  have hmagnitude : (Decimal.ofInt n).magnitude = |(n : ℚ)| := by
    rw [Decimal.magnitude_eq, Decimal.value_ofInt]
  by_cases hn : n = 0
  · subst hn
    have hzero : |((0 : Int) : ℚ)| = 0 := by rw [Int.cast_zero, abs_zero]
    rw [hzero] at hmagnitude ⊢
    exact iff_of_false (not_refusedDouble_zero hmagnitude) greatestMagnitude_pos.ne
  · have hone : (1 : ℚ) ≤ |(n : ℚ)| := by exact_mod_cast Int.one_le_abs hn
    have hstep := leastStep_pos
    have hsteps := two_mul_leastStep_lt_one
    rw [← hmagnitude] at hone ⊢
    constructor
    · rintro (⟨heq, -⟩ | ⟨heq | heq, -⟩)
      · exact heq
      · linarith
      · linarith
    · intro heq
      have hlead := leadingExponent_greatest (d := .ofInt n) hn heq
      have hexponent : (Decimal.ofInt n).leadingExponent =
          (Decimal.ofInt n).digitCount - 1 - 0 := rfl
      exact .inl ⟨heq, by omega⟩

namespace Cell

/-- An integer that is a double comes back as it, unless it is the greatest. -/
theorem asDouble_exact {n : Int} (h : IsExact n) :
    if |(n : ℚ)| = greatestMagnitude then
      (long (some n)).asDouble =
        .error (.overflow (.ofText (Decimal.ofInt n).preview .double))
    else ∃ x : Finite, (long (some n)).asDouble = .ok (some (.finite x)) ∧ x.value = n := by
  have hvalue := Decimal.value_ofInt n
  rw [← hvalue] at h
  have hguard := (isDoubleOverflow_exact h).trans (refusedDouble_ofInt n)
  have hdouble := asDouble_of_decimal (c := long (some n)) (.long rfl)
  split
  · next hgreatest =>
    rw [hdouble, Converted.given, hguard.2 hgreatest, if_neg (by decide)]
  · next hother =>
    have hpassed := Bool.eq_false_iff.2 (mt hguard.1 hother)
    obtain ⟨x, hx, hback⟩ := (ofDecimal_roundsTo (.ofInt n)).exact h
    exact ⟨x, by rw [hdouble, Converted.given, if_pos hpassed, hx], hback.trans hvalue⟩

/-- **Which doubles pass the range guard.** A decimal that is exactly a finite double passes unless
it is the greatest magnitude, or is one or two steps above zero and has more digits than the guard
can compare. So an integer cell that holds a double gives it back, and only the greatest double is
reported as an overflow. -/
theorem exact_doubles_pass (d : Decimal) (n : Int) :
    (IsExact d.value → (isDoubleOverflow d = true ↔ RefusedDouble d)) ∧
    (IsExact n →
      if |(n : ℚ)| = greatestMagnitude then
        (long (some n)).asDouble =
          .error (.overflow (.ofText (Decimal.ofInt n).preview .double))
      else ∃ x : Finite, (long (some n)).asDouble = .ok (some (.finite x)) ∧ x.value = n) :=
  ⟨isDoubleOverflow_exact, asDouble_exact⟩

/-- The double next to the greatest passes, although it has 309 digits. -/
theorem exact_doubles_pass_second :
    let n : Int := (2 ^ 53 - 2 : Nat) * 2 ^ 971
    IsExact (Decimal.ofInt n).value ∧ isDoubleOverflow (.ofInt n) = false ∧ IsExact n ∧
      ∃ x : Finite, (long (some n)).asDouble = .ok (some (.finite x)) ∧ x.value = n := by
  intro n
  have hexact : IsExact n := isExact_lastPlace (by decide)
  have hother : |(n : ℚ)| ≠ greatestMagnitude := by
    rw [abs_lastPlace, greatestMagnitude]
    exact (mul_lt_mul_of_pos_right (by norm_num) (zpow_pos (by norm_num) _)).ne
  clear_value n
  have hvalue : IsExact (Decimal.ofInt n).value := by rwa [Decimal.value_ofInt]
  have hguard := (exact_doubles_pass (.ofInt n) n).1 hvalue
  have hdouble := (exact_doubles_pass (.ofInt n) n).2 hexact
  rw [if_neg hother] at hdouble
  rw [refusedDouble_ofInt] at hguard
  exact ⟨hvalue, Bool.eq_false_iff.2 (mt hguard.1 hother), hexact, hdouble⟩

/-- The greatest double is exactly a double, and is refused. -/
theorem greatest_double_refused :
    let n : Int := (2 ^ 53 - 1 : Nat) * 2 ^ 971
    IsExact (Decimal.ofInt n).value ∧ isDoubleOverflow (.ofInt n) = true ∧ IsExact n ∧
      (long (some n)).asDouble =
        .error (.overflow (.ofText (Decimal.ofInt n).preview .double)) := by
  intro n
  have hexact : IsExact n := isExact_lastPlace (by decide)
  have hgreatest : |(n : ℚ)| = greatestMagnitude := by
    rw [abs_lastPlace, greatestMagnitude]
    norm_num
  clear_value n
  have hvalue : IsExact (Decimal.ofInt n).value := by rwa [Decimal.value_ofInt]
  have hdouble := asDouble_exact hexact
  rw [if_pos hgreatest] at hdouble
  exact ⟨hvalue, (isDoubleOverflow_exact hvalue).2 ((refusedDouble_ofInt n).2 hgreatest), hexact,
    hdouble⟩

end Cell

end TableExchange
