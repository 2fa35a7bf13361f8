import TableExchange.Proofs.Number.Nearest

/-!
# The neighbours of a binary64 number

The numbers of the format next to a magnitude are one step of its significand above it and one step,
or half of one below a power of two, below it. So what lies within half way to them is nearer to the
magnitude than to any other number, zero and the subnormal numbers included.

* `Binary64.Finite.above_le`, `Binary64.Finite.le_below`: the next numbers away from a magnitude.
* `Binary64.Finite.NearestTo`: the number nearest to a rational one.
* `Binary64.Finite.Nearest.nearestTo`: what rounds to a magnitude is nearest to it.
* `Binary64.isStrictlyBetween_iff`: numbers between two integers.
-/

namespace TableExchange

namespace Binary64

namespace Finite

variable {x y : Finite} {q : ℚ}

/-- The rational number that a finite number stands for; both zeros stand for zero. -/
def value (x : Finite) : ℚ := if x.negative then -x.magnitude else x.magnitude

theorem magnitude_nonneg (x : Finite) : 0 ≤ x.magnitude :=
  mul_nonneg (Nat.cast_nonneg _) x.ulp_pos.le

theorem abs_value (x : Finite) : |x.value| = x.magnitude := by
  unfold value
  split
  · rw [abs_neg, abs_of_nonneg x.magnitude_nonneg]
  · rw [abs_of_nonneg x.magnitude_nonneg]

theorem value_not (x : Finite) : value { x with negative := !x.negative } = -x.value := by
  obtain ⟨negative, m, e, canonical⟩ := x
  cases negative
  · rfl
  · exact (neg_neg _).symm

theorem value_eq (x : Finite) :
    x.value = ((if x.negative then -x.ratio.1 else x.ratio.1 : Int) : ℚ) / x.ratio.2 := by
  unfold value
  split
  · rw [← x.ratio_eq, Int.cast_neg, Int.cast_natCast, neg_div]
  · rw [← x.ratio_eq, Int.cast_natCast]

/-! ## Neighbours -/

/-- Where the exponent is not less, a magnitude is a whole number of steps. -/
theorem exists_steps (h : x.exponent ≤ y.exponent) : ∃ n : Nat, y.magnitude = n * x.ulp := by
  refine ⟨y.significand * 2 ^ (y.exponent - x.exponent).toNat, ?_⟩
  have hexponent : y.exponent = x.exponent + (y.exponent - x.exponent).toNat := by omega
  have hulp : y.ulp = 2 ^ (y.exponent - x.exponent).toNat * x.ulp := by
    rw [ulp, ulp, ← two_zpow_add, ← hexponent]
  rw [magnitude, hulp, Nat.cast_mul, Nat.cast_pow, Nat.cast_ofNat, mul_assoc]

/-- A number of a smaller exponent lies at least half a step below the least full significand. -/
theorem magnitude_le_of_exponent_lt (h : y.exponent < x.exponent) :
    y.magnitude ≤ (2 ^ 52 - 1 / 2) * x.ulp := by
  have hbits : (y.significand : ℚ) + 1 ≤ 2 ^ 53 := by
    rw [← cast_significandBound]
    exact_mod_cast y.canonical.1
  have hulp : y.ulp ≤ x.ulp / 2 := (le_div_iff₀' (by norm_num)).2 (two_mul_zpow_le h)
  calc y.magnitude ≤ (2 ^ 53 - 1) * (x.ulp / 2) :=
        mul_le_mul (by linarith) hulp y.ulp_pos.le (by norm_num)
    _ = (2 ^ 52 - 1 / 2) * x.ulp := by ring

theorem leadingBit_le (h : -1074 < x.exponent) : leadingBit ≤ x.significand :=
  x.canonical.2.2.2.resolve_right (by omega)

/-- The next number above a magnitude is one step away. -/
theorem above_le (h : x.magnitude < y.magnitude) :
    (x.significand + 1) * x.ulp ≤ y.magnitude := by
  rcases le_or_gt x.exponent y.exponent with hexponent | hexponent
  · obtain ⟨n, hn⟩ := exists_steps hexponent
    rw [hn] at h ⊢
    have hlt : (x.significand : ℚ) < n := lt_of_mul_lt_mul_right h x.ulp_pos.le
    refine mul_le_mul_of_nonneg_right ?_ x.ulp_pos.le
    exact_mod_cast hlt
  · have hfull : (2 ^ 52 : ℚ) ≤ x.significand := by
      rw [← cast_leadingBit]
      exact_mod_cast leadingBit_le (y.canonical.2.1.trans_lt hexponent)
    have hle : y.magnitude ≤ x.magnitude :=
      (magnitude_le_of_exponent_lt hexponent).trans
        (mul_le_mul_of_nonneg_right (by linarith) x.ulp_pos.le)
    exact absurd h hle.not_gt

/-- The next number below a magnitude is twice the half way down. -/
theorem le_below (h : y.magnitude < x.magnitude) :
    y.magnitude ≤ (x.significand - 2 * x.halfBelow) * x.ulp := by
  have hhalf := x.halfBelow_le
  rcases le_or_gt x.exponent y.exponent with hexponent | hexponent
  · obtain ⟨n, hn⟩ := exists_steps hexponent
    rw [hn] at h ⊢
    have hlt : (n : ℚ) < x.significand := lt_of_mul_lt_mul_right h x.ulp_pos.le
    have hle : (n : ℚ) + 1 ≤ x.significand := by exact_mod_cast hlt
    exact mul_le_mul_of_nonneg_right (by linarith) x.ulp_pos.le
  · have hleast := y.canonical.2.1.trans_lt hexponent
    refine (magnitude_le_of_exponent_lt hexponent).trans
      (mul_le_mul_of_nonneg_right ?_ x.ulp_pos.le)
    rcases (leadingBit_le hleast).eq_or_lt with hfull | hfull
    · rw [halfBelow, if_pos ⟨hfull.symm, hleast⟩, ← hfull, cast_leadingBit]
      norm_num
    · have hcast : (2 ^ 52 : ℚ) + 1 ≤ x.significand := by
        rw [← cast_leadingBit]
        exact_mod_cast hfull
      linarith

/-- Every number of the format has the magnitude, or lies beyond one of these neighbours. -/
theorem value_cases (x y : Finite) : y.value = x.magnitude ∨
    (x.significand + 1) * x.ulp ≤ y.value ∨
    y.value ≤ (x.significand - 2 * x.halfBelow) * x.ulp := by
  unfold value
  split
  · have hy := y.magnitude_nonneg
    by_cases hx : x.significand = 0
    · have hhalf : x.halfBelow = 1 / 2 := by
        rw [halfBelow, if_neg (by rw [hx]; rintro ⟨h, -⟩; exact absurd h (by decide))]
      have hmagnitude : x.magnitude = 0 := by rw [magnitude, hx, Nat.cast_zero, zero_mul]
      rcases hy.eq_or_lt with hzero | hpos
      · exact .inl (by rw [← hzero, neg_zero, hmagnitude])
      · have habove := above_le (hmagnitude.trans_lt hpos)
        rw [hhalf]
        rw [hx, Nat.cast_zero] at habove ⊢
        exact .inr (.inr (by linarith))
    · have hone : (1 : ℚ) ≤ x.significand := Nat.one_le_cast.2 (Nat.pos_of_ne_zero hx)
      have hhalf := x.halfBelow_le
      have hbelow : 0 ≤ (x.significand - 2 * x.halfBelow) * x.ulp :=
        mul_nonneg (by linarith) x.ulp_pos.le
      exact .inr (.inr (by linarith))
  · rcases lt_trichotomy y.magnitude x.magnitude with h | h | h
    · exact .inr (.inr (le_below h))
    · exact .inl h
    · exact .inr (.inl (above_le h))

/-! ## Distances -/

theorem abs_sub_le_iff {a b : ℚ} : |q - a| ≤ |q - b| ↔ 0 ≤ (a - b) * (2 * q - (a + b)) := by
  rw [← sq_le_sq, ← sub_nonneg]
  exact iff_of_eq (congrArg _ (by ring))

theorem abs_sub_lt_iff {a b : ℚ} : |q - a| < |q - b| ↔ 0 < (a - b) * (2 * q - (a + b)) := by
  rw [← sq_lt_sq, ← sub_pos]
  exact iff_of_eq (congrArg _ (by ring))

/-- No number of the format is nearer than a magnitude, whatever the sign. -/
theorem Nearest.abs_sub_le (h : x.Nearest q) (y : Finite) :
    |q - x.magnitude| ≤ |q - y.value| := by
  have hlow := h.low
  have hhigh := h.high
  have hulp := x.ulp_pos
  have hhalf := mul_pos x.halfBelow_pos hulp
  rw [abs_sub_le_iff, magnitude]
  rcases value_cases x y with heq | habove | hbelow
  · rw [heq, magnitude, sub_self, zero_mul]
  · exact mul_nonneg_of_nonpos_of_nonpos (by linarith) (by linarith)
  · exact mul_nonneg (by linarith) (by linarith)

/-- Where another one is as near, the significand is even. -/
theorem Nearest.even_of_tie (h : x.Nearest q) (hne : y.value ≠ x.magnitude)
    (htie : |q - y.value| = |q - x.magnitude|) : x.significand % 2 = 0 := by
  refine Nat.mod_two_ne_one.1 fun hodd => ?_
  obtain ⟨hlow, hhigh⟩ := h.odd hodd
  have hulp := x.ulp_pos
  have hhalf := mul_pos x.halfBelow_pos hulp
  refine (abs_sub_lt_iff.2 ?_).ne' htie
  rw [magnitude]
  rcases (value_cases x y).resolve_left hne with habove | hbelow
  · exact mul_pos_of_neg_of_neg (by linarith) (by linarith)
  · exact mul_pos (by linarith) (by linarith)

/-- A finite number is the nearest one to a rational number and has its sign; where one of another
value is as near, its own significand is the even one. -/
structure NearestTo (x : Finite) (q : ℚ) : Prop where
  sign : x.negative = decide (q < 0)
  nearest : ∀ y : Finite, |q - x.value| ≤ |q - y.value|
  even : ∀ y : Finite, y.value ≠ x.value → |q - y.value| = |q - x.value| → x.significand % 2 = 0

/-- What rounds to a magnitude has it, with its own sign, as the nearest number. -/
theorem Nearest.nearestTo (h : x.Nearest |q|) :
    NearestTo { x with negative := decide (q < 0) } q := by
  by_cases hq : q < 0
  · rw [abs_of_neg hq] at h
    have hvalue : value { x with negative := decide (q < 0) } = -x.magnitude :=
      if_pos (decide_eq_true hq)
    -- the distances are those on the other side of zero
    have hmirror : ∀ v : ℚ, |-q - -v| = |q - v| := fun v => by
      rw [← abs_neg, neg_sub_neg, neg_sub]
    refine ⟨rfl, fun y => ?_, fun y hne htie => ?_⟩
    · have hle := h.abs_sub_le { y with negative := !y.negative }
      rwa [value_not, hmirror, ← neg_neg x.magnitude, hmirror, ← hvalue] at hle
    · show x.significand % 2 = 0
      refine h.even_of_tie (y := { y with negative := !y.negative }) ?_ ?_
      · rw [value_not, Ne, neg_eq_iff_eq_neg, ← hvalue]
        exact hne
      · rw [value_not, hmirror, ← neg_neg x.magnitude, hmirror, ← hvalue]
        exact htie
  · rw [abs_of_nonneg (not_lt.1 hq)] at h
    have hvalue : value { x with negative := decide (q < 0) } = x.magnitude :=
      if_neg (mt of_decide_eq_true hq)
    refine ⟨rfl, fun y => ?_, fun y hne htie => ?_⟩
    · rw [hvalue]
      exact h.abs_sub_le y
    · rw [hvalue] at hne htie
      exact h.even_of_tie hne htie

end Finite

/-- A number lies strictly between two integers if it is finite and its value does. -/
theorem isStrictlyBetween_iff {low high : Int} {x : Binary64} :
    x.isStrictlyBetween low high = true ↔
      ∃ y : Finite, x = .finite y ∧ (low : ℚ) < y.value ∧ y.value < high := by
  cases x with
  | nan | infinity negative => simp [isStrictlyBetween]
  | finite y =>
    have hden : (0 : ℚ) < y.ratio.2 := Nat.cast_pos.2 y.ratio_den_pos
    have hsides : (low : ℚ) < y.value ∧ y.value < high ↔
        low * y.ratio.2 < (if y.negative then -y.ratio.1 else y.ratio.1 : Int) ∧
          (if y.negative then -y.ratio.1 else y.ratio.1 : Int) < high * y.ratio.2 := by
      rw [y.value_eq, lt_div_iff₀ hden, div_lt_iff₀ hden]
      exact_mod_cast Iff.rfl
    simp [isStrictlyBetween, hsides]

end Binary64

end TableExchange
