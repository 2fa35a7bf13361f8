import TableExchange.Proofs.Number.NearestRounding

/-!
# The numbers of the binary64 format

A rational number that some finite double stands for is at most 53 bits at a place of the format,
whether or not they are in canonical form.

* `Binary64.IsExact`, `Binary64.isExact_iff`: these numbers are the values of the finite doubles.
* `Binary64.IsExact.abs_cases`: none of them lies between the two greatest magnitudes, or beyond.
* `Binary64.IsExact.exists_steps`: each is a whole number of steps away from zero.
* `Binary64.RoundsTo.exact`: each is rounded to itself.
-/

namespace TableExchange

namespace Binary64

variable {q : ℚ} {m : Nat} {e : Int}

/-- A rational number of at most 53 bits, at a place of the format. -/
def IsExact (q : ℚ) : Prop :=
  ∃ (m : Nat) (e : Int), m < 2 ^ 53 ∧ -1074 ≤ e ∧ e ≤ 971 ∧ |q| = m * 2 ^ e

/-- The least magnitude of the format other than zero. -/
def leastStep : ℚ := 2 ^ (-1074 : Int)

/-- The greatest magnitude of the format. -/
def greatestMagnitude : ℚ := (2 ^ 53 - 1) * 2 ^ (971 : Int)

/-! ## Canonical forms -/

/-- Bits that do not fill the significand are moved up, place by place, until they do or the last
place is reached. -/
theorem exists_canonical (negative : Bool) (n : Nat) (he : e = -1074 + n) (hlast : e ≤ 971)
    (hm : m < 2 ^ 53) : ∃ x : Finite, x.negative = negative ∧ x.magnitude = m * 2 ^ e := by
  induction n generalizing m e with
  | zero =>
    have canonical : Canonical m e := ⟨hm, by omega, hlast, .inr (by omega)⟩
    exact ⟨⟨negative, m, e, canonical⟩, rfl, rfl⟩
  | succ n ih =>
    by_cases hfull : leadingBit ≤ m
    · have canonical : Canonical m e := ⟨hm, by omega, hlast, .inl hfull⟩
      exact ⟨⟨negative, m, e, canonical⟩, rfl, rfl⟩
    · have hdouble : 2 * m < 2 ^ 53 := by
        unfold leadingBit at hfull
        rw [Nat.pow_eq] at hfull
        omega
      obtain ⟨x, hsign, hx⟩ := ih (e := e - 1) (by omega) (by omega) hdouble
      refine ⟨x, hsign, hx.trans ?_⟩
      have hstep : (2 : ℚ) ^ e = 2 * 2 ^ (e - 1) := by rw [← two_zpow_succ, sub_add_cancel]
      rw [hstep, Nat.cast_mul, Nat.cast_ofNat]
      ring

/-- The exact numbers are the values of the finite doubles. -/
theorem isExact_iff : IsExact q ↔ ∃ x : Finite, x.value = q := by
  constructor
  · rintro ⟨m, e, hm, hleast, hlast, hq⟩
    obtain ⟨x, hsign, hx⟩ :=
      exists_canonical (decide (q < 0)) (e + 1074).toNat (by omega) hlast hm
    refine ⟨x, ?_⟩
    rw [← hq] at hx
    rw [Finite.value, hsign, hx]
    by_cases hneg : q < 0
    · rw [if_pos (decide_eq_true hneg), abs_of_neg hneg, neg_neg]
    · rw [if_neg (mt of_decide_eq_true hneg), abs_of_nonneg (not_lt.1 hneg)]
  · rintro ⟨x, rfl⟩
    obtain ⟨hbits, hleast, hlast, -⟩ := x.canonical
    exact ⟨x.significand, x.exponent, hbits, hleast, hlast, x.abs_value⟩

/-! ## Magnitudes -/

/-- An exact number is a whole number of least steps away from zero. -/
theorem IsExact.exists_steps (h : IsExact q) : ∃ n : Nat, |q| = n * leastStep := by
  obtain ⟨m, e, -, hleast, -, hq⟩ := h
  refine ⟨m * 2 ^ (e + 1074).toNat, hq.trans ?_⟩
  have hexponent : e = -1074 + (e + 1074).toNat := by omega
  have hstep : (2 : ℚ) ^ e = 2 ^ (e + 1074).toNat * leastStep := by
    rw [leastStep, ← two_zpow_add, ← hexponent]
  rw [hstep, Nat.cast_mul, Nat.cast_pow, Nat.cast_ofNat, mul_assoc]

/-- No exact number lies between the two greatest magnitudes, or beyond the greatest. -/
theorem IsExact.abs_cases (h : IsExact q) :
    |q| = greatestMagnitude ∨ |q| ≤ (2 ^ 53 - 2) * 2 ^ (971 : Int) := by
  obtain ⟨m, e, hm, -, hlast, hq⟩ := h
  have hplace : (0 : ℚ) < 2 ^ (971 : Int) := zpow_pos (by norm_num) _
  rw [hq, greatestMagnitude]
  rcases hlast.lt_or_eq with hlt | rfl
  · have hstep := two_mul_zpow_le hlt
    have hbits : (m : ℚ) ≤ 2 ^ 53 := by exact_mod_cast hm.le
    refine .inr ?_
    calc (m : ℚ) * 2 ^ e ≤ 2 ^ 53 * (2 ^ (971 : Int) / 2) :=
          mul_le_mul hbits (by linarith) (zpow_pos (by norm_num) e).le (by norm_num)
      _ = 2 ^ 52 * 2 ^ (971 : Int) := by ring
      _ ≤ (2 ^ 53 - 2) * 2 ^ (971 : Int) := mul_le_mul_of_nonneg_right (by norm_num) hplace.le
  · rcases Nat.lt_or_ge m (2 ^ 53 - 1) with hless | hmost
    · have hcast : (m : ℚ) + 2 ≤ 2 ^ 53 := by exact_mod_cast (by omega : m + 2 ≤ 2 ^ 53)
      exact .inr (mul_le_mul_of_nonneg_right (by linarith) hplace.le)
    · obtain rfl : m = 2 ^ 53 - 1 := by omega
      exact .inl (by norm_num)

theorem IsExact.abs_lt_overflowBound (h : IsExact q) : |q| < overflowBound := by
  have hplace : (0 : ℚ) < 2 ^ (971 : Int) := zpow_pos (by norm_num) _
  rw [overflowBound_eq]
  rcases h.abs_cases with heq | hle
  · rw [heq, greatestMagnitude]
    exact mul_lt_mul_of_pos_right (by norm_num) hplace
  · exact hle.trans_lt (mul_lt_mul_of_pos_right (by norm_num) hplace)

/-- Bits before the last place of the format, as an integer. -/
theorem abs_lastPlace (m : Nat) : |((m * 2 ^ 971 : Int) : ℚ)| = m * 2 ^ (971 : Int) := by
  have hplace : (2 : ℚ) ^ (971 : Int) = 2 ^ 971 := zpow_natCast 2 971
  have hpos : (0 : ℚ) < 2 ^ 971 := pow_pos (by norm_num) _
  rw [hplace, Int.cast_mul, Int.cast_natCast, Int.cast_pow, Int.cast_ofNat,
    abs_of_nonneg (mul_nonneg (Nat.cast_nonneg m) hpos.le)]

theorem isExact_lastPlace (hm : m < 2 ^ 53) : IsExact ((m * 2 ^ 971 : Int) : ℚ) :=
  ⟨m, 971, hm, by decide, by decide, abs_lastPlace m⟩

/-! ## Rounding -/

/-- An exact number is rounded to itself. -/
theorem RoundsTo.exact {x : Binary64} (h : RoundsTo q x) (hq : IsExact q) :
    ∃ f : Finite, x = .finite f ∧ f.value = q := by
  cases x with
  | finite f =>
    obtain ⟨y, rfl⟩ := isExact_iff.1 hq
    have hnear := h.2.nearest y
    rw [sub_self, abs_zero] at hnear
    exact ⟨f, rfl, (sub_eq_zero.1 (abs_nonpos_iff.1 hnear)).symm⟩
  | infinity negative => exact absurd h.1 hq.abs_lt_overflowBound.not_ge
  | nan => exact h.elim

end Binary64

end TableExchange
