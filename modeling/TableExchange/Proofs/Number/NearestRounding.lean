import TableExchange.Proofs.Number.Neighbours

/-!
# Correct rounding to binary64

A quotient, and so a decimal, is rounded to the binary64 number nearest to it, a half to the even
significand. What lies at or beyond half way from the greatest finite number to the power of two
above it is infinite.

* `Binary64.Rounded`, `Binary64.exists_rounded`: the significand and exponent of a quotient before
  the significand is brought below its bound.
* `Binary64.exists_nearest`, `Binary64.ofRatio_eq_infinity`: what becomes of a quotient below
  `Binary64.overflowBound` and from there on.
* `Binary64.RoundsTo`, `Binary64.ofDecimal_roundsTo`: the number that a rational one rounds to, and
  that a decimal is read as.
-/

namespace TableExchange

namespace Binary64

/-! ## Quotients -/

/-- A significand and an exponent that a rational number is rounded to, before the significand is
brought below its bound. -/
structure Rounded (m : Nat) (e : Int) (q : ℚ) : Prop where
  least : -1074 ≤ e
  full : 2 ^ 52 * 2 ^ e ≤ q ∨ e = -1074
  bits : q < 2 ^ 53 * 2 ^ e
  low : (m - 1 / 2) * 2 ^ e ≤ q
  high : q ≤ (m + 1 / 2) * 2 ^ e
  odd : m % 2 = 1 → (m - 1 / 2) * 2 ^ e < q ∧ q < (m + 1 / 2) * 2 ^ e

variable {m num den : Nat} {e : Int} {q : ℚ} (negative : Bool)

/-- The exponent of a quotient fixes the step of its significand. -/
theorem exists_rounded (hnum : num ≠ 0) (hden : 0 < den) :
    ∃ m e, Rounded m e ((num : ℚ) / den) ∧ ofRatio negative num den =
      if m < significandBound then ofParts negative m e else ofParts negative (m / 2) (e + 1) := by
  obtain ⟨e, he⟩ : ∃ e, max (-1074) (floorLog2 num den - 52) = e := ⟨_, rfl⟩
  obtain ⟨m, hm⟩ : ∃ m, roundHalfEven (unscale 2 num den e).1 (unscale 2 num den e).2 = m :=
    ⟨_, rfl⟩
  refine ⟨m, e, ?_, ofRatio_of_rounded negative hnum he hm⟩
  have hpos : (0 : ℚ) < num / den :=
    div_pos (Nat.cast_pos.2 (Nat.pos_of_ne_zero hnum)) (Nat.cast_pos.2 hden)
  have hstep : (0 : ℚ) < 2 ^ e := zpow_pos (by norm_num) _
  rw [floorLog2_eq (Nat.pos_of_ne_zero hnum) hden] at he
  obtain ⟨hlow, hhigh, hodd⟩ := (roundHalfEven_eq_iff (unscale_den_pos (by decide) hden e)
    (unscale_ratio (by decide) num den e)).1 hm
  rw [Nat.cast_ofNat] at hlow hhigh hodd
  rw [le_div_iff₀ hstep] at hlow
  rw [div_le_iff₀ hstep] at hhigh
  rw [lt_div_iff₀ hstep, div_lt_iff₀ hstep] at hodd
  refine ⟨by omega, ?_, ?_, hlow, hhigh, hodd⟩
  · refine (eq_or_ne e (-1074)).symm.imp_left fun hne => ?_
    rw [← two_zpow_add]
    exact_mod_cast (Int.zpow_le_iff_le_log (b := 2) (by decide) hpos).2 (by omega)
  · rw [← two_zpow_add]
    exact_mod_cast (Int.lt_zpow_iff_log_lt (b := 2) (by decide) hpos).2 (by omega)

namespace Rounded

theorem step_pos (e : Int) : (0 : ℚ) < 2 ^ e := zpow_pos (by norm_num) _

theorem significand_le (h : Rounded m e q) : m ≤ significandBound := by
  have hlt := lt_of_mul_lt_mul_right (h.low.trans_lt h.bits) (step_pos e).le
  have hcast : (m : ℚ) < significandBound + 1 := by
    rw [cast_significandBound]
    linarith
  exact Nat.le_of_lt_succ (by exact_mod_cast hcast)

theorem leadingBit_le (h : Rounded m e q) : leadingBit ≤ m ∨ e = -1074 := by
  refine h.full.imp_left fun hfull => ?_
  have hle := le_of_mul_le_mul_right (hfull.trans h.high) (step_pos e)
  have hcast : (leadingBit : ℚ) < m + 1 := by
    rw [cast_leadingBit]
    linarith
  exact Nat.le_of_lt_succ (by exact_mod_cast hcast)

/-- A significand below its bound is nearest, also where it is a power of two. -/
theorem nearest (h : Rounded m e q) (canonical : Canonical m e) :
    Finite.Nearest ⟨negative, m, e, canonical⟩ q := by
  by_cases hpower : m = leadingBit ∧ -1074 < e
  · have hhalf : Finite.halfBelow ⟨negative, m, e, canonical⟩ = 1 / 4 := if_pos hpower
    obtain ⟨rfl, hleast⟩ := hpower
    have hfull := h.full.resolve_right (by omega)
    refine ⟨?_, h.high, fun hodd => absurd hodd (by decide : ¬leadingBit % 2 = 1)⟩
    rw [hhalf, cast_leadingBit]
    exact le_trans (mul_le_mul_of_nonneg_right (by norm_num) (step_pos e).le) hfull
  · have hhalf : Finite.halfBelow ⟨negative, m, e, canonical⟩ = 1 / 2 := if_neg hpower
    exact ⟨by rw [hhalf]; exact h.low, h.high, by rw [hhalf]; exact h.odd⟩

/-- A significand at its bound carries into the next power of two. -/
theorem nearest_carry (h : Rounded significandBound e q)
    (canonical : Canonical leadingBit (e + 1)) :
    Finite.Nearest ⟨negative, leadingBit, e + 1, canonical⟩ q := by
  have hleast := h.least
  have hlow := h.low
  have hbits := h.bits
  have hstep := step_pos e
  have hulp : Finite.ulp ⟨negative, leadingBit, e + 1, canonical⟩ = 2 * 2 ^ e := two_zpow_succ e
  have hhalf : Finite.halfBelow ⟨negative, leadingBit, e + 1, canonical⟩ = 1 / 4 :=
    if_pos ⟨rfl, by show -1074 < e + 1; omega⟩
  rw [cast_significandBound] at hlow
  refine ⟨?_, ?_, fun hodd => absurd hodd (by decide : ¬leadingBit % 2 = 1)⟩
  · rw [hulp, hhalf, cast_leadingBit]
    linarith
  · rw [hulp, cast_leadingBit]
    linarith

end Rounded

/-! ## The end of the range -/

/-- Half way from the greatest finite number to the power of two above it: from there on, magnitudes
are infinite. -/
def overflowBound : ℚ := 2 ^ 1024 - 2 ^ 970

theorem overflowBound_eq : overflowBound = (2 ^ 53 - 1 / 2) * 2 ^ (971 : Int) := by
  have hpow : (2 : ℚ) ^ (971 : Int) = 2 ^ 970 * 2 := by
    rw [← pow_succ]
    exact zpow_natCast 2 971
  have hbound : (2 : ℚ) ^ 1024 = 2 ^ 970 * 2 * 2 ^ 53 := by
    rw [← pow_succ, ← pow_add]
  rw [overflowBound, hpow, hbound]
  generalize (2 : ℚ) ^ 970 = half
  ring

theorem overflowBound_pos : 0 < overflowBound := by
  rw [overflowBound_eq]
  exact mul_pos (by norm_num) (Rounded.step_pos _)

namespace Rounded

/-- Below the bound the exponent is one of a finite number, also after a carry. -/
theorem exponent_le (h : Rounded m e q) (hq : q < overflowBound) :
    e ≤ 971 ∧ (m = significandBound → e ≤ 970) := by
  have hlast := step_pos 971
  rw [overflowBound_eq] at hq
  have hle : e ≤ 971 := by
    by_contra hlt
    have hstep : 2 * (2 : ℚ) ^ (971 : Int) ≤ 2 ^ e := two_mul_zpow_le (not_le.1 hlt)
    have hfull := h.full.resolve_right (by omega)
    generalize (2 : ℚ) ^ e = step at *
    generalize (2 : ℚ) ^ (971 : Int) = last at *
    linarith
  refine ⟨hle, fun hm => ?_⟩
  by_contra hlt
  obtain rfl : e = 971 := by omega
  have hlow := h.low
  rw [hm, cast_significandBound] at hlow
  linarith

/-- From the bound on it is not. -/
theorem le_exponent (h : Rounded m e q) (hq : overflowBound ≤ q) :
    971 ≤ e ∧ (m < significandBound → 972 ≤ e) := by
  have hlast := step_pos 971
  rw [overflowBound_eq] at hq
  have hle : 971 ≤ e := by
    by_contra hlt
    have hstep : 2 * (2 : ℚ) ^ e ≤ 2 ^ (971 : Int) := two_mul_zpow_le (not_le.1 hlt)
    have hbits := h.bits
    generalize (2 : ℚ) ^ e = step at *
    generalize (2 : ℚ) ^ (971 : Int) = last at *
    linarith
  refine ⟨hle, fun hm => ?_⟩
  by_contra hlt
  obtain rfl : e = 971 := by omega
  have hnext : (m : ℚ) + 1 ≤ 2 ^ 53 := by
    rw [← cast_significandBound]
    exact_mod_cast hm
  have hhigh := le_of_mul_le_mul_right (hq.trans h.high) hlast
  have hcast : (significandBound : ℚ) ≤ m + 1 := by
    rw [cast_significandBound]
    linarith
  obtain rfl : m = significandBound - 1 := by
    have hnat : significandBound ≤ m + 1 := by exact_mod_cast hcast
    omega
  have hodd := lt_of_mul_lt_mul_right (hq.trans_lt (h.odd (by decide)).2) hlast.le
  linarith

end Rounded

theorem not_canonical (he : 971 < e) : ¬Canonical m e := fun h => by
  have hle := h.2.2.1
  omega

/-- Below the bound a quotient is rounded to a magnitude that it is nearest to. -/
theorem exists_nearest (hnum : num ≠ 0) (hden : 0 < den) (hq : (num : ℚ) / den < overflowBound) :
    ∃ x : Finite, ofRatio negative num den = .finite { x with negative } ∧
      x.Nearest ((num : ℚ) / den) := by
  obtain ⟨m, e, hrounded, hratio⟩ := exists_rounded negative hnum hden
  obtain ⟨hle, hcarry⟩ := hrounded.exponent_le hq
  have hleast := hrounded.least
  rw [hratio]
  by_cases hm : m < significandBound
  · have canonical : Canonical m e := ⟨hm, hleast, hle, hrounded.leadingBit_le⟩
    rw [if_pos hm]
    exact ⟨_, ofParts_of_canonical negative ⟨negative, m, e, canonical⟩,
      hrounded.nearest negative canonical⟩
  · obtain rfl : m = significandBound := le_antisymm hrounded.significand_le (not_lt.1 hm)
    have hlast := hcarry rfl
    have canonical : Canonical leadingBit (e + 1) :=
      ⟨by decide, by omega, by omega, .inl (le_refl _)⟩
    rw [if_neg hm]
    exact ⟨_, ofParts_of_canonical negative ⟨negative, leadingBit, e + 1, canonical⟩,
      hrounded.nearest_carry negative canonical⟩

/-- From the bound on it is infinite. -/
theorem ofRatio_eq_infinity (hden : 0 < den) (hq : overflowBound ≤ (num : ℚ) / den) :
    ofRatio negative num den = .infinity negative := by
  obtain ⟨m, e, hrounded, hratio⟩ :=
    exists_rounded negative (num_ne_zero (overflowBound_pos.trans_le hq)) hden
  obtain ⟨hle, hlt⟩ := hrounded.le_exponent hq
  rw [hratio]
  split
  · next hm =>
    have hlast := hlt hm
    exact dif_neg (not_canonical (by omega))
  · exact dif_neg (not_canonical (by omega))

/-! ## Decimals -/

/-- A rational number rounds to a number of the format: to the finite one that is nearest, unless it
lies beyond half way from the greatest of these to the next power of two. -/
def RoundsTo (q : ℚ) : Binary64 → Prop
  | .finite x => |q| < overflowBound ∧ x.NearestTo q
  | .infinity negative => overflowBound ≤ |q| ∧ negative = decide (q < 0)
  | .nan => False

/-- A nonzero number is rounded by its magnitude, and keeps its sign. -/
theorem roundsTo_ofRatio (hden : 0 < den) (hne : q ≠ 0) (hq : (num : ℚ) / den = |q|) :
    RoundsTo q (ofRatio (decide (q < 0)) num den) := by
  have hnum : num ≠ 0 := num_ne_zero (hq ▸ abs_pos.2 hne)
  rcases lt_or_ge |q| overflowBound with hlt | hle
  · obtain ⟨x, hx, hnear⟩ := exists_nearest (decide (q < 0)) hnum hden (hq.trans_lt hlt)
    rw [hx]
    rw [hq] at hnear
    exact ⟨hlt, hnear.nearestTo⟩
  · rw [ofRatio_eq_infinity _ hden (hle.trans_eq hq.symm)]
    exact ⟨hle, rfl⟩

/-- What is at most half of the least magnitude rounds to zero. -/
theorem roundsTo_zero (hq : |q| ≤ 2 ^ (-1075 : Int)) :
    RoundsTo q (.zero (decide (q < 0))) := by
  have hhalf : (2 : ℚ) ^ (-1074 : Int) = 2 * 2 ^ (-1075 : Int) := by
    rw [← two_zpow_succ]
    rfl
  have hnear : Finite.Nearest ⟨false, 0, -1074, by decide⟩ |q| := by
    have hpos : (0 : ℚ) < 2 ^ (-1075 : Int) := zpow_pos (by norm_num) _
    refine ⟨?_, ?_, fun h => by cases h⟩
    · show ((0 : Nat) - (1 / 2 : ℚ)) * 2 ^ (-1074 : Int) ≤ |q|
      rw [hhalf, Nat.cast_zero]
      linarith [abs_nonneg q]
    · show |q| ≤ ((0 : Nat) + 1 / 2) * 2 ^ (-1074 : Int)
      rw [hhalf, Nat.cast_zero]
      linarith
  refine ⟨hq.trans_lt ?_, hnear.nearestTo⟩
  rw [overflowBound_eq]
  have hstep := zpow_le_zpow_right₀ (by norm_num : (1 : ℚ) ≤ 2) (by decide : (-1075 : Int) ≤ 971)
  exact hstep.trans_lt (lt_mul_of_one_lt_left (Rounded.step_pos 971) (by norm_num))

/-- What lies beyond the horizon on either side is out of the range, or next to zero. -/
theorem horizon_spec : overflowBound ≤ 10 ^ (decimalHorizon + 1) ∧
    (10 : ℚ) ^ (-decimalHorizon) ≤ 2 ^ (-1075 : Int) := by
  constructor
  · have hnat : 2 ^ 1024 ≤ 10 ^ 401 := by decide +kernel
    have hcast : (2 ^ 1024 : ℚ) ≤ 10 ^ 401 := by exact_mod_cast hnat
    have hpos : (0 : ℚ) < 2 ^ 970 := pow_pos (by norm_num) _
    show overflowBound ≤ 10 ^ ((401 : Nat) : Int)
    rw [zpow_natCast, overflowBound]
    exact (sub_le_self _ hpos.le).trans hcast
  · have hnat : 2 ^ 1075 ≤ 10 ^ 400 := by decide +kernel
    have hcast : (2 ^ 1075 : ℚ) ≤ 10 ^ 400 := by exact_mod_cast hnat
    show (10 : ℚ) ^ (-((400 : Nat) : Int)) ≤ 2 ^ (-((1075 : Nat) : Int))
    rw [zpow_neg, zpow_neg, zpow_natCast, zpow_natCast]
    exact inv_anti₀ (pow_pos (by norm_num) _) hcast

/-- **A decimal is read as the nearest number.** -/
theorem ofDecimal_roundsTo (d : Decimal) : RoundsTo d.value (ofDecimal d) := by
  have hsign : decide (d.mantissa < 0) = decide (d.value < 0) := by
    rw [decide_eq_decide, ← not_le, ← Decimal.value_nonneg_iff, not_le]
  have hmagnitude := d.magnitude_eq
  obtain ⟨hfar, hnear⟩ := horizon_spec
  unfold ofDecimal
  dsimp only
  split
  · next hzero =>
    have hvalue := (Decimal.mantissa_eq_zero_iff d).1 hzero
    have hzeroed : RoundsTo d.value (.zero (decide (d.value < 0))) :=
      roundsTo_zero (by rw [hvalue, abs_zero]; exact zpow_nonneg (by norm_num) _)
    rw [hvalue, decide_eq_false (lt_irrefl _)] at hzeroed
    rwa [hvalue]
  · next hne =>
    have hvalue := mt (Decimal.mantissa_eq_zero_iff d).2 hne
    rw [hsign]
    split
    · next hhigh =>
      refine ⟨?_, rfl⟩
      rw [← hmagnitude]
      exact (hfar.trans (zpow_le_zpow_right₀ (by norm_num) hhigh)).trans
        (Decimal.tenPow_le_magnitude hne)
    · split
      · next hlow =>
        refine roundsTo_zero ?_
        rw [← hmagnitude]
        exact (d.magnitude_lt_tenPow.le.trans (zpow_le_zpow_right₀ (by norm_num) hlow)).trans hnear
      · exact roundsTo_ofRatio (unscale_den_pos (by decide) (by decide) _) hvalue
          ((unscale_magnitude d).trans hmagnitude)

end Binary64

end TableExchange
