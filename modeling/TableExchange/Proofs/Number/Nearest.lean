import TableExchange.Proofs.Number.Rounding

/-!
# What rounds to a binary64 number

The rational numbers that round to a magnitude lie around it, up to half way to its neighbours; the
ends belong to it if its significand is even. Below a power of two the numbers lie twice as dense,
so that the half way there is shorter.

* `Binary64.Finite.Nearest`: what rounds to a magnitude.
* `Binary64.ofRatio_of_nearest`: it does. Where the number lies below the power of two, it is
  rounded with one bit more, and carries into that power.
-/

namespace TableExchange

namespace Binary64

/-! ## Magnitudes -/

theorem cast_significandBound : (significandBound : ℚ) = 2 ^ 53 := by
  unfold significandBound
  norm_num

theorem cast_leadingBit : (leadingBit : ℚ) = 2 ^ 52 := by
  unfold leadingBit
  norm_num

theorem two_zpow_add (e : Int) (n : Nat) : (2 : ℚ) ^ (e + n) = 2 ^ n * 2 ^ e := by
  rw [zpow_add₀ (by norm_num), zpow_natCast, mul_comm]

theorem two_zpow_succ (e : Int) : (2 : ℚ) ^ (e + 1) = 2 * 2 ^ e := by
  rw [zpow_add_one₀ (by norm_num), mul_comm]

theorem two_mul_zpow_le {e e' : Int} (h : e < e') : 2 * (2 : ℚ) ^ e ≤ 2 ^ e' := by
  rw [← two_zpow_succ]
  exact zpow_le_zpow_right₀ (by norm_num) h

namespace Finite

/-- What one step of the significand is worth. -/
def ulp (x : Finite) : ℚ := 2 ^ x.exponent

def magnitude (x : Finite) : ℚ := x.significand * x.ulp

/-- Half way to the next number below, in steps of the significand. -/
def halfBelow (x : Finite) : ℚ :=
  if x.significand = leadingBit ∧ -1074 < x.exponent then 1 / 4 else 1 / 2

/-- A rational number is at most half way to the next numbers away from a magnitude, and less than
that if the significand is odd. -/
structure Nearest (x : Finite) (q : ℚ) : Prop where
  low : (x.significand - x.halfBelow) * x.ulp ≤ q
  high : q ≤ (x.significand + 1 / 2) * x.ulp
  odd : x.significand % 2 = 1 →
    (x.significand - x.halfBelow) * x.ulp < q ∧ q < (x.significand + 1 / 2) * x.ulp

theorem ulp_pos (x : Finite) : 0 < x.ulp := zpow_pos (by norm_num) _

theorem ratio_eq (x : Finite) : (x.ratio.1 : ℚ) / x.ratio.2 = x.magnitude := by
  refine (unscale_ratio (by decide : 0 < 2) x.significand 1 (-x.exponent)).trans ?_
  rw [zpow_neg, Nat.cast_one, div_one, div_inv_eq_mul]
  rfl

theorem ratio_den_pos (x : Finite) : 0 < x.ratio.2 := unscale_den_pos (by decide) (by decide) _

theorem halfBelow_pos (x : Finite) : 0 < x.halfBelow := by
  unfold halfBelow
  split <;> norm_num

theorem halfBelow_le (x : Finite) : x.halfBelow ≤ 1 / 2 := by
  unfold halfBelow
  split <;> norm_num

theorem Nearest.pos {x : Finite} {q : ℚ} (hx : x.significand ≠ 0) (h : x.Nearest q) : 0 < q := by
  have hone : (1 : ℚ) ≤ x.significand := Nat.one_le_cast.2 (Nat.pos_of_ne_zero hx)
  have hhalf := x.halfBelow_le
  exact (mul_pos (by linarith) x.ulp_pos).trans_le h.low

/-- What rounds to a magnitude has no more bits than it may have. -/
theorem Nearest.lt_tooWide {x : Finite} {q : ℚ} (h : x.Nearest q) : q < 2 ^ (x.exponent + 53) := by
  have hbits : (x.significand : ℚ) + 1 ≤ 2 ^ 53 := by
    rw [← cast_significandBound]
    exact_mod_cast x.canonical.1
  rw [show x.exponent + 53 = x.exponent + (53 : Nat) from rfl, two_zpow_add]
  calc q ≤ (x.significand + 1 / 2) * x.ulp := h.high
    _ < 2 ^ 53 * x.ulp := mul_lt_mul_of_pos_right (by linarith) x.ulp_pos

/-- Only to a power of two rounds what has fewer bits, above the least exponent. -/
theorem Nearest.significand_eq {x : Finite} {q : ℚ} (h : x.Nearest q)
    (hbelow : q < 2 ^ (x.exponent + 52)) (hexponent : -1074 < x.exponent) :
    x.significand = leadingBit := by
  obtain ⟨-, -, -, hfill⟩ := x.canonical
  have hle : x.significand ≤ leadingBit := by
    rw [show x.exponent + 52 = x.exponent + (52 : Nat) from rfl, two_zpow_add,
      ← cast_leadingBit] at hbelow
    have hlow := lt_of_mul_lt_mul_right (h.low.trans_lt hbelow) x.ulp_pos.le
    have hhalf := x.halfBelow_le
    have hlt : (x.significand : ℚ) < leadingBit + 1 := by linarith
    exact Nat.le_of_lt_succ (by exact_mod_cast hlt)
  exact le_antisymm hle (hfill.resolve_right (by omega))

end Finite

/-! ## Rounding -/

variable {x : Finite} {num den : Nat} (negative : Bool)

theorem num_ne_zero (h : (0 : ℚ) < num / den) : num ≠ 0 := by
  rintro rfl
  simp at h

/-- The two steps of rounding: the exponent, and the significand under it. -/
theorem ofRatio_of_rounded {m : Nat} {e : Int} (hnum : num ≠ 0)
    (hexponent : max (-1074) (floorLog2 num den - 52) = e)
    (hrounded : roundHalfEven (unscale 2 num den e).1 (unscale 2 num den e).2 = m) :
    ofRatio negative num den =
      if m < significandBound then ofParts negative m e else ofParts negative (m / 2) (e + 1) := by
  rw [ofRatio, if_neg hnum]
  dsimp only
  rw [hexponent, hrounded]

theorem ofParts_of_canonical (x : Finite) :
    ofParts negative x.significand x.exponent = .finite { x with negative } := by
  rw [ofParts, dif_pos x.canonical]

/-- A number that fills as many bits as the magnitude is rounded under its exponent. -/
theorem ofRatio_of_same_exponent (hx : x.significand ≠ 0) (hden : 0 < den)
    (h : x.Nearest ((num : ℚ) / den))
    (hfill : (2 : ℚ) ^ (x.exponent + 52) ≤ num / den ∨ x.exponent = -1074) :
    ofRatio negative num den = .finite { x with negative } := by
  obtain ⟨hbound, hleast, -, -⟩ := x.canonical
  have hpos := h.pos hx
  have hnum := num_ne_zero hpos
  have hulp := x.ulp_pos
  have hratio := unscale_ratio (by decide : 0 < 2) num den x.exponent
  generalize hq : (num : ℚ) / den = q at *
  have hlogHigh :=
    (Int.lt_zpow_iff_log_lt (b := 2) (by decide) hpos).1 (by exact_mod_cast h.lt_tooWide)
  have hexponent : max (-1074) (floorLog2 num den - 52) = x.exponent := by
    rw [floorLog2_eq (Nat.pos_of_ne_zero hnum) hden, hq]
    rcases hfill with hfill | hfill
    · have hlow := (Int.zpow_le_iff_le_log (b := 2) (by decide) hpos).1 (by exact_mod_cast hfill)
      omega
    · omega
  have hrounded : roundHalfEven (unscale 2 num den x.exponent).1 (unscale 2 num den x.exponent).2 =
      x.significand := by
    have hhalf := x.halfBelow_le
    refine (roundHalfEven_eq_iff (unscale_den_pos (by decide) hden _) hratio).2 ⟨?_, ?_, ?_⟩
    · have hlow := (le_div_iff₀ hulp).2 h.low
      exact le_trans (by linarith) hlow
    · exact (div_le_iff₀ hulp).2 h.high
    · intro hodd
      obtain ⟨hlow, hhigh⟩ := h.odd hodd
      exact ⟨lt_of_le_of_lt (by linarith) ((lt_div_iff₀ hulp).2 hlow), (div_lt_iff₀ hulp).2 hhigh⟩
  rw [ofRatio_of_rounded negative hnum hexponent hrounded, if_pos hbound, ofParts_of_canonical]

/-- Below a power of two the significand has one bit more, and is rounded up to it. -/
theorem ofRatio_of_carry (hden : 0 < den) (h : x.Nearest ((num : ℚ) / den))
    (hbelow : (num : ℚ) / den < 2 ^ (x.exponent + 52)) (hexponent : -1074 < x.exponent) :
    ofRatio negative num den = .finite { x with negative } := by
  have hulp := x.ulp_pos
  have hsignificand := h.significand_eq hbelow hexponent
  have hlow := h.low
  rw [Finite.halfBelow, if_pos ⟨hsignificand, hexponent⟩, hsignificand, cast_leadingBit] at hlow
  have hpos : (0 : ℚ) < num / den := h.pos (by rw [hsignificand]; decide)
  have hnum := num_ne_zero hpos
  have hratio := unscale_ratio (by decide : 0 < 2) num den (x.exponent - 1)
  generalize hq : (num : ℚ) / den = q at *
  have hhalved : (2 : ℚ) ^ (x.exponent - 1) = x.ulp / 2 := by
    rw [zpow_sub_one₀ (by norm_num), Finite.ulp, div_eq_mul_inv]
  have hlog : max (-1074) (floorLog2 num den - 52) = x.exponent - 1 := by
    have hlogHigh :=
      (Int.lt_zpow_iff_log_lt (b := 2) (by decide) hpos).1 (by exact_mod_cast hbelow)
    have hlogLow : x.exponent + 51 ≤ Int.log 2 q := by
      refine (Int.zpow_le_iff_le_log (b := 2) (by decide) hpos).1 ?_
      rw [Nat.cast_ofNat, show x.exponent + 51 = x.exponent + (51 : Nat) from rfl, two_zpow_add]
      exact (mul_le_mul_of_nonneg_right (by norm_num) hulp.le).trans hlow
    rw [floorLog2_eq (Nat.pos_of_ne_zero hnum) hden, hq]
    omega
  have hrounded : roundHalfEven (unscale 2 num den (x.exponent - 1)).1
      (unscale 2 num den (x.exponent - 1)).2 = significandBound := by
    rw [Nat.cast_ofNat, hhalved] at hratio
    refine (roundHalfEven_eq_iff (unscale_den_pos (by decide) hden _) hratio).2 ⟨?_, ?_, ?_⟩
    · rw [cast_significandBound, le_div_iff₀ (half_pos hulp)]
      linarith
    · rw [cast_significandBound, div_le_iff₀ (half_pos hulp)]
      rw [show x.exponent + 52 = x.exponent + (52 : Nat) from rfl, two_zpow_add] at hbelow
      have hbelow' : q < 2 ^ 52 * x.ulp := hbelow
      linarith
    · intro hodd
      exact absurd hodd (by decide)
  rw [ofRatio_of_rounded negative hnum hlog hrounded, if_neg (lt_irrefl _),
    show significandBound / 2 = leadingBit from rfl, ← hsignificand, Int.sub_add_cancel,
    ofParts_of_canonical]

/-- **What is nearest to a magnitude rounds to it.** -/
theorem ofRatio_of_nearest (hx : x.significand ≠ 0) (hden : 0 < den)
    (h : x.Nearest ((num : ℚ) / den)) :
    ofRatio negative num den = .finite { x with negative } := by
  by_cases hbelow : (num : ℚ) / den < 2 ^ (x.exponent + 52) ∧ -1074 < x.exponent
  · exact ofRatio_of_carry negative hden h hbelow.1 hbelow.2
  · apply ofRatio_of_same_exponent negative hx hden h
    obtain ⟨-, hleast, -, -⟩ := x.canonical
    rcases not_and_or.1 hbelow with hfill | hexponent
    · exact .inl (not_lt.1 hfill)
    · exact .inr (by omega)

end Binary64

end TableExchange
