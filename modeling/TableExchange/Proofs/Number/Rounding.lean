import Mathlib.Algebra.Order.Field.Basic
import Mathlib.Data.Int.Log
import Mathlib.Data.Rat.Floor
import TableExchange.Number.Binary64
import TableExchange.Proofs.Number.DecimalValue

/-!
# What rounding to binary64 depends on

A quotient is rounded by way of its numerator and its denominator, and a decimal by way of its
mantissa and its scale. The result depends on the rational number alone.

* `Binary64.floorLog_of_exponents`, `Binary64.floorLog2_eq`: the exponent of a quotient, to any base
  and to base two.
* `Binary64.HalfEven`, `Binary64.roundHalfEven_eq_iff`: the integer that a quotient is rounded to.
* `Binary64.ofRatio_congr`: equal quotients are rounded alike.
* `Decimal.leadingExponent_eq`, `Binary64.ofDecimal_congr`: decimals of one value have one leading
  exponent and are rounded alike.
-/

namespace TableExchange

namespace Binary64

/-! ## Scaled quotients -/

theorem unscale_den_pos {base num den : Nat} (hbase : 0 < base) (hden : 0 < den) (e : Int) :
    0 < (unscale base num den e).2 := by
  unfold unscale
  split
  · exact Nat.mul_pos hden (Nat.pow_pos hbase)
  · exact hden

theorem unscale_ratio {base : Nat} (hbase : 0 < base) (num den : Nat) (e : Int) :
    ((unscale base num den e).1 : ℚ) / (unscale base num den e).2 = num / den / base ^ e := by
  have hne : (base : ℚ) ≠ 0 := Nat.cast_ne_zero.2 hbase.ne'
  unfold unscale
  split
  · next h =>
    have hpow : (base : ℚ) ^ e = base ^ e.toNat := by
      rw [← zpow_natCast, Int.toNat_of_nonneg h]
    rw [hpow, Nat.pow_eq, Nat.cast_mul, Nat.cast_pow, div_div]
  · next h =>
    have hpow : (base : ℚ) ^ (-e) = base ^ (-e).toNat := by
      rw [← zpow_natCast, Int.toNat_of_nonneg (by omega)]
    rw [Nat.pow_eq, Nat.cast_mul, Nat.cast_pow, ← hpow, zpow_neg, ← div_eq_mul_inv,
      div_right_comm]

/-! ## Exponents of quotients -/

section
variable {base num den : Nat} (hbase : 1 < base)
include hbase

/-- A guess that is right or too great by one leads to the exponent of a quotient. -/
theorem floorLog_eq {guess : Int} (hden : 0 < den)
    (hlow : (base : ℚ) ^ (guess - 1) ≤ num / den)
    (hhigh : (num : ℚ) / den < (base : ℚ) ^ (guess + 1)) :
    floorLog base num den guess = Int.log base ((num : ℚ) / den) := by
  have hcast : (0 : ℚ) < base := Nat.cast_pos.2 (by omega)
  have hpos : (0 : ℚ) < num / den := lt_of_lt_of_le (zpow_pos hcast _) hlow
  have hratio := unscale_ratio (by omega : 0 < base) num den guess
  have hscaled : (0 : ℚ) < (unscale base num den guess).2 :=
    Nat.cast_pos.2 (unscale_den_pos (by omega) hden guess)
  have hguess : (unscale base num den guess).2 ≤ (unscale base num den guess).1 ↔
      (base : ℚ) ^ guess ≤ num / den := by
    rw [← Nat.cast_le (α := ℚ), ← one_le_div hscaled, hratio, one_le_div (zpow_pos hcast _)]
  have hlogLow := (Int.lt_zpow_iff_log_lt hbase hpos).1 hhigh
  have hlogHigh := (Int.zpow_le_iff_le_log hbase hpos).1 hlow
  have hlog := Int.zpow_le_iff_le_log (x := guess) hbase hpos
  unfold floorLog
  dsimp only
  split
  · next h =>
    have := hlog.1 (hguess.1 h)
    omega
  · next h =>
    have := mt hlog.2 (mt hguess.2 h)
    omega

/-- The exponents of numerator and denominator give such a guess. -/
theorem floorLog_of_exponents {k l : Int} (hnum : (base : ℚ) ^ k ≤ num)
    (hnum' : (num : ℚ) < (base : ℚ) ^ (k + 1)) (hden : (base : ℚ) ^ l ≤ den)
    (hden' : (den : ℚ) < (base : ℚ) ^ (l + 1)) :
    floorLog base num den (k - l) = Int.log base ((num : ℚ) / den) := by
  have hcast : (0 : ℚ) < base := Nat.cast_pos.2 (by omega)
  have hpos : (0 : ℚ) < den := (zpow_pos hcast l).trans_le hden
  apply floorLog_eq hbase (Nat.cast_pos.1 hpos)
  · rw [le_div_iff₀ hpos]
    calc (base : ℚ) ^ (k - l - 1) * den ≤ (base : ℚ) ^ (k - l - 1) * (base : ℚ) ^ (l + 1) :=
          mul_le_mul_of_nonneg_left hden'.le (zpow_nonneg hcast.le _)
      _ = (base : ℚ) ^ k := by
          rw [← zpow_add₀ hcast.ne']
          congr 1
          omega
      _ ≤ num := hnum
  · rw [div_lt_iff₀ hpos]
    calc (num : ℚ) < (base : ℚ) ^ (k + 1) := hnum'
      _ = (base : ℚ) ^ (k - l + 1) * (base : ℚ) ^ l := by
          rw [← zpow_add₀ hcast.ne']
          congr 1
          omega
      _ ≤ (base : ℚ) ^ (k - l + 1) * den :=
          mul_le_mul_of_nonneg_left hden (zpow_nonneg hcast.le _)

end

theorem pow_log2_le {n : Nat} (hn : 0 < n) : ((2 : Nat) : ℚ) ^ (n.log2 : Int) ≤ n := by
  rw [zpow_natCast]
  exact_mod_cast Nat.log2_self_le hn.ne'

theorem lt_pow_log2 (n : Nat) : (n : ℚ) < ((2 : Nat) : ℚ) ^ ((n.log2 : Int) + 1) := by
  have hlt : n < 2 ^ (n.log2 + 1) := Nat.lt_log2_self
  exact_mod_cast hlt

theorem floorLog2_eq {num den : Nat} (hnum : 0 < num) (hden : 0 < den) :
    floorLog2 num den = Int.log 2 ((num : ℚ) / den) :=
  floorLog_of_exponents (by decide) (pow_log2_le hnum) (lt_pow_log2 num) (pow_log2_le hden)
    (lt_pow_log2 den)

/-! ## Rounding -/

/-- An integer that a rational number is rounded to: it is at most one half away, and less if it is
odd. -/
structure HalfEven (q : ℚ) (m : Nat) : Prop where
  low : m - 1 / 2 ≤ q
  high : q ≤ m + 1 / 2
  odd : m % 2 = 1 → m - 1 / 2 < q ∧ q < m + 1 / 2

theorem HalfEven.le {q : ℚ} {m n : Nat} (h : HalfEven q m) (h' : HalfEven q n) : n ≤ m := by
  by_contra hlt
  have hnext : m + 1 ≤ n := Nat.not_le.1 hlt
  have hcast : (m + 1 : ℚ) ≤ n := by exact_mod_cast hnext
  have hlow := h'.low
  have hhigh := h.high
  -- the number is half way between two neighbours, of which one is odd
  have hle : (n : ℚ) ≤ (m + 1 : Nat) := by
    push_cast
    linarith
  obtain rfl : n = m + 1 := Nat.le_antisymm (by exact_mod_cast hle) hnext
  rcases Nat.mod_two_eq_zero_or_one m with heven | hodd
  · have := (h'.odd (by omega)).1
    push_cast at this
    linarith
  · have := (h.odd hodd).2
    linarith

theorem halfEven_roundHalfEven (num : Nat) {den : Nat} (hden : 0 < den) :
    HalfEven (num / den) (roundHalfEven num den) := by
  have hpos : (0 : ℚ) < den := Nat.cast_pos.2 hden
  have hmod : ((num % den : Nat) : ℚ) < den := by exact_mod_cast Nat.mod_lt num hden
  have hsum : (num : ℚ) = den * (num / den : Nat) + (num % den : Nat) := by
    exact_mod_cast (Nat.div_add_mod num den).symm
  have hquotient : (num : ℚ) / den = (num / den : Nat) + (num % den : Nat) / den := by
    rw [div_eq_iff hpos.ne', add_mul, div_mul_cancel₀ _ hpos.ne', mul_comm]
    exact hsum
  rw [hquotient]
  unfold roundHalfEven
  dsimp only
  generalize num / den = n
  generalize num % den = r at *
  -- the fraction is compared with one half
  have hnonneg : (0 : ℚ) ≤ r / den := by positivity
  have hless : (r : ℚ) / den < 1 := (div_lt_one hpos).2 hmod
  have hnext : ((n + 1 : Nat) : ℚ) = n + 1 := Nat.cast_succ n
  split
  · next hbelow =>
    have hhalf : (r : ℚ) / den < 1 / 2 := by
      rw [div_lt_div_iff₀ hpos two_pos]
      exact_mod_cast (by omega : r * 2 < 1 * den)
    exact ⟨by linarith, by linarith, fun _ => ⟨by linarith, by linarith⟩⟩
  · next hbelow =>
    split
    · next habove =>
      have hhalf : 1 / 2 < (r : ℚ) / den := by
        rw [div_lt_div_iff₀ two_pos hpos]
        exact_mod_cast (by omega : 1 * den < r * 2)
      exact ⟨by linarith, by linarith, fun _ => ⟨by linarith, by linarith⟩⟩
    · next habove =>
      have hhalf : (r : ℚ) / den = 1 / 2 := by
        rw [div_eq_div_iff hpos.ne' two_ne_zero]
        exact_mod_cast (by omega : r * 2 = 1 * den)
      rw [hhalf]
      split
      · next heven => exact ⟨by linarith, by linarith, fun hodd => absurd hodd (by omega)⟩
      · next hodd => exact ⟨by linarith, by linarith, fun heven => absurd heven (by omega)⟩

theorem roundHalfEven_eq_iff {num den m : Nat} {q : ℚ} (hden : 0 < den)
    (hq : (num : ℚ) / den = q) : roundHalfEven num den = m ↔ HalfEven q m := by
  subst hq
  have hrounded := halfEven_roundHalfEven num hden
  refine ⟨fun h => h ▸ hrounded, fun h => ?_⟩
  exact Nat.le_antisymm (h.le hrounded) (hrounded.le h)

/-- Equal quotients are rounded to one integer. -/
theorem roundHalfEven_congr {a b c d : Nat} (hb : 0 < b) (hd : 0 < d)
    (h : (a : ℚ) / b = c / d) : roundHalfEven a b = roundHalfEven c d := by
  rw [roundHalfEven_eq_iff hb h]
  exact halfEven_roundHalfEven c hd

/-- Equal quotients are rounded alike. -/
theorem ofRatio_congr (negative : Bool) {num den num' den' : Nat} (hden : 0 < den)
    (hden' : 0 < den') (h : (num : ℚ) / den = num' / den') :
    ofRatio negative num den = ofRatio negative num' den' := by
  have hzero : num = 0 ↔ num' = 0 := by
    have hquotient : ∀ {m n : Nat}, 0 < n → (m = 0 ↔ (m : ℚ) / n = 0) := by
      intro m n hn
      rw [div_eq_zero_iff, or_iff_left (Nat.cast_ne_zero.2 hn.ne'), Nat.cast_eq_zero]
    rw [hquotient hden, h, ← hquotient hden']
  by_cases hnum : num = 0
  · rw [ofRatio, ofRatio, if_pos hnum, if_pos (hzero.1 hnum)]
  · have hnum' := mt hzero.2 hnum
    have hexponent : floorLog2 num den = floorLog2 num' den' := by
      rw [floorLog2_eq (Nat.pos_of_ne_zero hnum) hden, h,
        floorLog2_eq (Nat.pos_of_ne_zero hnum') hden']
    have hrounded : ∀ e, roundHalfEven (unscale 2 num den e).1 (unscale 2 num den e).2 =
        roundHalfEven (unscale 2 num' den' e).1 (unscale 2 num' den' e).2 := by
      intro e
      apply roundHalfEven_congr (unscale_den_pos (by decide) hden e)
        (unscale_den_pos (by decide) hden' e)
      rw [unscale_ratio (by decide), unscale_ratio (by decide), h]
    simp only [ofRatio, if_neg hnum, if_neg hnum', hexponent, hrounded]

end Binary64

/-! ## Decimals -/

namespace Decimal

variable {a b : Decimal}

/-- The leading exponent of a number other than zero is the place of its first digit. -/
theorem leadingExponent_eq {d : Decimal} (h : d.mantissa ≠ 0) :
    d.leadingExponent = Int.log 10 d.magnitude := by
  have hpos : 0 < d.magnitude := (tenPow_pos _).trans_le (tenPow_le_magnitude h)
  have hlow := (Int.zpow_le_iff_le_log (b := 10) (by decide) hpos).1
    (by exact_mod_cast tenPow_le_magnitude h)
  have hhigh := (Int.lt_zpow_iff_log_lt (b := 10) (by decide) hpos).1
    (by exact_mod_cast d.magnitude_lt_tenPow)
  omega

theorem leadingExponent_eq_iff {d : Decimal} (h : d.mantissa ≠ 0) (n : Int) :
    d.leadingExponent = n ↔ 10 ^ n ≤ d.magnitude ∧ d.magnitude < 10 ^ (n + 1) := by
  have hpos : 0 < d.magnitude := (tenPow_pos _).trans_le (tenPow_le_magnitude h)
  have hlow := Int.zpow_le_iff_le_log (b := 10) (x := n) (by decide) hpos
  have hhigh := Int.lt_zpow_iff_log_lt (b := 10) (x := n + 1) (by decide) hpos
  rw [Nat.cast_ofNat] at hlow hhigh
  rw [leadingExponent_eq h, hlow, hhigh]
  omega

theorem leadingExponent_congr (hvalue : a.value = b.value) (h : a.mantissa ≠ 0) :
    a.leadingExponent = b.leadingExponent := by
  have hb : b.mantissa ≠ 0 := by
    rwa [Ne, mantissa_eq_zero_iff, ← hvalue, ← mantissa_eq_zero_iff]
  rw [leadingExponent_eq h, leadingExponent_eq hb, magnitude_eq, magnitude_eq, hvalue]

end Decimal

/-- A decimal is rounded as the quotient that is its magnitude. -/
theorem Binary64.unscale_magnitude (d : Decimal) :
    ((unscale 10 d.mantissa.natAbs 1 d.scale).1 : ℚ) /
      (unscale 10 d.mantissa.natAbs 1 d.scale).2 = d.magnitude := by
  rw [unscale_ratio (by decide), Nat.cast_one, div_one, Decimal.magnitude, zpow_neg,
    div_eq_mul_inv, Nat.cast_ofNat]

/-- Decimals of one value are rounded alike. -/
theorem Binary64.ofDecimal_congr {a b : Decimal} (hvalue : a.value = b.value) :
    ofDecimal a = ofDecimal b := by
  have hzero : a.mantissa = 0 ↔ b.mantissa = 0 := by
    rw [Decimal.mantissa_eq_zero_iff, hvalue, ← Decimal.mantissa_eq_zero_iff]
  have hsign : a.mantissa < 0 ↔ b.mantissa < 0 := by
    rw [← not_le, ← Decimal.value_nonneg_iff, hvalue, Decimal.value_nonneg_iff, not_le]
  by_cases ha : a.mantissa = 0
  · rw [ofDecimal, ofDecimal, if_pos ha, if_pos (hzero.1 ha)]
  · have hrounded : ∀ negative, ofRatio negative (unscale 10 a.mantissa.natAbs 1 a.scale).1
          (unscale 10 a.mantissa.natAbs 1 a.scale).2 =
        ofRatio negative (unscale 10 b.mantissa.natAbs 1 b.scale).1
          (unscale 10 b.mantissa.natAbs 1 b.scale).2 := by
      intro negative
      apply ofRatio_congr negative (unscale_den_pos (by decide) (by decide) _)
        (unscale_den_pos (by decide) (by decide) _)
      rw [unscale_magnitude, unscale_magnitude, Decimal.magnitude_eq, Decimal.magnitude_eq, hvalue]
    simp only [ofDecimal, if_neg ha, if_neg (mt hzero.2 ha), hsign,
      Decimal.leadingExponent_congr hvalue ha, hrounded]

end TableExchange
