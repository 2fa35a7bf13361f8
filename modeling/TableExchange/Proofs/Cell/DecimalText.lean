import TableExchange.Proofs.Cell.Spellings
import TableExchange.Proofs.Number.PlainText

/-!
# Decimals kept as plain text

A double cell keeps a decimal as its plain text. The text shows the sign, the digits and the scale,
and the decimal that is read back from it has the same value.

* `Positional`: digits with a given number of them behind the point.
* `Decimal.positional_magnitudeChars`: the digits of the plain text.
* `Decimal.sameValue_iff_of_value_eq`: which decimals of one value are found to be equal.
* `Cell.plain_reads_back`: the plain text and what is read from it.
-/

namespace TableExchange

/-- Digits, and if there are fraction digits a point and these, `places` in number. -/
def Positional (places : Nat) (cs : List Char) : Prop :=
  ∃ ws fs, Digits.isNumeral ws = true ∧ Digits.areDigits fs = true ∧ fs.length = places ∧
    cs = if places = 0 then ws else ws ++ '.' :: fs

theorem Positional.pointed {ws fs : Digits} (hws : Digits.isNumeral ws = true)
    (hfs : Digits.areDigits fs = true) (hne : fs.length ≠ 0) :
    Positional fs.length (ws ++ '.' :: fs) :=
  ⟨ws, fs, hws, hfs, rfl, (if_neg hne).symm⟩

namespace Decimal

/-! ## The parts of the text -/

/-- Exactly the digits of a positive scale stand behind a point. -/
theorem positional_magnitudeChars (m : Nat) (scale : Int) :
    Positional scale.toNat (magnitudeChars m scale) := by
  obtain ⟨ws, fs, hws, hfs, hplaces, hchars, -⟩ := exists_magnitudeChars m scale
  exact ⟨ws, fs, hws, hfs, hplaces, hchars⟩

/-! ## The decimal that is read -/

variable {a b : Decimal}

theorem compareAligned_eq_iff {m n : Nat} {s t : Int}
    (h : (m : ℚ) * 10 ^ (-s) = n * 10 ^ (-t)) :
    compareAligned m s n t = .eq ↔ (s - t).natAbs ≤ maxScaleGap := by
  by_cases hgap : (s - t).natAbs ≤ maxScaleGap
  · rw [compareAligned_eq _ _ hgap, compare_eq_iff_eq]
    exact iff_of_true h hgap
  · rw [compareAligned, if_pos (not_le.1 hgap), compare_eq_iff_eq]
    refine iff_of_false (fun heq => hgap ?_) hgap
    rw [heq, Int.sub_self]
    exact Nat.zero_le _

theorem compareMagnitude_eq_iff (hvalue : a.value = b.value) (h : a.mantissa ≠ 0) :
    compareMagnitude a b = .eq ↔ (a.scale - b.scale).natAbs ≤ maxScaleGap := by
  rw [compareMagnitude, if_pos (leadingExponent_congr hvalue h)]
  refine compareAligned_eq_iff ?_
  show a.magnitude = b.magnitude
  rw [magnitude_eq, magnitude_eq, hvalue]

theorem sign_congr (hvalue : a.value = b.value) : a.mantissa.sign = b.mantissa.sign := by
  refine le_antisymm (not_lt.1 fun h => ?_) (not_lt.1 fun h => ?_)
  · exact (value_lt_of_sign_lt h).ne hvalue.symm
  · exact (value_lt_of_sign_lt h).ne hvalue

/-- Decimals of one value are found to be equal, unless they are not zero and the gap between their
scales is too wide to close. -/
theorem sameValue_iff_of_value_eq (hvalue : a.value = b.value) :
    a.sameValue b = true ↔ a.mantissa = 0 ∨ (a.scale - b.scale).natAbs ≤ maxScaleGap := by
  rw [sameValue, beq_iff_eq, compare, compare_eq_iff_eq.2 (sign_congr hvalue)]
  dsimp only
  by_cases hzero : a.mantissa = 0
  · rw [if_pos hzero]
    exact iff_of_true rfl (.inl hzero)
  · have hb : b.mantissa ≠ 0 := by
      rwa [Ne, mantissa_eq_zero_iff, ← hvalue, ← mantissa_eq_zero_iff]
    rw [if_neg hzero, or_iff_right hzero]
    split
    · exact compareMagnitude_eq_iff hvalue hzero
    · rw [compareMagnitude_eq_iff hvalue.symm hb, ← Int.natAbs_neg, Int.neg_sub]

theorem expanded_eq (d : Decimal) :
    d.expanded = if d.scale < 0 then ⟨d.mantissa * 10 ^ d.scale.natAbs, 0⟩ else d := by
  obtain ⟨mantissa, scale⟩ := d
  unfold expanded
  dsimp only
  rcases lt_trichotomy scale 0 with h | rfl | h
  · rw [if_pos h.le, if_pos h, Nat.pow_eq, Nat.cast_pow, Nat.cast_ofNat]
  · simp
  · rw [if_neg h.not_ge, if_neg h.not_gt]

theorem sameValue_expanded (d : Decimal) :
    d.expanded.sameValue d = true ↔ d.mantissa = 0 ∨ -(maxScaleGap : Int) ≤ d.scale := by
  rw [sameValue_iff_of_value_eq d.value_expanded, mantissa_eq_zero_iff d.expanded, value_expanded,
    ← mantissa_eq_zero_iff, scale_expanded]
  refine or_congr_right ?_
  omega

end Decimal

namespace Cell

open Decimal

/-- **The plain text of a decimal reads back.** It is a minus sign if the number is negative, digits,
and exactly of a positive scale a point with as many digits as that. It is read as a decimal of the
same value: the same one, if the scale is not negative, and else an integer with the zeros of the
scale written out. So a double cell of the decimal gives back an equal value. The comparison of
decimals agrees just down to the scale `-(2 ^ 32 - 1)`: below it, the two are found to be different,
unless they are zero. -/
theorem plain_reads_back (d : Decimal) :
    (∃ cs, d.plain.toList = (if d.mantissa < 0 then ['-'] else []) ++ cs ∧
      Positional d.scale.toNat cs) ∧
    ∃ d' : Decimal,
      (d' = if d.scale < 0 then ⟨d.mantissa * 10 ^ d.scale.natAbs, 0⟩ else d) ∧
      d'.value = d.value ∧
      Decimal.parse d.plain = .ok d' ∧
      (doubleOfDecimal (some d)).asBigDecimal = .ok (some d') ∧
      (d'.sameValue d = true ↔ d.mantissa = 0 ∨ -(maxScaleGap : Int) ≤ d.scale) := by
  refine ⟨⟨_, d.toList_plain, positional_magnitudeChars _ _⟩, d.expanded, d.expanded_eq,
    d.value_expanded, d.parse_plain, ?_, d.sameValue_expanded⟩
  have htext : (doubleOfDecimal (some d)).HoldsText d.plain := .inl rfl
  rw [asBigDecimal_of_text htext, decimalOfText_of_parse d.parse_plain]
  rfl

/-- A zero keeps the places of its scale, and only these. -/
example : ((⟨0, 3⟩ : Decimal).plain, (⟨0, -3⟩ : Decimal).plain, (⟨-5, 2⟩ : Decimal).plain,
    (⟨-15, -2⟩ : Decimal).plain) = ("0.000", "0", "-0.05", "-1500") := by decide

end Cell

end TableExchange
