import TableExchange.Number.FloatText
import TableExchange.Proofs.Number.PlainText
import TableExchange.Proofs.Number.Shortest

/-!
# Positional texts of binary64 numbers

In positional notation throughout, a number is shown as its shortest decimal, without zeros at the
end of its digits. That is the plain text of a decimal.

* `Binary64.significantDigits_spec`: digits without the zeros at their end.
* `Binary64.positionalChars_eq`: the positional text of a magnitude.
* `Binary64.text_cell`: the text of a finite number other than zero.
-/

namespace TableExchange

namespace Binary64

/-- The digits of a number are its significant ones, with zeros behind them. -/
theorem significantDigits_spec (n : Nat) :
    ∃ zeros, n = Digits.toNat (significantDigits n) * 10 ^ zeros ∧
      (Digits.ofNat n).length = (significantDigits n).length + zeros := by
  obtain ⟨zeros, hzeros⟩ := Digits.exists_zeros (Digits.ofNat n)
  refine ⟨zeros, ?_, ?_⟩
  · rw [significantDigits, ← Digits.toNat_append_zeros, ← hzeros, Digits.toNat_ofNat]
  · rw [significantDigits]
    conv_lhs => rw [hzeros]
    rw [List.length_append, List.length_replicate]

/-- What is left of the zeros is in the scale. -/
theorem positionalChars_eq {style : FloatStyle} (hstyle : style.keepsPoint = false) (n : Nat)
    (scale : Int) :
    ∃ (m : Nat) (t : Int), positionalChars style ⟨n, scale⟩ = Decimal.magnitudeChars m t ∧
      (m : ℚ) * 10 ^ (-t) = n * 10 ^ (-scale) ∧ t ≤ scale := by
  obtain ⟨zeros, hvalue, hlength⟩ := significantDigits_spec n
  refine ⟨Digits.toNat (significantDigits n), scale - zeros, ?_, ?_, by omega⟩
  · have hscale : ((significantDigits n).length : Int) - 1 -
        Decimal.leadingExponent ⟨n, scale⟩ = scale - zeros := by
      unfold Decimal.leadingExponent Decimal.digitCount
      dsimp only
      rw [Int.natAbs_natCast]
      omega
    unfold positionalChars
    dsimp only
    rw [Int.natAbs_natCast, hscale, hstyle, Bool.false_and]
    rfl
  · conv_rhs => rw [hvalue]
    rw [neg_sub, sub_eq_add_neg, zpow_add₀ (by norm_num), zpow_natCast, ← mul_assoc]
    push_cast
    rfl

/-- A finite number other than zero is shown as the plain text of its shortest decimal, with its
sign. -/
theorem text_cell {x : Finite} {n : Nat} {e : Int} (hshortest : x.shortest .up = ⟨n, -e⟩)
    (hn : n ≠ 0) :
    ∃ d : Decimal, text .cell (.finite x) = d.plain ∧ d.magnitude = n * 10 ^ e ∧
      d.scale ≤ -e ∧ d.mantissa ≠ 0 ∧ decide (d.mantissa < 0) = x.negative := by
  obtain ⟨m, t, hchars, hvalue, ht⟩ :=
    positionalChars_eq (rfl : FloatStyle.cell.keepsPoint = false) n (-e)
  rw [neg_neg] at hvalue
  have hm : m ≠ 0 := by
    rintro rfl
    have hpos : (0 : ℚ) < n * 10 ^ e :=
      mul_pos (Nat.cast_pos.2 (Nat.pos_of_ne_zero hn)) (Decimal.tenPow_pos e)
    rw [← hvalue, Nat.cast_zero, zero_mul] at hpos
    exact lt_irrefl _ hpos
  have htext : text .cell (.finite x) = String.ofList (if x.negative then
      '-' :: Decimal.magnitudeChars m t else Decimal.magnitudeChars m t) := by
    rw [← hchars, ← hshortest]
    rfl
  rw [htext]
  cases x.negative with
  | true =>
    refine ⟨⟨-m, t⟩, ?_, ?_, ht, by simpa using hm, by simpa using Nat.pos_of_ne_zero hm⟩
    · have hneg : (-(m : Int)) < 0 := by omega
      rw [Decimal.plain, Decimal.plainChars, if_pos hneg, Int.natAbs_neg, Int.natAbs_natCast]
      rfl
    · rw [← hvalue, Decimal.magnitude, Int.natAbs_neg, Int.natAbs_natCast]
  | false =>
    refine ⟨⟨m, t⟩, ?_, ?_, ht, by simpa using hm, by simp⟩
    · have hpos : ¬(m : Int) < 0 := by omega
      rw [Decimal.plain, Decimal.plainChars, if_neg hpos, Int.natAbs_natCast]
      rfl
    · rw [← hvalue, Decimal.magnitude, Int.natAbs_natCast]

end Binary64

end TableExchange
