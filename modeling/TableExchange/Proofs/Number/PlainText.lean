import TableExchange.Proofs.Number.IntegerPart
import TableExchange.Proofs.Number.LiteralReading

/-!
# Decimals in positional notation, read back

The plain text of a decimal is a literal without an exponent. Of a positive scale it keeps every
digit; otherwise the scale stands there as zeros, and is gone when the text is read.

* `Decimal.expanded`: a decimal with these zeros in its mantissa.
* `Decimal.exists_magnitudeChars`: the digits of the plain text.
* `Decimal.spells_plain`: the plain text as a literal.
* `Decimal.parse_plain`, `Decimal.plain_expanded`: it is read as the decimal with the zeros written
  out, which has the same text.
* `Decimal.parse_intText`: an integer is read as itself.
-/

namespace TableExchange

namespace Decimal

open DecimalLiteral

/-- The decimal with the zeros of a negative scale written out. -/
def expanded (d : Decimal) : Decimal :=
  if d.scale ≤ 0 then ⟨d.mantissa * Nat.pow 10 d.scale.natAbs, 0⟩ else d

theorem value_expanded (d : Decimal) : d.expanded.value = d.value := by
  unfold expanded
  split
  · next h =>
    rw [value_of_scale_nonpos h, value_of_scale_nonpos (Int.le_refl 0)]
    simp
  · rfl

theorem magnitude_expanded (d : Decimal) : d.expanded.magnitude = d.magnitude := by
  rw [magnitude_eq, value_expanded, ← magnitude_eq]

theorem mantissa_expanded_neg (d : Decimal) : d.expanded.mantissa < 0 ↔ d.mantissa < 0 := by
  rw [← not_le, ← value_nonneg_iff, value_expanded, value_nonneg_iff, not_le]

theorem mantissa_expanded_ne_zero {d : Decimal} (h : d.mantissa ≠ 0) :
    d.expanded.mantissa ≠ 0 := by
  rwa [Ne, mantissa_eq_zero_iff, value_expanded, ← mantissa_eq_zero_iff]

theorem scale_expanded (d : Decimal) : d.expanded.scale = max 0 d.scale := by
  unfold expanded
  split
  · show (0 : Int) = _
    omega
  · omega

/-! ## Magnitudes -/

/-- A magnitude is shown with exactly as many digits behind a point as its scale asks for, and at
least one in front. -/
theorem exists_magnitudeChars (m : Nat) (scale : Int) :
    ∃ ws fs, Digits.isNumeral ws = true ∧ Digits.areDigits fs = true ∧
      fs.length = scale.toNat ∧
      magnitudeChars m scale = (if scale.toNat = 0 then ws else ws ++ '.' :: fs) ∧
      Digits.toNat (ws ++ fs) = if scale ≤ 0 then m * Nat.pow 10 scale.natAbs else m := by
  have hdigits := Digits.areDigits_ofNat m
  have hlength := Digits.length_ofNat_pos m
  unfold magnitudeChars
  dsimp only
  by_cases hscale : scale ≤ 0
  · have hnone : scale.toNat = 0 := Int.toNat_eq_zero.2 hscale
    rw [if_pos hscale, if_pos hscale]
    refine ⟨_, [], ?_, rfl, hnone.symm, (if_pos hnone).symm, ?_⟩
    · split
      · exact Digits.isNumeral_ofNat m
      · exact (Digits.isNumeral_append (List.length_pos_iff.1 hlength)).2
          ⟨Digits.isNumeral_ofNat m, Digits.areDigits_replicate_zero _⟩
    · split
      · next hzero => simp [hzero, Digits.toNat_ofNat]
      · rw [List.append_nil, Digits.toNat_append_zeros, Digits.toNat_ofNat, Nat.pow_eq]
  · have hsome : scale.toNat ≠ 0 := by omega
    rw [if_neg hscale, if_neg hscale]
    simp only [if_neg hsome]
    split
    · next hplaces =>
      have hfront : Digits.isNumeral
          ((Digits.ofNat m).take ((Digits.ofNat m).length - scale.natAbs)) = true :=
        Digits.isNumeral_take hdigits (by omega) (by omega)
      refine ⟨_, _, hfront, Digits.areDigits_drop hdigits _, ?_, rfl, ?_⟩
      · rw [List.length_drop]
        omega
      · rw [List.take_append_drop, Digits.toNat_ofNat]
    · next hplaces =>
      refine ⟨['0'], _, by rfl, Digits.areDigits_padded scale.natAbs m, ?_, rfl, ?_⟩
      · rw [Digits.padded, Digits.fill, List.length_append, List.length_replicate]
        omega
      · exact (Digits.toNat_replicate_zero_append 1 _).trans
          ((Digits.toNat_replicate_zero_append _ _).trans (Digits.toNat_ofNat m))

/-- The digits of a magnitude, those behind the point counted apart. -/
theorem spellsDigits_magnitudeChars (m : Nat) (scale : Int) :
    ∃ ws fs, SpellsDigits ws fs (magnitudeChars m scale) ∧
      Digits.toNat (ws ++ fs) = (if scale ≤ 0 then m * Nat.pow 10 scale.natAbs else m) ∧
      fs.length = scale.toNat := by
  obtain ⟨ws, fs, hws, hfs, hplaces, hchars, hvalue⟩ := exists_magnitudeChars m scale
  refine ⟨ws, fs, ?_, hvalue, hplaces⟩
  rw [hchars]
  split
  · next hzero =>
    obtain rfl : fs = [] := List.length_eq_zero_iff.1 (hplaces.trans hzero)
    exact .whole hws
  · exact .pointed ((Digits.isNumeral_append (Digits.isNumeral_iff.1 hws).1).2 ⟨hws, hfs⟩)

/-! ## Texts -/

theorem signed_natAbs_mul (n : Int) (k : Nat) :
    (if decide (n < 0) then -((n.natAbs * k : Nat) : Int) else (n.natAbs * k : Nat)) = n * k := by
  rw [Int.natCast_mul, ← Int.neg_mul]
  split
  · next h =>
    have hneg : n < 0 := of_decide_eq_true h
    rw [Int.ofNat_natAbs_of_nonpos hneg.le, Int.neg_neg]
  · next h => rw [Int.natAbs_of_nonneg (not_lt.1 (mt decide_eq_true h))]

theorem toList_plain (d : Decimal) : d.plain.toList =
    (if d.mantissa < 0 then ['-'] else []) ++ magnitudeChars d.mantissa.natAbs d.scale := by
  rw [plain, String.toList_ofList, plainChars]
  split <;> rfl

/-- The plain text is a literal without an exponent, which denotes the decimal. -/
theorem spells_plain (d : Decimal) :
    ∃ l : DecimalLiteral, l.Spells d.plain.toList ∧ l.exponent = 0 ∧ l.decimal = d.expanded := by
  obtain ⟨ws, fs, hspells, hdigits, hplaces⟩ :=
    spellsDigits_magnitudeChars d.mantissa.natAbs d.scale
  refine ⟨⟨decide (d.mantissa < 0), ws, fs, 0⟩, ?_, rfl, ?_⟩
  · refine ⟨if d.mantissa < 0 then ['-'] else [], _, [], ?_, ?_, hspells, .missing⟩
    · rw [toList_plain, List.append_nil]
    · split
      · next h => simpa [h] using SpellsSign.minus
      · next h => simpa [h] using SpellsSign.missing
  · unfold DecimalLiteral.decimal expanded
    dsimp only
    rw [hdigits, hplaces]
    by_cases hscale : d.scale ≤ 0
    · rw [if_pos hscale, if_pos hscale, signed_natAbs_mul]
      congr 1
      omega
    · have hmantissa := signed_natAbs_mul d.mantissa 1
      rw [Nat.mul_one, Int.natCast_one, Int.mul_one] at hmantissa
      rw [if_neg hscale, if_neg hscale, hmantissa]
      congr 1
      omega

theorem parse_plain (d : Decimal) : parse d.plain = .ok d.expanded := by
  obtain ⟨l, hspells, hexponent, hdecimal⟩ := spells_plain d
  exact parse_eq_ok.2 ⟨l, hspells, by rw [hexponent]; exact Nat.zero_le _, hdecimal.symm⟩

/-- Written out, the zeros stand where the scale put them. -/
theorem plain_expanded (d : Decimal) : d.expanded.plain = d.plain := by
  by_cases hscale : d.scale ≤ 0
  · have hpos : 0 < Nat.pow 10 d.scale.natAbs := Nat.pow_pos (by decide)
    have hsign : d.mantissa * (Nat.pow 10 d.scale.natAbs : Nat) < 0 ↔ d.mantissa < 0 :=
      ⟨fun h => neg_of_mul_neg_left h (Int.natCast_nonneg _),
      fun h => Int.mul_neg_of_neg_of_pos h (Int.natCast_pos.2 hpos)⟩
    have hmagnitude : magnitudeChars (d.mantissa.natAbs * Nat.pow 10 d.scale.natAbs) 0 =
        magnitudeChars d.mantissa.natAbs d.scale := by
      by_cases hzero : d.mantissa.natAbs = 0
      · simp [magnitudeChars, hscale, hzero]
      · have hne : d.mantissa.natAbs * Nat.pow 10 d.scale.natAbs ≠ 0 :=
          Nat.mul_ne_zero hzero hpos.ne'
        have hdigits := Digits.ofNat_mul_pow (Nat.pos_of_ne_zero hzero) d.scale.natAbs
        unfold magnitudeChars
        dsimp only
        rw [if_pos (Int.le_refl 0), if_pos hscale, if_neg hne, if_neg hzero, Nat.pow_eq, hdigits]
        exact List.append_nil _
    unfold expanded
    rw [if_pos hscale]
    simp only [plain, plainChars, hsign, Int.natAbs_mul, Int.natAbs_natCast, hmagnitude]
  · unfold expanded
    rw [if_neg hscale]

theorem intText_eq_plain (n : Int) : intText n = (ofInt n).plain := by
  have hmagnitude : magnitudeChars n.natAbs 0 = Digits.ofNat n.natAbs := by
    simp [magnitudeChars]
  simp only [intText, intChars, plain, plainChars, ofInt, hmagnitude]

theorem parse_intText (n : Int) : parse (intText n) = .ok (ofInt n) := by
  rw [intText_eq_plain, parse_plain]
  simp [expanded, ofInt]

end Decimal

end TableExchange
