import TableExchange.Proofs.Cell.DoubleRange
import TableExchange.Proofs.Cell.Spellings
import TableExchange.Proofs.Number.FloatText

/-!
# Doubles kept as decimal text

A double cell keeps the shortest decimal of its number. What is read back from it passes the range
guard and rounds to that number.

* `Binary64.ofDecimal_of_nearest`: a decimal that is nearest to a number is read as it.
* `Binary64.exists_decimal_text`: the decimal in the text of a finite number.
* `Cell.double_survives`: doubles come back from their cells.
-/

namespace TableExchange

/-! ## Reading back -/

namespace Binary64

variable {x : Finite}

/-- A decimal within the range that is nearest to a number, with its sign, is read as it. -/
theorem ofDecimal_of_nearest {d : Decimal} (hx : x.significand ≠ 0) (hnear : x.Nearest d.magnitude)
    (hmantissa : d.mantissa ≠ 0) (hsign : decide (d.mantissa < 0) = x.negative)
    (hlow : leastDouble.magnitude ≤ d.magnitude) (hhigh : d.magnitude ≤ greatestDouble.magnitude) :
    ofDecimal d = .finite x := by
  have hfirst : leastDouble.leadingExponent ≤ d.leadingExponent :=
    Decimal.leadingExponent_le (by decide) hlow
  have hlast : d.leadingExponent ≤ greatestDouble.leadingExponent :=
    Decimal.leadingExponent_le hmantissa hhigh
  have hleast := leadingExponent_leastDouble
  have hgreatest := leadingExponent_greatestDouble
  rw [← unscale_magnitude] at hnear
  have hrounded := ofRatio_of_nearest (decide (d.mantissa < 0)) hx
    (unscale_den_pos (by decide) (by decide) _) hnear
  unfold ofDecimal decimalHorizon
  dsimp only
  rw [if_neg hmantissa, if_neg (by omega), if_neg (by omega), hrounded, hsign]

theorem finite_eq_zero (h : x.significand = 0) : Binary64.finite x = .zero x.negative := by
  obtain ⟨negative, m, e, hbits, hleast, hgreatest, hfill⟩ := x
  obtain rfl : m = 0 := h
  obtain rfl : e = -1074 := hfill.resolve_left (by decide)
  rfl

/-- The text of a number other than zero is the plain text of a decimal, which is read from it, is
in the range of doubles and rounds to the number. -/
theorem exists_decimal_text_of_ne_zero (hx : x.significand ≠ 0) :
    ∃ d : Decimal, Decimal.parse (text .cell (.finite x)) = .ok d ∧
      d.plain = text .cell (.finite x) ∧ isDoubleOverflow d = false ∧ ofDecimal d = .finite x := by
  obtain ⟨n, e, hshortest, hnear, he⟩ := Finite.shortest_spec hx .up
  obtain ⟨hlow, hhigh⟩ := shortest_in_range hx hshortest hnear
  have hn : n ≠ 0 := by
    rintro rfl
    have hpos := hnear.pos hx
    rw [Nat.cast_zero, zero_mul] at hpos
    exact lt_irrefl _ hpos
  obtain ⟨d, htext, hmagnitude, hscale, hmantissa, hsign⟩ := text_cell hshortest hn
  rw [← hmagnitude, ← Decimal.magnitude_expanded d] at hnear hlow hhigh
  have hexpanded := Decimal.mantissa_expanded_ne_zero hmantissa
  have hdigits : d.expanded.digitCount < 2 ^ 32 := by
    have hlast := Decimal.leadingExponent_le hexpanded hhigh
    have hgreatest := leadingExponent_greatestDouble
    have hfirst := le_log_magnitude hx
    rw [hgreatest, Decimal.leadingExponent, Decimal.scale_expanded] at hlast
    omega
  refine ⟨d.expanded, ?_, ?_, isDoubleOverflow_eq_false hdigits hlow hhigh, ?_⟩
  · rw [htext, Decimal.parse_plain]
  · rw [Decimal.plain_expanded, htext]
  · refine ofDecimal_of_nearest hx hnear hexpanded ?_ hlow hhigh
    rw [← hsign]
    exact decide_eq_decide.2 (Decimal.mantissa_expanded_neg d)

/-- So is the text of zero without a sign. -/
theorem exists_decimal_text (hx : Binary64.finite x ≠ .zero true) :
    ∃ d : Decimal, Decimal.parse (text .cell (.finite x)) = .ok d ∧
      d.plain = text .cell (.finite x) ∧ isDoubleOverflow d = false ∧ ofDecimal d = .finite x := by
  by_cases hzero : x.significand = 0
  · have hsign : x.negative = false := by
      rw [finite_eq_zero hzero] at hx
      exact Bool.eq_false_iff.2 fun h => hx (by rw [h])
    rw [finite_eq_zero hzero, hsign]
    exact ⟨⟨0, 0⟩, by decide, by decide, by decide, rfl⟩
  · exact exists_decimal_text_of_ne_zero hzero

end Binary64

/-! ## Cells -/

namespace Cell

open Binary64

theorem double_holdsText (x : Binary64) : (double (some x)).HoldsText (x.text .cell) := .inl rfl

/-- **Doubles survive the way through decimal text.** Each double but negative zero is read back
from its cell as it is, bit for bit, at both ends of the range and beyond it; negative zero loses
its sign. The decimal of a finite double is the one that its text shows: it is what the text is read
as, and the text is how it is written. -/
theorem double_survives {κ : Type} [CellCodec κ] (codec : κ) :
    (∀ x : Binary64, x ≠ .zero true → (double (some x)).asDouble = .ok (some x)) ∧
    (double (some (.zero true))).asDouble = .ok (some (.zero false)) ∧
    ∀ x : Finite, Binary64.finite x ≠ .zero true →
      ∃ (text : String) (d : Decimal),
        (double (some (.finite x))).asString codec = .ok (some text) ∧
        Decimal.parse text = .ok d ∧ d.plain = text ∧
        (double (some (.finite x))).asBigDecimal = .ok (some d) := by
  refine ⟨fun x hx => ?_, rfl, fun x hx => ?_⟩
  · cases x with
    | finite x =>
      obtain ⟨d, hparse, -, hguard, hread⟩ := exists_decimal_text hx
      rw [asDouble_of_parse (double_holdsText _) hparse, hread, Converted.given, if_pos hguard]
    | infinity negative => cases negative <;> rfl
    | nan => rfl
  · obtain ⟨d, hparse, hplain, -, -⟩ := exists_decimal_text hx
    refine ⟨_, d, rfl, hparse, hplain, ?_⟩
    rw [asBigDecimal_of_text (double_holdsText _), decimalOfText_of_parse hparse]
    rfl

/-- The greatest double. -/
def greatestFinite : Finite := ⟨false, significandBound - 1, 971, by decide⟩

/-- The double next below zero. -/
def leastNegative : Finite := ⟨true, 1, -1074, by decide⟩

/-- Both ends of the range come back, although the bounds of the guard are rounded. -/
theorem double_survives_extremes :
    ∃ codec, Codec.ofSettings {} = .ok codec ∧
      Binary64.finite greatestFinite ≠ .zero true ∧ Binary64.finite leastNegative ≠ .zero true ∧
      (double (some (.finite greatestFinite))).asDouble = .ok (some (.finite greatestFinite)) ∧
      (double (some (.finite leastNegative))).asDouble = .ok (some (.finite leastNegative)) ∧
      (double (some (.infinity true))).asDouble = .ok (some (.infinity true)) ∧
      ∃ text d, (double (some (.finite leastNegative))).asString codec = .ok (some text) ∧
        Decimal.parse text = .ok d ∧ d.plain = text ∧
        (double (some (.finite leastNegative))).asBigDecimal = .ok (some d) := by
  obtain ⟨codec, hcodec⟩ : ∃ codec, Codec.ofSettings {} = .ok codec := ⟨_, rfl⟩
  obtain ⟨hdouble, -, hdecimal⟩ := double_survives codec
  have hgreatest : Binary64.finite greatestFinite ≠ .zero true := by decide
  have hleast : Binary64.finite leastNegative ≠ .zero true := by decide
  exact ⟨codec, hcodec, hgreatest, hleast, hdouble _ hgreatest, hdouble _ hleast,
    hdouble _ (by decide), hdecimal _ hleast⟩

end Cell

end TableExchange
