import Mathlib.Tactic.FieldSimp
import TableExchange.Number.DecimalLiteral
import TableExchange.Proofs.Number.DecimalValue
import TableExchange.Proofs.Results

/-!
# What decimal literals denote

A literal is an optional sign, digits with at most one point among or beside them, and an optional
exponent. It denotes the number in front of the point and the fraction behind it, taken times a
power of ten.

* `DecimalLiteral.Spells`: how a literal may be written.
* `DecimalLiteral.value`: the rational number that it denotes.
* `Decimal.spells_of_parse`, `DecimalLiteral.value_decimal`: a text that is read is a literal, and it
  is read as the number that it denotes.
-/

namespace TableExchange

/-! ## Literals -/

/-- The parts of a decimal literal. -/
structure DecimalLiteral where
  negative : Bool
  whole : Digits
  fraction : Digits
  exponent : Int

namespace DecimalLiteral

/-- A sign may be missing. -/
inductive SpellsSign : Bool → List Char → Prop
  | minus : SpellsSign true ['-']
  | plus : SpellsSign false ['+']
  | missing : SpellsSign false []

/-- Digits with at most one point among or beside them. -/
inductive SpellsDigits : Digits → Digits → List Char → Prop
  | whole {ws : Digits} (h : Digits.isNumeral ws = true) : SpellsDigits ws [] ws
  | pointed {ws fs : Digits} (h : Digits.isNumeral (ws ++ fs) = true) :
    SpellsDigits ws fs (ws ++ '.' :: fs)

/-- An exponent with its mark. It is zero where both are missing. -/
inductive SpellsExponent : Int → List Char → Prop
  | missing : SpellsExponent 0 []
  | marked {mark : Char} {negative : Bool} {sign : List Char} {ds : Digits}
    (hmark : mark = 'e' ∨ mark = 'E') (hsign : SpellsSign negative sign)
    (h : Digits.isNumeral ds = true) :
    SpellsExponent (if negative then -(Digits.toNat ds : Int) else Digits.toNat ds)
      (mark :: (sign ++ ds))

/-- A text is written as this literal. -/
def Spells (l : DecimalLiteral) (cs : List Char) : Prop :=
  ∃ sign digits exponent, cs = sign ++ (digits ++ exponent) ∧ SpellsSign l.negative sign ∧
    SpellsDigits l.whole l.fraction digits ∧ SpellsExponent l.exponent exponent

/-- The number that the literal denotes. -/
def value (l : DecimalLiteral) : ℚ :=
  (if l.negative then -1 else 1) *
    (Digits.toNat l.whole + Digits.toNat l.fraction / 10 ^ l.fraction.length) * 10 ^ l.exponent

/-- The decimal with all digits of the literal, scaled by the fraction digits and the exponent. -/
def decimal (l : DecimalLiteral) : Decimal :=
  ⟨if l.negative then -(Digits.toNat (l.whole ++ l.fraction) : Int)
    else Digits.toNat (l.whole ++ l.fraction), l.fraction.length - l.exponent⟩

end DecimalLiteral

theorem DecimalLiteral.value_decimal (l : DecimalLiteral) : l.decimal.value = l.value := by
  have hten : (10 : ℚ) ^ l.fraction.length ≠ 0 := pow_ne_zero _ (by norm_num)
  have hscale : -((l.fraction.length : Int) - l.exponent) = l.exponent - l.fraction.length := by
    omega
  have hpow : (10 : ℚ) ^ (-((l.fraction.length : Int) - l.exponent)) =
      10 ^ l.exponent / 10 ^ l.fraction.length := by
    rw [hscale, zpow_sub₀ (by norm_num), zpow_natCast]
  rw [Decimal.value, decimal, value, hpow, Digits.toNat_append]
  split <;>
  · push_cast
    field_simp

/-! ## Reading -/

namespace Decimal

open DecimalLiteral

theorem takeSign_spells {negative : Bool} {cs rest : List Char}
    (h : takeSign cs = (negative, rest)) : ∃ sign, cs = sign ++ rest ∧ SpellsSign negative sign := by
  unfold takeSign at h
  split at h <;> cases h
  · exact ⟨['-'], rfl, .minus⟩
  · exact ⟨['+'], rfl, .plus⟩
  · exact ⟨[], rfl, .missing⟩

theorem readExponent_spells {literal : String} {mark : Char} {cs : List Char} {e : Int}
    (hmark : isExponentMark mark = true) (h : readExponent literal cs = .ok e) :
    SpellsExponent e (mark :: cs) := by
  obtain ⟨⟨negative, digits⟩, htake⟩ : ∃ taken, takeSign cs = taken := ⟨_, rfl⟩
  obtain ⟨sign, rfl, hsign⟩ := takeSign_spells htake
  simp only [readExponent, htake] at h
  split at h
  · cases h
  · next hdigits =>
    split at h <;> cases h
    exact .marked (by simpa [isExponentMark] using hmark) hsign (by simpa using hdigits)

theorem splitPoint_eq {ws fs cs : List Char} (h : splitPoint cs = (ws, fs)) :
    (fs = [] ∧ cs = ws) ∨ cs = ws ++ '.' :: fs := by
  have hsplit := List.takeWhile_append_dropWhile (p := (· != '.')) (l := cs)
  have hhead := List.head?_dropWhile_not (· != '.') cs
  cases h
  cases hrest : cs.dropWhile (· != '.') with
  | nil => exact .inl ⟨rfl, by simpa [hrest] using hsplit.symm⟩
  | cons c rest =>
    have hc : c = '.' := by simpa [hrest] using hhead
    exact .inr (by simpa [hrest, hc] using hsplit.symm)

theorem readMagnitude_spells {literal : String} {cs : List Char} {n places : Nat}
    (h : readMagnitude literal cs = .ok (n, places)) :
    ∃ ws fs, SpellsDigits ws fs cs ∧ n = Digits.toNat (ws ++ fs) ∧ places = fs.length := by
  obtain ⟨⟨ws, fs⟩, hsplit⟩ : ∃ parts, splitPoint cs = parts := ⟨_, rfl⟩
  simp only [readMagnitude, hsplit] at h
  split at h
  · next hdigits =>
    cases h
    refine ⟨ws, fs, ?_, rfl, rfl⟩
    rcases splitPoint_eq hsplit with ⟨rfl, rfl⟩ | rfl
    · exact .whole (by simpa using hdigits)
    · exact .pointed hdigits
  · cases h

/-- A text that is read is a literal, and it is read as the decimal with the digits of that. -/
theorem spells_of_parse {text : String} {d : Decimal} (h : parse text = .ok d) :
    ∃ l : DecimalLiteral, l.Spells text.toList ∧ d = l.decimal := by
  rw [parse] at h
  split at h
  · cases h
  · obtain ⟨⟨negative, unsigned⟩, htake⟩ : ∃ taken, takeSign text.toList = taken := ⟨_, rfl⟩
    obtain ⟨sign, htext, hsign⟩ := takeSign_spells htake
    obtain ⟨e, hexponent, h⟩ : ∃ e,
        SpellsExponent e (unsigned.dropWhile (!isExponentMark ·)) ∧
          (readMagnitude text (unsigned.takeWhile (!isExponentMark ·)) >>= fun x =>
            pure ⟨if negative then -(x.1 : Int) else x.1, x.2 - e⟩) = .ok d := by
      have hmark := List.head?_dropWhile_not (!isExponentMark ·) unsigned
      simp only [htake] at h
      split at h
      · next hrest =>
        rw [hrest]
        exact ⟨0, .missing, h⟩
      · next mark rest hrest =>
        obtain ⟨e, hread, h⟩ := bind_eq_ok.1 h
        rw [hrest] at hmark ⊢
        exact ⟨e, readExponent_spells (by simpa using hmark) hread, h⟩
    obtain ⟨⟨n, places⟩, hread, h⟩ := bind_eq_ok.1 h
    obtain ⟨ws, fs, hdigits, rfl, rfl⟩ := readMagnitude_spells hread
    cases h
    refine ⟨⟨negative, ws, fs, e⟩, ⟨sign, _, _, ?_, hsign, hdigits, hexponent⟩, rfl⟩
    rw [htext, List.takeWhile_append_dropWhile]

end Decimal

end TableExchange
