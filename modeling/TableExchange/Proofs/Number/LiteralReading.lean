import Mathlib.Data.Int.Cast.Lemmas
import Mathlib.Data.List.TakeWhile
import TableExchange.Proofs.Number.Literal
import TableExchange.Proofs.Text.Blank

/-!
# Which texts are read as decimals

The reader of decimals takes a text apart from the left: the sign, the digits up to the first mark
of an exponent, the exponent. It reads the literals, but for those whose exponent is too wide, and
refuses every other text with the reason.

* `Decimal.parse_eq`: the parts of a text, read one after the other.
* `Decimal.parse_of_spells`: what becomes of a literal.
* `Decimal.parse_eq_exponentOutOfRange`: which texts are refused for their exponent.
* `Decimal.parse_reads_literals`: what becomes of every text.
-/

namespace TableExchange

/-- What follows the first mark of an exponent is one, and it is wider than any that is read. -/
def DecimalLiteral.HasWideExponent (cs : List Char) : Prop :=
  ∃ before part e, cs = before ++ part ∧ (∀ c ∈ before, c ≠ 'e' ∧ c ≠ 'E') ∧
    SpellsExponent e part ∧ 10 ^ 9 < e.natAbs

namespace Decimal

open DecimalLiteral

variable {literal text : String} {cs sign body part rest : List Char} {ws fs : Digits}
  {negative : Bool} {e : Int} {c : Char}

/-! ## Characters -/

theorem isExponentMark_iff : isExponentMark c = true ↔ c = 'e' ∨ c = 'E' := by
  simp [isExponentMark]

theorem not_isExponentMark_iff : (!isExponentMark c) = true ↔ c ≠ 'e' ∧ c ≠ 'E' := by
  simp [isExponentMark]

/-- A digit is no sign, no point and no mark of an exponent. -/
theorem ne_of_isDigit (h : c.isDigit = true) :
    c ≠ '-' ∧ c ≠ '+' ∧ c ≠ '.' ∧ c ≠ 'e' ∧ c ≠ 'E' := by
  refine ⟨?_, ?_, ?_, ?_, ?_⟩ <;> (rintro rfl; revert h; decide)

/-! ## Signs -/

/-- A sign is taken off, and nothing else is. -/
theorem takeSign_append (hsign : SpellsSign negative sign)
    (hrest : ∀ c ∈ rest.head?, c ≠ '-' ∧ c ≠ '+') : takeSign (sign ++ rest) = (negative, rest) := by
  cases hsign with
  | minus => rfl
  | plus => rfl
  | missing =>
    rw [List.nil_append]
    unfold takeSign
    split
    · exact absurd rfl (hrest '-' rfl).1
    · exact absurd rfl (hrest '+' rfl).2
    · rfl

/-- A sign is no mark of an exponent. -/
theorem dropWhile_takeSign (cs : List Char) :
    (takeSign cs).2.dropWhile (!isExponentMark ·) = cs.dropWhile (!isExponentMark ·) := by
  unfold takeSign
  split <;> rfl

/-! ## Digits -/

/-- The digits of a literal are digits and points. -/
theorem isDigit_of_spellsDigits (h : SpellsDigits ws fs body) :
    ∀ c ∈ body, c.isDigit = true ∨ c = '.' := by
  intro c hc
  cases h with
  | whole h => exact .inl ((Digits.isNumeral_iff.1 h).2 c hc)
  | pointed h =>
    have hdigits := (Digits.isNumeral_iff.1 h).2
    simp only [List.mem_append, List.mem_cons] at hc hdigits
    rcases hc with hc | rfl | hc
    · exact .inl (hdigits c (.inl hc))
    · exact .inr rfl
    · exact .inl (hdigits c (.inr hc))

theorem exists_isDigit_of_spellsDigits (h : SpellsDigits ws fs body) :
    ∃ a ∈ body, a.isDigit = true := by
  cases h with
  | whole h =>
    obtain ⟨hne, hall⟩ := Digits.isNumeral_iff.1 h
    obtain ⟨a, ha⟩ := List.exists_mem_of_ne_nil _ hne
    exact ⟨a, ha, hall a ha⟩
  | pointed h =>
    obtain ⟨hne, hall⟩ := Digits.isNumeral_iff.1 h
    obtain ⟨a, ha⟩ := List.exists_mem_of_ne_nil _ hne
    refine ⟨a, ?_, hall a ha⟩
    simp only [List.mem_append, List.mem_cons] at ha ⊢
    exact ha.imp_right .inr

theorem ne_nil_of_spellsDigits (h : SpellsDigits ws fs body) : body ≠ [] := by
  cases h with
  | whole h => exact (Digits.isNumeral_iff.1 h).1
  | pointed h => simp

theorem splitPoint_of_spells (h : SpellsDigits ws fs body) : splitPoint body = (ws, fs) := by
  cases h with
  | whole h =>
    have hwhole : ∀ c ∈ body, (c != '.') = true := fun c hc =>
      bne_iff_ne.2 (ne_of_isDigit ((Digits.isNumeral_iff.1 h).2 c hc)).2.2.1
    rw [splitPoint, List.takeWhile_eq_self_iff.2 hwhole, List.dropWhile_eq_nil_iff.2 hwhole]
    rfl
  | pointed h =>
    have hdigits := (Digits.isNumeral_iff.1 h).2
    have hwhole : ∀ c ∈ ws, (c != '.') = true := fun c hc =>
      bne_iff_ne.2 (ne_of_isDigit (hdigits c (List.mem_append_left _ hc))).2.2.1
    rw [splitPoint, takeWhile_append_stop hwhole (by simp), dropWhile_append_stop hwhole (by simp)]
    rfl

theorem readMagnitude_of_spells (literal : String) (h : SpellsDigits ws fs body) :
    readMagnitude literal body = .ok (Digits.toNat (ws ++ fs), fs.length) := by
  have hdigits : Digits.isNumeral (ws ++ fs) = true := by
    cases h with
    | whole h => rwa [List.append_nil]
    | pointed h => exact h
  rw [readMagnitude, splitPoint_of_spells h]
  exact if_pos hdigits

theorem readMagnitude_eq_error {fault : DecimalError}
    (h : readMagnitude literal body = .error fault) : fault = .invalid literal := by
  unfold readMagnitude at h
  split at h
  split at h <;> cases h
  rfl

/-! ## Exponents -/

/-- Reads an exponent with its mark; where both are missing it is zero. -/
def exponentOf (literal : String) : List Char → Except DecimalError Int
  | [] => .ok 0
  | _ :: rest => readExponent literal rest

theorem head_of_spellsExponent (h : SpellsExponent e part) :
    ∀ c ∈ part.head?, isExponentMark c = true := by
  cases h with
  | missing => simp
  | marked hmark _ _ => simpa [isExponentMark_iff] using hmark

theorem exponentOf_of_spells (literal : String) (h : SpellsExponent e part) :
    exponentOf literal part =
      if 10 ^ 9 < e.natAbs then .error (.exponentOutOfRange literal) else .ok e := by
  cases h with
  | missing => rfl
  | @marked mark negative sign ds hmark hsign hds =>
    have hhead : ∀ c ∈ ds.head?, c ≠ '-' ∧ c ≠ '+' := fun c hc =>
      have hne := ne_of_isDigit ((Digits.isNumeral_iff.1 hds).2 c (List.mem_of_mem_head? hc))
      ⟨hne.1, hne.2.1⟩
    have habs : (if negative then -(Digits.toNat ds : Int) else Digits.toNat ds).natAbs =
        Digits.toNat ds := by
      split <;> simp
    rw [exponentOf, readExponent, takeSign_append hsign hhead, habs]
    simp only [hds]
    rfl

/-- An exponent that cannot be read is none, or it is too wide. -/
theorem exponentOf_eq_error {fault : DecimalError}
    (hpart : ∀ c ∈ part.head?, isExponentMark c = true)
    (h : exponentOf literal part = .error fault) :
    fault = .invalid literal ∨ fault = .exponentOutOfRange literal ∧
      ∃ e, SpellsExponent e part ∧ 10 ^ 9 < e.natAbs := by
  cases part with
  | nil => cases h
  | cons mark rest =>
    have hmark : isExponentMark mark = true := hpart mark rfl
    obtain ⟨⟨negative, digits⟩, htake⟩ : ∃ taken, takeSign rest = taken := ⟨_, rfl⟩
    obtain ⟨sign, rfl, hsign⟩ := takeSign_spells htake
    by_cases hdigits : Digits.isNumeral digits = true
    · obtain ⟨e, hspells⟩ : ∃ e, SpellsExponent e (mark :: (sign ++ digits)) :=
        ⟨_, .marked (isExponentMark_iff.1 hmark) hsign hdigits⟩
      rw [exponentOf_of_spells literal hspells] at h
      split at h
      · next hwide =>
        cases h
        exact .inr ⟨rfl, _, hspells, hwide⟩
      · cases h
    · rw [exponentOf, readExponent, htake] at h
      simp only [hdigits] at h
      cases h
      exact .inl rfl

/-! ## Texts -/

/-- A text that is not empty is read in two steps: its exponent, then its digits. -/
theorem parse_eq {unsigned : List Char} (htext : text ≠ "")
    (htake : takeSign text.toList = (negative, unsigned)) :
    parse text =
      exponentOf text (unsigned.dropWhile (!isExponentMark ·)) >>= fun e =>
        readMagnitude text (unsigned.takeWhile (!isExponentMark ·)) >>= fun x =>
          .ok ⟨if negative then -(x.1 : Int) else x.1, x.2 - e⟩ := by
  rw [parse, if_neg (by simpa using htext), htake]
  dsimp only
  cases unsigned.dropWhile (!isExponentMark ·) with
  | nil => rfl
  | cons c rest => rfl

/-- The sign of a literal is what is taken off it. -/
theorem takeSign_of_spells (hsign : SpellsSign negative sign) (hdigits : SpellsDigits ws fs body)
    (part : List Char) : takeSign (sign ++ (body ++ part)) = (negative, body ++ part) := by
  refine takeSign_append hsign fun c hc => ?_
  rw [List.head?_append_of_ne_nil _ (ne_nil_of_spellsDigits hdigits)] at hc
  rcases isDigit_of_spellsDigits hdigits c (List.mem_of_mem_head? hc) with hdigit | rfl
  · exact ⟨(ne_of_isDigit hdigit).1, (ne_of_isDigit hdigit).2.1⟩
  · decide

/-- Its digits end where its exponent begins. -/
theorem span_of_spells (hdigits : SpellsDigits ws fs body) (hpart : SpellsExponent e part) :
    (body ++ part).takeWhile (!isExponentMark ·) = body ∧
      (body ++ part).dropWhile (!isExponentMark ·) = part := by
  have hbody : ∀ c ∈ body, (!isExponentMark c) = true := by
    intro c hc
    rw [not_isExponentMark_iff]
    rcases isDigit_of_spellsDigits hdigits c hc with hdigit | rfl
    · exact (ne_of_isDigit hdigit).2.2.2
    · decide
  have hmark : ∀ c ∈ part.head?, (!isExponentMark c) = false := by
    simpa using head_of_spellsExponent hpart
  exact ⟨takeWhile_append_stop hbody hmark, dropWhile_append_stop hbody hmark⟩

/-- A literal is read, unless its exponent is too wide. -/
theorem parse_of_spells {l : DecimalLiteral} (h : l.Spells text.toList) :
    parse text =
      if 10 ^ 9 < l.exponent.natAbs then .error (.exponentOutOfRange text) else .ok l.decimal := by
  obtain ⟨sign, digits, part, htext, hsign, hdigits, hpart⟩ := h
  have hne : text ≠ "" := by
    rintro rfl
    have hnil : sign ++ (digits ++ part) = [] := htext.symm
    simp [ne_nil_of_spellsDigits hdigits] at hnil
  have htake : takeSign text.toList = (l.negative, digits ++ part) := by
    rw [htext, takeSign_of_spells hsign hdigits]
  obtain ⟨hbefore, hafter⟩ := span_of_spells hdigits hpart
  rw [parse_eq hne htake, hbefore, hafter, exponentOf_of_spells text hpart,
    readMagnitude_of_spells text hdigits]
  split <;> rfl

/-- The texts that are read are the literals whose exponent is not too wide. -/
theorem parse_eq_ok {d : Decimal} :
    parse text = .ok d ↔
      ∃ l : DecimalLiteral, l.Spells text.toList ∧ l.exponent.natAbs ≤ 10 ^ 9 ∧ d = l.decimal := by
  constructor
  · intro h
    obtain ⟨l, hspells, rfl⟩ := spells_of_parse h
    rw [parse_of_spells hspells] at h
    split at h
    · cases h
    · next hnarrow => exact ⟨l, hspells, Nat.not_lt.1 hnarrow, rfl⟩
  · rintro ⟨l, hspells, hnarrow, rfl⟩
    rw [parse_of_spells hspells, if_neg (Nat.not_lt.2 hnarrow)]

/-- The scale and the digits of a decimal that is read are bounded by the length of its text. -/
theorem bounds_of_parse {d : Decimal} (h : parse text = .ok d) :
    d.digitCount ≤ text.length ∧ d.scale.natAbs ≤ text.length + 10 ^ 9 := by
  obtain ⟨⟨negative, ws, fs, e⟩, ⟨sign, digits, part, htext, -, hdigits, -⟩, hnarrow, rfl⟩ :=
    parse_eq_ok.1 h
  have hlength : text.length = sign.length + (digits.length + part.length) := by
    rw [← String.length_toList, htext, List.length_append, List.length_append]
  obtain ⟨hnumeral, hcount⟩ : Digits.isNumeral (ws ++ fs) = true ∧
      ws.length + fs.length ≤ digits.length := by
    cases hdigits with
    | whole h => exact ⟨by simpa using h, by simp⟩
    | pointed h => exact ⟨h, by simp⟩
  obtain ⟨hne, hall⟩ := Digits.isNumeral_iff.1 hnumeral
  constructor
  · have hmantissa : (decimal ⟨negative, ws, fs, e⟩).mantissa.natAbs = Digits.toNat (ws ++ fs) := by
      cases negative <;> simp [decimal]
    have hdigitCount : (decimal ⟨negative, ws, fs, e⟩).digitCount ≤ (ws ++ fs).length := by
      rw [digitCount, hmantissa]
      exact (Digits.length_ofNat_le_iff (List.length_pos_iff.2 hne)).2
        (Digits.toNat_lt (List.all_eq_true.2 hall))
    rw [List.length_append] at hdigitCount
    omega
  · dsimp only [decimal] at hnarrow ⊢
    omega

/-- An exponent that is too wide is refused whatever stands before it. -/
theorem parse_of_hasWideExponent (h : HasWideExponent text.toList) :
    parse text = .error (.exponentOutOfRange text) := by
  obtain ⟨before, part, e, htext, hbefore, hpart, hwide⟩ := h
  obtain ⟨⟨negative, unsigned⟩, htake⟩ : ∃ taken, takeSign text.toList = taken := ⟨_, rfl⟩
  have hdrop : unsigned.dropWhile (!isExponentMark ·) = part := by
    have hsame := dropWhile_takeSign text.toList
    rw [htake, htext, dropWhile_append_stop (fun c hc => not_isExponentMark_iff.2 (hbefore c hc))
      (by simpa using head_of_spellsExponent hpart)] at hsame
    exact hsame
  have hne : text ≠ "" := by
    rintro rfl
    have hnil : before ++ part = [] := htext.symm
    obtain ⟨-, rfl⟩ := List.append_eq_nil_iff.1 hnil
    cases hpart
    cases hwide
  rw [parse_eq hne htake, hdrop, exponentOf_of_spells text hpart, if_pos hwide]
  rfl

theorem parse_eq_error {fault : DecimalError} (h : parse text = .error fault) :
    (fault = .empty ∧ text = "") ∨ fault = .invalid text ∨
      (fault = .exponentOutOfRange text ∧ HasWideExponent text.toList) := by
  by_cases htext : text = ""
  · subst htext
    cases h
    exact .inl ⟨rfl, rfl⟩
  obtain ⟨⟨negative, unsigned⟩, htake⟩ : ∃ taken, takeSign text.toList = taken := ⟨_, rfl⟩
  have hsame := dropWhile_takeSign text.toList
  rw [htake] at hsame
  rw [parse_eq htext htake, hsame] at h
  rcases bind_eq_error.1 h with hexponent | ⟨e, -, h⟩
  · have hmark : ∀ c ∈ (text.toList.dropWhile (!isExponentMark ·)).head?,
        isExponentMark c = true := by
      intro c hc
      have hhead := List.head?_dropWhile_not (!isExponentMark ·) text.toList
      rw [hc] at hhead
      simpa using hhead
    rcases exponentOf_eq_error hmark hexponent with hinvalid | ⟨hrange, e, hspells, hwide⟩
    · exact .inr (.inl hinvalid)
    · refine .inr (.inr ⟨hrange, _, _, e, List.takeWhile_append_dropWhile.symm, ?_, hspells, hwide⟩)
      intro c hc
      have hbefore := List.mem_takeWhile_imp hc
      exact not_isExponentMark_iff.1 hbefore
  · rcases bind_eq_error.1 h with hdigits | ⟨x, -, h⟩
    · exact .inr (.inl (readMagnitude_eq_error hdigits))
    · cases h

theorem parse_eq_empty : parse text = .error .empty ↔ text = "" := by
  constructor
  · intro h
    rcases parse_eq_error h with ⟨-, htext⟩ | hfault | ⟨hfault, -⟩
    · exact htext
    · cases hfault
    · cases hfault
  · rintro rfl
    rfl

theorem parse_eq_exponentOutOfRange :
    parse text = .error (.exponentOutOfRange text) ↔ HasWideExponent text.toList := by
  refine ⟨fun h => ?_, parse_of_hasWideExponent⟩
  rcases parse_eq_error h with ⟨hfault, -⟩ | hfault | ⟨-, hwide⟩
  · cases hfault
  · cases hfault
  · exact hwide

/-- A decimal is known by its scale and its value. -/
theorem ext_of_value {a b : Decimal} (hscale : a.scale = b.scale) (hvalue : a.value = b.value) :
    a = b := by
  obtain ⟨m, s⟩ := a
  obtain ⟨n, t⟩ := b
  obtain rfl : s = t := hscale
  have hmantissa : (m : ℚ) = n := mul_right_cancel₀ (tenPow_pos (-s)).ne' hvalue
  rw [Int.cast_injective hmantissa]

/-- **Decimal literals are read, as what they denote, and no other text is.** A literal whose
exponent is at most `10 ^ 9` either way is read as a decimal with its value; the scale is the number
of its fraction digits less the exponent. The empty text is refused as such, a text with a wider
exponent behind its first mark for that, whatever else is wrong with it, and every other text as no
literal. -/
theorem parse_reads_literals (text : String) :
    (∀ d, parse text = .ok d ↔ ∃ l : DecimalLiteral, l.Spells text.toList ∧
      l.exponent.natAbs ≤ 10 ^ 9 ∧ d.scale = l.fraction.length - l.exponent ∧ d.value = l.value) ∧
    (parse text = .error .empty ↔ text = "") ∧
    (parse text = .error (.exponentOutOfRange text) ↔ HasWideExponent text.toList) ∧
    (parse text = .error (.invalid text) ↔ text ≠ "" ∧ ¬HasWideExponent text.toList ∧
      ¬∃ l : DecimalLiteral, l.Spells text.toList ∧ l.exponent.natAbs ≤ 10 ^ 9) := by
  refine ⟨fun d => ?_, parse_eq_empty, parse_eq_exponentOutOfRange, ?_⟩
  · rw [parse_eq_ok]
    refine exists_congr fun l => and_congr_right fun _ => and_congr_right fun _ => ?_
    constructor
    · rintro rfl
      exact ⟨rfl, l.value_decimal⟩
    · rintro ⟨hscale, hvalue⟩
      exact ext_of_value hscale (hvalue.trans l.value_decimal.symm)
  · rw [← parse_eq_exponentOutOfRange, Ne, ← parse_eq_empty]
    constructor
    · intro h
      refine ⟨by simp [h], by simp [h], ?_⟩
      rintro ⟨l, hspells, hnarrow⟩
      have hread := parse_eq_ok.2 ⟨l, hspells, hnarrow, rfl⟩
      cases h.symm.trans hread
    · rintro ⟨hempty, hwide, hliteral⟩
      cases hresult : parse text with
      | ok d =>
        obtain ⟨l, hspells, hnarrow, -⟩ := parse_eq_ok.1 hresult
        exact absurd ⟨l, hspells, hnarrow⟩ hliteral
      | error fault =>
        rcases parse_eq_error hresult with ⟨rfl, -⟩ | rfl | ⟨rfl, -⟩
        · exact absurd hresult hempty
        · rfl
        · exact absurd hresult hwide

end Decimal

end TableExchange
