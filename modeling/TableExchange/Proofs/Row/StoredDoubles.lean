import TableExchange.Proofs.Cell.DecimalText
import TableExchange.Proofs.Cell.DoubleRoundTrip
import TableExchange.Proofs.Cell.IntegerText
import TableExchange.Proofs.Row.CellKinds

/-!
# The stored text of doubles

A double cell should keep plain decimal text or one of three words. Numbers and decimals are written
so. A text is only checked, and then kept as it came: it is in this form afterwards if it was
before, and `1e5`, `+1`, `.5` and `5.` stay what they are.

* `IsPlainText`, `Cell.IsNormalized`: the form that the text should have.
* `isPlainText_iff_of_spells`: which decimal literals are plain text.
* `Cell.DoubleSource`: the ways to build a double cell.
* `Cell.normalized_by_source`: which cells are in this form, for each of these.
-/

namespace TableExchange

open DecimalLiteral

variable {text : String} {sign digits part : List Char} {ws fs : Digits} {negative : Bool} {e : Int}

/-! ## Plain text -/

/-- An optional minus sign, digits, and possibly a point with digits behind it. -/
def IsPlainText (text : String) : Prop :=
  ∃ sign digits places, text.toList = sign ++ digits ∧ (sign = ['-'] ∨ sign = []) ∧
    Positional places digits

theorem isPlainText_plain (d : Decimal) : IsPlainText d.plain := by
  refine ⟨_, _, _, d.toList_plain, ?_, Decimal.positional_magnitudeChars _ _⟩
  split
  · exact .inl rfl
  · exact .inr rfl

/-- Positional digits are those of a literal with digits on both sides of its point. -/
theorem positional_iff :
    (∃ places, Positional places digits) ↔
      ∃ ws fs, SpellsDigits ws fs digits ∧ ws ≠ [] ∧ (fs ≠ [] ∨ digits = ws) := by
  constructor
  · rintro ⟨places, ws, fs, hws, hfs, rfl, hdigits⟩
    have hne : ws ≠ [] := (Digits.isNumeral_iff.1 hws).1
    by_cases hplaces : fs.length = 0
    · rw [if_pos hplaces] at hdigits
      subst hdigits
      exact ⟨digits, [], .whole hws, hne, .inr rfl⟩
    · rw [if_neg hplaces] at hdigits
      subst hdigits
      exact ⟨ws, fs, .pointed ((Digits.isNumeral_append hne).2 ⟨hws, hfs⟩), hne,
        .inl (mt List.length_eq_zero_iff.2 hplaces)⟩
  · rintro ⟨ws, fs, hspells, hne, hend⟩
    cases hspells with
    | whole h => exact ⟨0, digits, [], h, rfl, rfl, rfl⟩
    | pointed h =>
      obtain ⟨hws, hfs⟩ := (Digits.isNumeral_append hne).1 h
      have hfraction : fs ≠ [] := hend.resolve_right (by simp)
      exact ⟨_, .pointed hws hfs (mt List.length_eq_zero_iff.1 hfraction)⟩

/-- A decimal literal is plain text if it has no plus sign, no exponent, and digits on both sides of
its point. -/
theorem isPlainText_iff_of_spells (htext : text.toList = sign ++ (digits ++ part))
    (hsign : SpellsSign negative sign) (hdigits : SpellsDigits ws fs digits)
    (hpart : SpellsExponent e part) :
    IsPlainText text ↔ sign ≠ ['+'] ∧ ws ≠ [] ∧ (fs ≠ [] ∨ digits = ws) ∧ part = [] := by
  constructor
  · rintro ⟨sign', digits', places, htext', hsign', hpositional⟩
    obtain ⟨ws', fs', hdigits', hne, hend⟩ := positional_iff.1 ⟨places, hpositional⟩
    obtain ⟨negative', hspells'⟩ : ∃ negative, SpellsSign negative sign' := by
      rcases hsign' with rfl | rfl
      · exact ⟨_, .minus⟩
      · exact ⟨_, .missing⟩
    -- The text is taken apart in one way, so that its parts agree one after the other.
    have hwhole : sign ++ (digits ++ part) = sign' ++ (digits' ++ []) := by
      rw [← htext, htext', List.append_nil]
    have hrest : digits ++ part = digits' ++ [] := by
      have htake := Decimal.takeSign_of_spells hsign hdigits part
      rw [hwhole, Decimal.takeSign_of_spells hspells' hdigits' []] at htake
      exact (congrArg Prod.snd htake).symm
    obtain rfl : sign = sign' := List.append_cancel_right (hrest ▸ hwhole)
    obtain ⟨hbefore, hafter⟩ := Decimal.span_of_spells hdigits hpart
    obtain ⟨hbefore', hafter'⟩ := Decimal.span_of_spells hdigits' .missing
    rw [hrest] at hbefore hafter
    obtain rfl : digits = digits' := hbefore.symm.trans hbefore'
    have hparts := (Decimal.splitPoint_of_spells hdigits).symm.trans
      (Decimal.splitPoint_of_spells hdigits')
    cases hparts
    refine ⟨?_, hne, hend, hafter.symm.trans hafter'⟩
    rcases hsign' with rfl | rfl <;> decide
  · rintro ⟨hplus, hne, hend, rfl⟩
    obtain ⟨places, hpositional⟩ := positional_iff.2 ⟨ws, fs, hdigits, hne, hend⟩
    refine ⟨sign, digits, places, by rw [htext, List.append_nil], ?_, hpositional⟩
    cases hsign with
    | minus => exact .inl rfl
    | plus => exact absurd rfl hplus
    | missing => exact .inr rfl

theorem isDecimalText_of_isPlainText (h : IsPlainText text) : IsDecimalText text := by
  obtain ⟨sign, digits, places, htext, hsign, hpositional⟩ := h
  obtain ⟨ws, fs, hdigits, -⟩ := positional_iff.1 ⟨places, hpositional⟩
  have hspells : text.toList = sign ++ (digits ++ []) := by rw [htext, List.append_nil]
  rcases hsign with rfl | rfl
  · exact ⟨⟨true, ws, fs, 0⟩, ⟨_, _, _, hspells, .minus, hdigits, .missing⟩, by simp⟩
  · exact ⟨⟨false, ws, fs, 0⟩, ⟨_, _, _, hspells, .missing, hdigits, .missing⟩, by simp⟩

theorem not_isSpecialText_of_isDecimalText (h : IsDecimalText text) : ¬IsSpecialText text := by
  obtain ⟨d, hparse⟩ := exists_parse_of_isDecimalText h
  rintro ⟨word, hword, hsame⟩
  rw [Cell.sameLetters_specialWord hparse word hword] at hsame
  cases hsame

namespace Cell

/-! ## Cells of numbers -/

/-- A double cell that is null, or keeps plain decimal text or one of the three words. -/
def IsNormalized (c : Cell) : Prop :=
  ∃ stored, c.value = .double stored ∧
    ∀ text, stored = some text → text ∈ specialWords ∨ IsPlainText text

theorem isNormalized_doubleText :
    (doubleText (some text)).IsNormalized ↔ text ∈ specialWords ∨ IsPlainText text := by
  constructor
  · rintro ⟨stored, hvalue, hstored⟩
    cases hvalue
    exact hstored text rfl
  · intro h
    refine ⟨_, rfl, fun stored hstored => ?_⟩
    cases hstored
    exact h

theorem isNormalized_null : (null .double).IsNormalized := ⟨none, rfl, nofun⟩

theorem isPlainText_text (x : Binary64.Finite) : IsPlainText (Binary64.text .cell (.finite x)) := by
  by_cases hzero : x.significand = 0
  · rw [Binary64.finite_eq_zero hzero]
    cases x.negative with
    | true => exact ⟨['-'], ['0'], 0, rfl, .inl rfl, ['0'], [], rfl, rfl, rfl, rfl⟩
    | false => exact ⟨[], ['0'], 0, rfl, .inr rfl, ['0'], [], rfl, rfl, rfl, rfl⟩
  · obtain ⟨d, -, hplain, -⟩ := Binary64.exists_decimal_text_of_ne_zero hzero
    rw [← hplain]
    exact isPlainText_plain d

theorem isNormalized_double (x : Option Binary64) : (double x).IsNormalized := by
  cases x with
  | none => exact isNormalized_null
  | some x =>
    refine isNormalized_doubleText.2 ?_
    cases x with
    | finite x => exact .inr (isPlainText_text x)
    | infinity negative => exact .inl (by cases negative <;> decide)
    | nan => exact .inl (by decide)

theorem isNormalized_doubleOfDecimal (d : Option Decimal) : (doubleOfDecimal d).IsNormalized := by
  cases d with
  | none => exact isNormalized_null
  | some d => exact isNormalized_doubleText.2 (.inr (isPlainText_plain d))

/-! ## Cells of texts -/

variable {c : Cell}

theorem doubleOfText_of_isSpecialText (h : IsSpecialText text) :
    ∃ word ∈ specialWords, doubleOfText text = .ok (doubleText (some word)) := by
  obtain ⟨word, hfind⟩ : ∃ word, specialWords.find? (sameLetters text) = some word := by
    rw [← Option.isSome_iff_exists, List.find?_isSome]
    exact h
  refine ⟨word, List.mem_of_find?_eq_some hfind, ?_⟩
  rw [doubleOfText, hfind]

theorem exists_doubleOfText_iff :
    (∃ c, doubleOfText text = .ok c) ↔ IsDecimalText text ∨ IsSpecialText text := by
  rw [← not_iff_not, not_or, ← doubleOfText_fails_iff]
  cases doubleOfText text <;> simp

/-- A special word is replaced by its own spelling; any other text is kept. -/
theorem isNormalized_of_doubleOfText (h : doubleOfText text = .ok c) :
    c.IsNormalized ↔ IsSpecialText text ∨ IsPlainText text := by
  by_cases hspecial : IsSpecialText text
  · obtain ⟨word, hword, hcell⟩ := doubleOfText_of_isSpecialText hspecial
    cases h.symm.trans hcell
    exact iff_of_true (isNormalized_doubleText.2 (.inl hword)) (.inl hspecial)
  · have hdecimal : IsDecimalText text :=
      (exists_doubleOfText_iff.1 ⟨c, h⟩).resolve_right hspecial
    obtain ⟨d, hparse⟩ := exists_parse_of_isDecimalText hdecimal
    cases h.symm.trans (doubleOfText_of_parse hparse)
    rw [isNormalized_doubleText]
    refine or_congr_left (iff_of_false (fun hword => hspecial ⟨text, hword, ?_⟩) hspecial)
    rw [sameLetters, beq_self_eq_true]

/-- Which texts are accepted and then normalized, and which are accepted although they are not. -/
theorem exists_isNormalized_iff :
    ((∃ c, doubleOfText text = .ok c ∧ c.IsNormalized) ↔
      IsSpecialText text ∨ IsPlainText text) ∧
    ((∃ c, doubleOfText text = .ok c ∧ ¬c.IsNormalized) ↔
      IsDecimalText text ∧ ¬IsPlainText text) := by
  constructor
  · constructor
    · rintro ⟨c, hc, hnormal⟩
      exact (isNormalized_of_doubleOfText hc).1 hnormal
    · intro hform
      obtain ⟨c, hc⟩ :=
        exists_doubleOfText_iff.2 (hform.symm.imp_left isDecimalText_of_isPlainText)
      exact ⟨c, hc, (isNormalized_of_doubleOfText hc).2 hform⟩
  · constructor
    · rintro ⟨c, hc, hnormal⟩
      rw [isNormalized_of_doubleOfText hc, not_or] at hnormal
      exact ⟨(exists_doubleOfText_iff.1 ⟨c, hc⟩).resolve_right hnormal.1, hnormal.2⟩
    · rintro ⟨hdecimal, hplain⟩
      obtain ⟨c, hc⟩ := exists_doubleOfText_iff.2 (.inl hdecimal)
      refine ⟨c, hc, ?_⟩
      rw [isNormalized_of_doubleOfText hc, not_or]
      exact ⟨not_isSpecialText_of_isDecimalText hdecimal, hplain⟩

/-! ## Cells of values -/

theorem isNormalized_of_doubleCell {v : DriverValue} (h : doubleCell v = .ok c) :
    c.IsNormalized ↔
      ∀ text, v = .decimal text ∨ v = .text text → IsSpecialText text ∨ IsPlainText text := by
  cases v with
  | decimal text | text text =>
    rw [isNormalized_of_doubleOfText h]
    exact ⟨fun hform _ ht => by rcases ht with ht | ht <;> cases ht; exact hform,
      fun hform => hform text (by simp)⟩
  | double x =>
    cases h
    exact iff_of_true (isNormalized_double _) nofun
  | integer n =>
    cases h
    exact iff_of_true (isNormalized_doubleOfDecimal _) nofun
  | null | bool b | bytes data | instant millis nanos => cases h

theorem isNormalized_of_materializeCell {column : Column} {v : DriverValue}
    (h : materializeCell column v = .ok c) (hkind : c.kind = .double) :
    c.IsNormalized ↔
      ∀ text, v = .decimal text ∨ v = .text text → IsSpecialText text ∨ IsPlainText text := by
  rcases eq_null_or_isNull_false v with rfl | hnull
  · cases h
    rw [kind_null] at hkind
    rw [hkind]
    exact iff_of_true isNormalized_null nofun
  · have hread : ReadAs v (cellKind column v) (materializeCell column v) :=
      materializeCell_readAs hnull
    rw [h] at hread
    cases hread with
    | cell hown _ =>
      rw [materializeCell_of_isNull_false hnull, ← hown, hkind] at h
      exact isNormalized_of_doubleCell h

/-! ## Cells of every source -/

/-- What a double cell may be built from. -/
inductive DoubleSource where
  | null (kind : CellKind)
  | number (x : Option Binary64)
  | decimal (d : Option Decimal)
  | text (text : String)
  | value (column : Column) (v : DriverValue)

namespace DoubleSource

def build : DoubleSource → Except CellError Cell
  | .null kind => .ok (Cell.null kind)
  | .number x => .ok (double x)
  | .decimal d => .ok (doubleOfDecimal d)
  | .text text => doubleOfText text
  | .value column v => materializeCell column v

/-- The source is this text, by itself or as the value of a driver. -/
inductive IsText (text : String) : DoubleSource → Prop
  | text : IsText text (.text text)
  | decimalValue (column : Column) : IsText text (.value column (.decimal text))
  | textValue (column : Column) : IsText text (.value column (.text text))

theorem isText_value_iff {column : Column} {v : DriverValue} :
    IsText text (.value column v) ↔ v = .decimal text ∨ v = .text text := by
  constructor
  · rintro (_ | _ | _)
    · exact .inl rfl
    · exact .inr rfl
  · rintro (rfl | rfl)
    · exact .decimalValue column
    · exact .textValue column

end DoubleSource

/-- **Doubles are normalized, except for text that is not.** A double cell is normalized if it keeps
nothing, one of the three words, or an optional minus sign, digits, and possibly a point with digits
behind it. All cells of nulls, of numbers and of decimals are; those of integers and of numbers that
a driver gives are, too. The cell of a text, by itself or from a driver, is so exactly if the text
is one of the words, in any case, or in that form already. These texts are all accepted, and so is
any other decimal literal. -/
theorem normalized_by_source (s : DoubleSource) :
    (∀ c, s.build = .ok c → c.kind = .double →
      (c.IsNormalized ↔ ∀ text, s.IsText text → IsSpecialText text ∨ IsPlainText text)) ∧
    ∀ text, s = .text text →
      ((∃ c, s.build = .ok c ∧ c.IsNormalized) ↔ IsSpecialText text ∨ IsPlainText text) ∧
      ((∃ c, s.build = .ok c ∧ ¬c.IsNormalized) ↔ IsDecimalText text ∧ ¬IsPlainText text) := by
  refine ⟨fun c h hkind => ?_, fun text hs => by rw [hs]; exact exists_isNormalized_iff⟩
  cases s with
  | null kind =>
    cases h
    rw [kind_null] at hkind
    rw [hkind]
    exact iff_of_true isNormalized_null nofun
  | number x =>
    cases h
    exact iff_of_true (isNormalized_double x) nofun
  | decimal d =>
    cases h
    exact iff_of_true (isNormalized_doubleOfDecimal d) nofun
  | text text =>
    rw [isNormalized_of_doubleOfText h]
    exact ⟨fun hform _ ht => by cases ht; exact hform, fun hform => hform text .text⟩
  | value column v =>
    rw [isNormalized_of_materializeCell h hkind]
    simp only [DoubleSource.isText_value_iff]

/-- Text in the form and a word in small letters. -/
theorem normalized_by_source_minusHalf :
    IsPlainText "-0.5" ∧ IsSpecialText "nan" ∧
    (∃ c, doubleOfText "nan" = .ok c ∧ c.IsNormalized) ∧
    materializeCell (numberColumn .numeric) (.decimal "-0.5") = .ok (doubleText (some "-0.5")) ∧
    (doubleText (some "-0.5")).IsNormalized := by
  have hplain : IsPlainText "-0.5" :=
    ⟨['-'], ['0', '.', '5'], 1, rfl, .inl rfl, ['0'], ['5'], rfl, rfl, rfl, rfl⟩
  have hspecial : IsSpecialText "nan" := ⟨nanWord, by decide, by decide⟩
  have hcell : materializeCell (numberColumn .numeric) (.decimal "-0.5") =
      .ok (doubleText (some "-0.5")) := by decide
  obtain ⟨-, hword⟩ := normalized_by_source (.text "nan")
  obtain ⟨hvalue, -⟩ := normalized_by_source (.value (numberColumn .numeric) (.decimal "-0.5"))
  refine ⟨hplain, hspecial, (hword "nan" rfl).1.2 (.inl hspecial), hcell, ?_⟩
  refine (hvalue _ hcell rfl).2 fun text ht => ?_
  cases ht
  exact .inr hplain

/-- A literal with an exponent stays one in its cell, and as a decimal it is written out. -/
theorem not_isNormalized_1e5 :
    materializeCell (numberColumn .double) (.decimal "1e5") = .ok (doubleText (some "1e5")) ∧
    doubleOfText "1e5" = .ok (doubleText (some "1e5")) ∧
    (doubleText (some "1e5")).kind = .double ∧ ¬(doubleText (some "1e5")).IsNormalized ∧
    Decimal.parse "1e5" = .ok ⟨1, -5⟩ ∧
    doubleOfDecimal (some ⟨1, -5⟩) = doubleText (some "100000") := by
  refine ⟨by decide, by decide, rfl, ?_, by decide, by decide⟩
  rw [isNormalized_doubleText, not_or]
  refine ⟨by decide, fun hplain => ?_⟩
  have hdigits : SpellsDigits ['1'] [] ['1'] := .whole rfl
  have hpart : SpellsExponent 5 ['e', '5'] :=
    .marked (.inl rfl) (.missing : SpellsSign false []) (by rfl : Digits.isNumeral ['5'] = true)
  obtain ⟨-, -, -, hnone⟩ := (isPlainText_iff_of_spells rfl .missing hdigits hpart).1 hplain
  cases hnone

end Cell

end TableExchange
