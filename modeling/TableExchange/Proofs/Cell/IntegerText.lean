import TableExchange.Proofs.Cell.Spellings
import TableExchange.Proofs.Number.PlainText
import TableExchange.Proofs.Row.Columns

/-!
# An integer, as a number and as text

An integer reaches a cell as a number or in its decimal text, and the two ways share no code: the
number is taken as it is, the text is read as a literal, scaled and cut off. The cells convert to
the same numbers all the same, and columns of numbers make the same cells of both. Only the limit on
the digits of an integer is one of texts alone.

* `Cell.doubleOfText_of_parse`, `Cell.longOfText_of_parse`: cells built from a literal.
* `Cell.IntegerForm`: the three forms in which a value of a driver carries an integer.
* `Cell.integer_as_text`: what the two ways have in common, and what happens beyond the limit.
-/

namespace TableExchange

theorem toLower_of_isDigit {a : Char} (h : a.isDigit = true) : a.toLower = a := by
  have hle : a.toNat ≤ 57 := (Char.isDigit_iff_toNat.1 h).2
  unfold Char.toLower
  rw [dif_neg]
  rintro ⟨hupper, -⟩
  have hge : 65 ≤ a.toNat := hupper
  omega

namespace Cell

variable {c : Cell} {text : String} {d : Decimal} {n : Int} {column : Column} {v : DriverValue}

/-! ## Cells from literals -/

/-- A literal has a digit, and a special word has none. -/
theorem sameLetters_specialWord (hparse : Decimal.parse text = .ok d) :
    ∀ word ∈ specialWords, sameLetters text word = false := by
  have hwords : ∀ word ∈ specialWords, (word.toList.map Char.toLower).any Char.isDigit = false := by
    decide
  obtain ⟨a, hmem, hdigit⟩ : ∃ a ∈ text.toList, a.isDigit = true := by
    obtain ⟨l, ⟨sign, digits, part, htext, -, hdigits, -⟩, -⟩ := Decimal.parse_eq_ok.1 hparse
    obtain ⟨a, hmem, hdigit⟩ := Decimal.exists_isDigit_of_spellsDigits hdigits
    refine ⟨a, ?_, hdigit⟩
    rw [htext]
    simp [hmem]
  intro word hword
  rw [Bool.eq_false_iff]
  intro hsame
  have hletters : text.toList.map Char.toLower = word.toList.map Char.toLower := by
    simpa [sameLetters] using hsame
  have hlower : a ∈ word.toList.map Char.toLower := by
    rw [← hletters, ← toLower_of_isDigit hdigit]
    exact List.mem_map_of_mem hmem
  exact List.any_eq_false.1 (hwords word hword) a hlower hdigit

theorem doubleOfText_of_parse (hparse : Decimal.parse text = .ok d) :
    doubleOfText text = .ok (doubleText (some text)) := by
  have hword : specialWords.find? (sameLetters text) = none :=
    List.find?_eq_none.2 fun word hword => by simp [sameLetters_specialWord hparse word hword]
  rw [doubleOfText, hword]
  simp only [hparse]

theorem longOfText_of_parse (hparse : Decimal.parse text = .ok d) :
    longOfText text = if d.HasIntegerPart then
        .ok ⟨.long (some (towardZero d.value)), text.utf8ByteSize⟩
      else .error (.overflow (.ofText text .bigInteger)) := by
  rw [longOfText, hparse]
  by_cases h : d.HasIntegerPart
  · rw [if_pos h]
    simp only [Decimal.toInteger?_of_hasIntegerPart h]
  · rw [if_neg h]
    simp only [Decimal.toInteger?_eq_none h]

/-! ## Integers -/

/-- The forms in which a value of a driver carries an integer. -/
inductive IntegerForm (n : Int) : DriverValue → Prop
  | number : IntegerForm n (.integer n)
  | decimal : IntegerForm n (.decimal (intText n))
  | text : IntegerForm n (.text (intText n))

theorem integerOfText_intText (n : Int) (target : Target) :
    c.integerOfText (intText n) target =
      if (Digits.ofNat n.natAbs).length ≤ Decimal.maxIntegerDigits then .ok n
      else .error (.overflow (.ofText (intText n) target)) := by
  rw [integerOfText_of_parse (Decimal.parse_intText n), Decimal.value_ofInt, towardZero_intCast]
  simp only [Decimal.hasIntegerPart_ofInt]

theorem longOfText_intText (n : Int) :
    longOfText (intText n) =
      if (Digits.ofNat n.natAbs).length ≤ Decimal.maxIntegerDigits then
        .ok ⟨.long (some n), (intText n).utf8ByteSize⟩
      else .error (.overflow (.ofText (intText n) .bigInteger)) := by
  rw [longOfText_of_parse (Decimal.parse_intText n), Decimal.value_ofInt, towardZero_intCast]
  simp only [Decimal.hasIntegerPart_ofInt]

/-- A 64-bit integer has at most 19 digits. -/
theorem length_le_of_isLong (h : isLong n = true) :
    (Digits.ofNat n.natAbs).length ≤ Decimal.maxIntegerDigits := by
  have hlong := isLong_iff.1 h
  have hle : (Digits.ofNat n.natAbs).length ≤ 19 :=
    (Digits.length_ofNat_le_iff (by decide)).2 (by omega)
  exact hle.trans (by decide)

/-- A text too wide for an integer overflows just where the number itself would. -/
theorem longOfContent_intText (n : Int) : c.longOfContent (intText n) = guarded (narrow n) := by
  rw [longOfContent, integerOfText_intText]
  split
  · rfl
  · next hwide => rw [narrow_overflow (mt length_le_of_isLong hwide)]; rfl

theorem materializeCell_integer (htype : column.type.isInteger = true) (h : IntegerForm n v)
    (hdigits : (Digits.ofNat n.natAbs).length ≤ Decimal.maxIntegerDigits) :
    ∃ cell, materializeCell column v = .ok cell ∧ cell.value = .long (some n) := by
  have hlong := longOfText_intText n
  rw [if_pos hdigits] at hlong
  cases h with
  | number =>
    rw [materializeCell_of_kind rfl (columnKind?_of_isInteger htype)]
    exact ⟨_, rfl, rfl⟩
  | decimal | text =>
    rw [materializeCell_of_kind rfl (columnKind?_of_isInteger htype)]
    exact ⟨_, hlong, rfl⟩

theorem materializeCell_numeric (htype : column.type.isNumeric = true) (h : IntegerForm n v) :
    materializeCell column v = .ok (doubleText (some (intText n))) := by
  cases h with
  | number =>
    rw [materializeCell_of_kind rfl (columnKind?_of_isNumeric htype), Decimal.intText_eq_plain]
    rfl
  | decimal | text =>
    rw [materializeCell_of_kind rfl (columnKind?_of_isNumeric htype)]
    exact doubleOfText_of_parse (Decimal.parse_intText n)

/-- **An integer means the same as a number and as text.** A cell that holds the number and one that
holds its decimal text, a string or a double cell, convert alike to a decimal, to a 64-bit integer
and to a double, whatever the integer, and to an integer of any size if it has at most 4096 digits.
Columns of integers make cells with that number of it, again up to 4096 digits, and columns of other
numbers make one and the same cell with its text, in whichever of the three forms the driver gives
it. With more digits every way from the text to an integer ends in an overflow. -/
theorem integer_as_text (n : Int) (c₁ c₂ : Cell) (h₁ : c₁.value = .long (some n))
    (h₂ : c₂.HoldsText (intText n)) :
    c₂.asBigDecimal = c₁.asBigDecimal ∧ c₁.asBigDecimal = .ok (some (.ofInt n)) ∧
    c₂.asLong = c₁.asLong ∧
    c₂.asDouble = c₁.asDouble ∧
    (∀ (column : Column) (v : DriverValue), column.type.isNumeric = true → IntegerForm n v →
      materializeCell column v = .ok (doubleText (some (intText n)))) ∧
    ((Digits.ofNat n.natAbs).length ≤ 4096 →
      c₂.asBigInteger = c₁.asBigInteger ∧ c₁.asBigInteger = .ok (some n) ∧
      ∀ (column : Column) (v : DriverValue), column.type.isInteger = true → IntegerForm n v →
        ∃ cell, materializeCell column v = .ok cell ∧ cell.value = .long (some n)) ∧
    (4096 < (Digits.ofNat n.natAbs).length →
      c₂.asBigInteger = .error (.overflow (.ofText (intText n) .bigInteger)) ∧
      c₂.asLong = .error (.overflow (.ofText (intText n) .long)) ∧
      longOfText (intText n) = .error (.overflow (.ofText (intText n) .bigInteger)) ∧
      ∀ (column : Column) (v : DriverValue), column.type.isInteger = true →
        v = .decimal (intText n) ∨ v = .text (intText n) →
        materializeCell column v = .error (.overflow (.ofText (intText n) .bigInteger))) := by
  have hinteger : c₁.asBigInteger = .ok (some n) := by rw [asBigInteger, h₁]
  have hdecimal : c₁.asBigDecimal = .ok (some (.ofInt n)) := by rw [asBigDecimal, h₁]; rfl
  have hlong : c₂.asLong = c₁.asLong := by
    rw [asLong_of_text h₂, longOfContent_intText, asLong, h₁]
  have hdouble : c₂.asDouble = c₁.asDouble := by
    rw [asDouble_of_text h₂, doubleOfContent_of_parse (Decimal.parse_intText n), asDouble, h₁]
  refine ⟨?_, hdecimal, hlong, hdouble, fun column v htype hform =>
    materializeCell_numeric htype hform, fun hdigits => ⟨?_, hinteger, fun column v htype hform =>
      materializeCell_integer htype hform hdigits⟩, fun hwide => ?_⟩
  · rw [asBigDecimal_of_text h₂, decimalOfText_of_parse (Decimal.parse_intText n), hdecimal]
    rfl
  · have hfits : (Digits.ofNat n.natAbs).length ≤ Decimal.maxIntegerDigits := hdigits
    rw [asBigInteger_of_text h₂, integerOfText_intText, if_pos hfits, hinteger]
    rfl
  · have hno : ¬(Digits.ofNat n.natAbs).length ≤ Decimal.maxIntegerDigits := Nat.not_le.2 hwide
    have hbuilt := longOfText_intText n
    rw [if_neg hno] at hbuilt
    refine ⟨?_, ?_, hbuilt, fun column v htype hform => ?_⟩
    · rw [asBigInteger_of_text h₂, integerOfText_intText, if_neg hno]
      rfl
    · rw [asLong_of_text h₂, longOfContent_intText, narrow_overflow (mt length_le_of_isLong hno)]
      rfl
    · rcases hform with rfl | rfl <;>
      · rw [materializeCell_of_kind rfl (columnKind?_of_isInteger htype)]
        exact hbuilt

/-- The column of a number with the given type. -/
def numberColumn (type : TypeCode) : Column := ⟨"n", type, type.label, 19⟩

/-- The least 64-bit integer means the same in both ways, and a power of ten of 4097 digits is an
integer as a number alone. -/
theorem integer_as_text_bounds :
    (long (some minLong)).value = .long (some minLong) ∧
    (string (some (intText minLong))).HoldsText (intText minLong) ∧
    (string (some (intText minLong))).asLong = .ok (some minLong) ∧
    (string (some (intText minLong))).asBigInteger = .ok (some minLong) ∧
    (string (some (intText minLong))).asDouble = (long (some minLong)).asDouble ∧
    (∃ cell, materializeCell (numberColumn .bigInt) (.text (intText minLong)) = .ok cell ∧
      cell.value = .long (some minLong)) ∧
    materializeCell (numberColumn .numeric) (.integer minLong) =
      .ok (doubleText (some (intText minLong))) ∧
    (string (some (intText (10 ^ 4096)))).asBigInteger =
      .error (.overflow (.ofText (intText (10 ^ 4096)) .bigInteger)) := by
  -- the exponent stays a variable, so that the power is never computed
  obtain ⟨k, hk⟩ : ∃ k, k = 4096 := ⟨_, rfl⟩
  rw [← hk]
  have hwide : 4096 < (Digits.ofNat (10 ^ k : Int).natAbs).length := by
    have hmany : ¬(Digits.ofNat (10 ^ k)).length ≤ 4096 := by
      rw [Digits.length_ofNat_le_iff (by decide), hk]
      exact lt_irrefl _
    rw [Int.natAbs_pow]
    exact Nat.not_le.1 hmany
  obtain ⟨-, -, hlong, hdouble, hnumeric, hnarrow, -⟩ := integer_as_text minLong
    (long (some minLong)) (string (some (intText minLong))) rfl (.inr rfl)
  obtain ⟨hinteger, hvalue, hcolumn⟩ := hnarrow (by decide)
  obtain ⟨-, -, -, -, -, -, hoverflow⟩ := integer_as_text (10 ^ k)
    (long (some (10 ^ k))) (string (some (intText (10 ^ k)))) rfl (.inr rfl)
  exact ⟨rfl, .inr rfl, hlong.trans (by decide), hinteger.trans hvalue, hdouble,
    hcolumn (numberColumn .bigInt) _ rfl .text, hnumeric (numberColumn .numeric) _ rfl .number,
    (hoverflow hwide).1⟩

end Cell

end TableExchange
