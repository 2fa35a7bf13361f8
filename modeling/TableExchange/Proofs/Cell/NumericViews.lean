import TableExchange.Cell.Conversion
import TableExchange.Proofs.Number.IntegerPart
import TableExchange.Proofs.Number.Literal

/-!
# Numbers in cells

The views of a cell as a decimal, as an integer of any size and as a 64-bit integer rest on one
decimal. Each narrower view is the wider one, cut off at the point or checked against a range.

* `Cell.decimalOfText_eq_ok`, `Cell.integerOfText_eq_ok`, `Cell.longOfContent_eq_ok`: when each step
  succeeds, and with what.
* `Cell.longOfContent_overflow`: the last step fails only by an overflow, if there is a decimal.
* `Cell.numeric_views_agree`: the views of a cell side by side.
-/

namespace TableExchange

theorem isLong_iff {n : Int} : isLong n = true ↔ -2 ^ 63 ≤ n ∧ n < 2 ^ 63 := by
  rw [isLong, decide_eq_true_iff, minLong, maxLong]
  omega

theorem narrow_eq_ok {n m : Int} {target : Target} :
    narrow n target = .ok m ↔ n = m ∧ isLong n = true := by
  rw [narrow]
  split
  · next h => simp [h]
  · next h => simp [h]

theorem narrow_overflow {n : Int} {target : Target} (h : ¬isLong n = true) :
    narrow n target = .error (.ofText (intText n) target) := by
  rw [narrow, if_neg h]

namespace Cell

variable {c : Cell} {text : String} {target : Target} {d : Decimal} {n : Int}

/-- A cell that is not null and has a text as its number. -/
def HoldsText (c : Cell) (text : String) : Prop :=
  c.value = .double (some text) ∨ c.value = .string (some text)

/-! ## Steps -/

/-- A special word is no decimal literal. -/
theorem not_mem_specialWords (h : Decimal.parse text = .ok d) : text ∉ specialWords := by
  have hrefused : ∀ word ∈ specialWords, Decimal.parse word = .error (.invalid word) := by decide
  intro hword
  rw [hrefused text hword] at h
  cases h

theorem decimalOfText_eq_ok :
    c.decimalOfText text target = .ok d ↔ text ∉ specialWords ∧ Decimal.parse text = .ok d := by
  rw [decimalOfText]
  split
  · next h => simp [h]
  · next h => simp [h, mapError_eq_ok]

theorem integerOfText_eq_ok :
    c.integerOfText text target = .ok n ↔
      ∃ d, Decimal.parse text = .ok d ∧ d.HasIntegerPart ∧ n = towardZero d.value := by
  rw [integerOfText, bind_eq_ok]
  refine exists_congr fun d => ?_
  rw [decimalOfText_eq_ok, ← Decimal.toInteger?_eq_some_iff]
  constructor
  · rintro ⟨⟨-, hparse⟩, h⟩
    split at h
    · next hinteger =>
      cases h
      exact ⟨hparse, hinteger⟩
    · cases h
  · rintro ⟨hparse, hinteger⟩
    rw [hinteger]
    exact ⟨⟨not_mem_specialWords hparse, hparse⟩, rfl⟩

theorem longOfContent_eq_ok :
    c.longOfContent text = .ok n ↔ c.integerOfText text .long = .ok n ∧ isLong n = true := by
  rw [longOfContent, bind_eq_ok]
  constructor
  · rintro ⟨m, hinteger, h⟩
    obtain ⟨rfl, hlong⟩ := narrow_eq_ok.1 (mapError_eq_ok.1 h)
    exact ⟨hinteger, hlong⟩
  · rintro ⟨hinteger, hlong⟩
    exact ⟨n, hinteger, mapError_eq_ok.2 (narrow_eq_ok.2 ⟨rfl, hlong⟩)⟩

/-- A decimal that is not a 64-bit integer is refused as an overflow of these. -/
theorem longOfContent_overflow (hparse : Decimal.parse text = .ok d)
    (hfail : ∀ n, c.longOfContent text ≠ .ok n) :
    ∃ preview, c.longOfContent text = .error (.overflow ⟨preview, .long⟩) := by
  have hdecimal : c.decimalOfText text .long = .ok d :=
    decimalOfText_eq_ok.2 ⟨not_mem_specialWords hparse, hparse⟩
  cases hinteger : d.toInteger? with
  | none =>
    refine ⟨cut text, ?_⟩
    rw [longOfContent, integerOfText, hdecimal]
    simp only [bind, Except.bind, hinteger]
    rfl
  | some n =>
    have hlong : ¬isLong n = true := by
      intro hlong
      refine hfail n (longOfContent_eq_ok.2 ⟨integerOfText_eq_ok.2 ⟨d, hparse, ?_⟩, hlong⟩)
      exact Decimal.toInteger?_eq_some_iff.1 hinteger
    refine ⟨cut (intText n), ?_⟩
    rw [longOfContent, integerOfText, hdecimal]
    simp only [bind, Except.bind, hinteger, narrow_overflow hlong]
    rfl

theorem longOfText_eq_ok :
    longOfText text = .ok c ↔ ∃ d, Decimal.parse text = .ok d ∧ d.HasIntegerPart ∧
      c = ⟨.long (some (towardZero d.value)), text.utf8ByteSize⟩ := by
  rw [longOfText]
  cases hparse : Decimal.parse text with
  | error e => simp
  | ok d =>
    by_cases hpart : d.HasIntegerPart
    · simp [Decimal.toInteger?_of_hasIntegerPart hpart, hpart, eq_comm]
    · simp [Decimal.toInteger?_eq_none hpart, hpart]

/-! ## Views -/

theorem asBigDecimal_of_text (h : c.HoldsText text) :
    c.asBigDecimal = (c.decimalOfText text .bigDecimal).map some := by
  rcases h with h | h <;> rw [asBigDecimal, h]

theorem asBigInteger_of_text (h : c.HoldsText text) :
    c.asBigInteger = (c.integerOfText text .bigInteger).map some := by
  rcases h with h | h <;> rw [asBigInteger, h]

theorem asLong_of_text (h : c.HoldsText text) : c.asLong = (c.longOfContent text).map some := by
  rcases h with h | h <;> rw [asLong, h]

theorem asBigDecimal_eq_ok (h : c.HoldsText text) :
    c.asBigDecimal = .ok (some d) ↔ text ∉ specialWords ∧ Decimal.parse text = .ok d := by
  rw [asBigDecimal_of_text h, map_some_eq_ok, decimalOfText_eq_ok]

theorem asBigInteger_eq_ok (h : c.HoldsText text) :
    c.asBigInteger = .ok (some n) ↔
      ∃ d, c.asBigDecimal = .ok (some d) ∧ d.HasIntegerPart ∧ n = towardZero d.value := by
  rw [asBigInteger_of_text h, map_some_eq_ok, integerOfText_eq_ok]
  refine exists_congr fun d => and_congr_left fun _ => ?_
  rw [asBigDecimal_eq_ok h]
  exact ⟨fun hparse => ⟨not_mem_specialWords hparse, hparse⟩, fun hboth => hboth.2⟩

theorem asLong_eq_ok (h : c.HoldsText text) :
    c.asLong = .ok (some n) ↔ c.asBigInteger = .ok (some n) ∧ -2 ^ 63 ≤ n ∧ n < 2 ^ 63 := by
  rw [asLong_of_text h, asBigInteger_of_text h, map_some_eq_ok, map_some_eq_ok,
    longOfContent_eq_ok, isLong_iff, integerOfText_eq_ok, integerOfText_eq_ok]

theorem asLong_overflow (h : c.HoldsText text) (hparse : Decimal.parse text = .ok d)
    (hfail : ∀ n, c.asLong ≠ .ok (some n)) :
    ∃ preview, c.asLong = .error (.overflow ⟨preview, .long⟩) := by
  rw [asLong_of_text h] at hfail ⊢
  obtain ⟨preview, hoverflow⟩ :=
    longOfContent_overflow hparse fun n hn => hfail n (map_some_eq_ok.2 hn)
  exact ⟨preview, by rw [hoverflow]; rfl⟩

theorem asLong_of_long (h : c.value = .long (some n)) :
    c.asLong = if -2 ^ 63 ≤ n ∧ n < 2 ^ 63 then .ok (some n)
      else .error (.overflow (.ofText (intText n) .long)) := by
  rw [asLong, h]
  by_cases hlong : isLong n = true
  · rw [if_pos (isLong_iff.1 hlong)]
    show (guarded (narrow n)).map some = _
    rw [narrow_eq_ok.2 ⟨rfl, hlong⟩]
    rfl
  · rw [if_neg (mt isLong_iff.2 hlong)]
    show (guarded (narrow n)).map some = _
    rw [narrow_overflow hlong]
    rfl

/-- **The numbers in a cell agree, and none is cut to fit.** A double or string cell has a decimal if
its text is a literal and no special word; an integer if the decimal has an integer part, which is its
value rounded toward zero; and a 64-bit integer if this integer is one. If there is a decimal and no
64-bit integer, that is an overflow. A long cell has its number as an integer, and as a 64-bit integer
if it is one. A long cell built from a text holds the value of the literal there, rounded toward
zero. -/
theorem numeric_views_agree :
    (∀ (c : Cell) (text : String), c.HoldsText text →
      (∀ d, c.asBigDecimal = .ok (some d) ↔ text ∉ specialWords ∧ Decimal.parse text = .ok d) ∧
      (∀ z, c.asBigInteger = .ok (some z) ↔
        ∃ d, c.asBigDecimal = .ok (some d) ∧ d.HasIntegerPart ∧ z = towardZero d.value) ∧
      (∀ n, c.asLong = .ok (some n) ↔
        c.asBigInteger = .ok (some n) ∧ -2 ^ 63 ≤ n ∧ n < 2 ^ 63) ∧
      (∀ d, Decimal.parse text = .ok d → (∀ n, c.asLong ≠ .ok (some n)) →
        ∃ preview, c.asLong = .error (.overflow ⟨preview, .long⟩))) ∧
    (∀ (c : Cell) (n : Int), c.value = .long (some n) →
      c.asBigInteger = .ok (some n) ∧
      (-2 ^ 63 ≤ n ∧ n < 2 ^ 63 → c.asLong = .ok (some n)) ∧
      (¬(-2 ^ 63 ≤ n ∧ n < 2 ^ 63) →
        ∃ preview, c.asLong = .error (.overflow ⟨preview, .long⟩))) ∧
    (∀ (text : String) (c : Cell), longOfText text = .ok c ↔
      ∃ d, Decimal.parse text = .ok d ∧ d.HasIntegerPart ∧
        c = ⟨.long (some (towardZero d.value)), text.utf8ByteSize⟩) ∧
    (∀ (text : String) (d : Decimal), Decimal.parse text = .ok d →
      ∃ l : DecimalLiteral, l.Spells text.toList ∧ d.value = l.value) := by
  refine ⟨fun c text h => ?_, fun c n h => ?_, fun text c => longOfText_eq_ok, fun text d h => ?_⟩
  · exact ⟨fun d => asBigDecimal_eq_ok h, fun z => asBigInteger_eq_ok h, fun n => asLong_eq_ok h,
      fun d hparse hfail => asLong_overflow h hparse hfail⟩
  · have hlong := asLong_of_long h
    refine ⟨?_, fun hin => ?_, fun hout => ⟨cut (intText n), ?_⟩⟩
    · rw [asBigInteger, h]
    · rw [hlong, if_pos hin]
    · rw [hlong, if_neg hout]
      rfl
  · obtain ⟨l, hspells, rfl⟩ := Decimal.spells_of_parse h
    exact ⟨l, hspells, l.value_decimal⟩

/-- The least 64-bit integer, less nine tenths. -/
def minLongText : String := "-92233720368547758.089e2"

/-- The fraction of that text is cut off, so that it is a 64-bit integer; one beyond the greatest of
these is an overflow. -/
theorem numeric_views_agree_minLong :
    (string (some minLongText)).HoldsText minLongText ∧
    Decimal.parse minLongText = .ok ⟨-92233720368547758089, 1⟩ ∧
    (string (some minLongText)).asBigDecimal = .ok (some ⟨-92233720368547758089, 1⟩) ∧
    (string (some minLongText)).asBigInteger = .ok (some (-2 ^ 63)) ∧
    (string (some minLongText)).asLong = .ok (some (-2 ^ 63)) ∧
    towardZero (⟨-92233720368547758089, 1⟩ : Decimal).value = -2 ^ 63 ∧
    longOfText minLongText = .ok ⟨.long (some (-2 ^ 63)), 24⟩ ∧
    ∃ preview, (long (some (2 ^ 63))).asLong = .error (.overflow ⟨preview, .long⟩) := by
  have hparse : Decimal.parse minLongText = .ok ⟨-92233720368547758089, 1⟩ := by decide
  obtain ⟨htext, hlong, hbuilt, -⟩ := numeric_views_agree
  obtain ⟨hdecimal, hinteger, hnarrow, -⟩ :=
    htext (string (some minLongText)) minLongText (.inr rfl)
  have hviews := (hnarrow (-2 ^ 63)).1 (by decide)
  obtain ⟨d, hd, hpart, hvalue⟩ := (hinteger _).1 hviews.1
  obtain rfl : d = ⟨-92233720368547758089, 1⟩ := by
    simpa using ((hdecimal d).1 hd).2.symm.trans hparse
  refine ⟨.inr rfl, hparse, hd, hviews.1, (hnarrow _).2 hviews, hvalue.symm, ?_, ?_⟩
  · exact (hbuilt _ _).2 ⟨_, hparse, hpart, by rw [← hvalue]; rfl⟩
  · exact (hlong _ (2 ^ 63) rfl).2.2 (by decide)

end Cell

end TableExchange
