import TableExchange.Proofs.Number.LiteralReading
import TableExchange.Proofs.Row.Columns

/-!
# Which cells values become

The type of a column fixes the kind of its cells, or leaves it to the values. A cell that is made of
a value has that kind, and it is null just if the value is. A value that becomes no cell is one that
the kind does not take, or decimal text too wide for an integer.

* `ReadAs`: what a value may come to, read as a kind of cell.
* `materializeCell_keeps_kind`: what every value comes to in every column.
-/

namespace TableExchange

variable {column : Column} {v : DriverValue} {kind : CellKind} {type : TypeCode} {text : String}

/-! ## Kinds of columns -/

/-- A type that leaves the kind to the values. -/
def TypeCode.IsFree (type : TypeCode) : Prop := ∀ kind : CellKind, type ∉ kind.types

theorem columnKind?_eq_none_iff : columnKind? type = none ↔ type.IsFree := by
  simp only [Option.eq_none_iff_forall_ne_some, TypeCode.IsFree, ← columnKind?_eq_some_iff, Ne]

theorem cellKind_cases (column : Column) (v : DriverValue) :
    column.type ∈ (cellKind column v).types ∨ column.type.IsFree ∧ cellKind column v = v.kind := by
  rw [cellKind]
  cases hkind : columnKind? column.type with
  | some kind => exact .inl (columnKind?_eq_some_iff.1 hkind)
  | none => exact .inr ⟨columnKind?_eq_none_iff.1 hkind, rfl⟩

theorem cellKind_of_isFree (h : column.type.IsFree) : cellKind column v = v.kind := by
  rw [cellKind, columnKind?_eq_none_iff.2 h, Option.getD_none]

/-! ## Texts of numbers -/

/-- A decimal literal whose exponent is at most `10 ^ 9` either way. -/
def IsDecimalText (text : String) : Prop :=
  ∃ l : DecimalLiteral, l.Spells text.toList ∧ l.exponent.natAbs ≤ 10 ^ 9

/-- One of the words of special doubles, in any case. -/
def IsSpecialText (text : String) : Prop :=
  ∃ word ∈ Cell.specialWords, sameLetters text word = true

theorem isDecimalText_of_parse {d : Decimal} (h : Decimal.parse text = .ok d) :
    IsDecimalText text := by
  obtain ⟨l, hspells, hexponent, -⟩ := Decimal.parse_eq_ok.1 h
  exact ⟨l, hspells, hexponent⟩

theorem exists_parse_of_isDecimalText (h : IsDecimalText text) :
    ∃ d, Decimal.parse text = .ok d := by
  obtain ⟨l, hspells, hexponent⟩ := h
  exact ⟨_, Decimal.parse_eq_ok.2 ⟨l, hspells, hexponent, rfl⟩⟩

/-! ## Cells of a kind -/

/-- What a value may come to, read as a kind of cell: a cell of the kind with content, or a refusal,
which is an overflow only for decimal text read as an integer. -/
inductive ReadAs (v : DriverValue) (kind : CellKind) : Except CellError Cell → Prop
  | cell {c : Cell} (hkind : c.kind = kind) (hcontent : c.isNull = false) : ReadAs v kind (.ok c)
  | unsupported (source : CellKind) (target : Target) (preview : String) :
    ReadAs v kind (.error (.conversionNotSupported source target preview))
  | overflow {text : String} (o : Overflow) (hkind : kind = .long)
    (hv : v = .decimal text ∨ v = .text text) (htext : IsDecimalText text) :
    ReadAs v kind (.error (.overflow o))

theorem longOfText_readAs (hv : v = .decimal text ∨ v = .text text) :
    ReadAs v .long (Cell.longOfText text) := by
  unfold Cell.longOfText
  split
  · exact .unsupported ..
  · next d hparse =>
    split
    · exact .cell rfl rfl
    · exact .overflow _ rfl hv (isDecimalText_of_parse hparse)

theorem doubleOfText_readAs (v : DriverValue) (text : String) :
    ReadAs v .double (Cell.doubleOfText text) := by
  unfold Cell.doubleOfText
  split
  · exact .cell rfl rfl
  · split
    · exact .cell rfl rfl
    · exact .unsupported ..

theorem dateCell_readAs (column : Column) (v : DriverValue) :
    ReadAs v .date (dateCell column v) := by
  unfold dateCell
  split
  · split
    · exact .cell rfl rfl
    · unfold DateBuilder.withReportedPrecision
      split <;> exact .cell rfl rfl
  · exact .unsupported ..

/-- A value that is not null is read as any kind, or refused. -/
theorem cellOfKind_readAs (hnull : v.isNull = false) :
    ReadAs v kind (cellOfKind column v kind) := by
  cases kind with
  | date => exact dateCell_readAs column v
  | string | bytes | bool | timestamp =>
    cases v <;> first | exact .cell rfl rfl | exact .unsupported ..
  | long =>
    cases v with
    | decimal text => exact longOfText_readAs (.inl rfl)
    | text text => exact longOfText_readAs (.inr rfl)
    | integer n | bool b => exact .cell rfl rfl
    | null | double x | bytes data | instant millis nanos => exact .unsupported ..
  | double =>
    cases v with
    | decimal text | text text => exact doubleOfText_readAs _ text
    | integer n | double x => exact .cell rfl rfl
    | null | bool b | bytes data | instant millis nanos => exact .unsupported ..

theorem doubleOfText_fails_iff :
    (∃ e, Cell.doubleOfText text = .error e) ↔ ¬IsDecimalText text ∧ ¬IsSpecialText text := by
  unfold Cell.doubleOfText
  split
  · next word hword =>
    have hspecial : IsSpecialText text :=
      ⟨word, List.mem_of_find?_eq_some hword, by simpa using List.find?_some hword⟩
    simp [hspecial]
  · next hnone =>
    have hspecial : ¬IsSpecialText text := by
      rintro ⟨word, hword, hsame⟩
      exact List.find?_eq_none.1 hnone word hword hsame
    split
    · next d hparse => simp [isDecimalText_of_parse hparse]
    · next fault hparse =>
      have hdecimal : ¬IsDecimalText text := fun h => by
        obtain ⟨d, hd⟩ := exists_parse_of_isDecimalText h
        cases hparse.symm.trans hd
      simp [hdecimal, hspecial]

/-- Read as its own kind, only decimal text may be refused. -/
theorem cellOfKind_own_fails_iff (hnull : v.isNull = false) :
    (∃ e, cellOfKind column v v.kind = .error e) ↔
      ∃ text, v = .decimal text ∧ ¬IsDecimalText text ∧ ¬IsSpecialText text := by
  cases v with
  | null => cases hnull
  | decimal text =>
    simp only [DriverValue.decimal.injEq, exists_eq_left', ← doubleOfText_fails_iff]
    exact Iff.rfl
  | bool b | integer n | double x | text s | bytes data | instant millis nanos =>
    refine iff_of_false ?_ (by simp)
    rintro ⟨e, he⟩
    cases he

theorem exists_cellOfKind_integer (n : Int)
    (hkind : kind ∈ [CellKind.string, .long, .double, .bool]) :
    ∃ c, cellOfKind column (.integer n) kind = .ok c := by
  simp only [List.mem_cons, List.not_mem_nil, or_false] at hkind
  rcases hkind with rfl | rfl | rfl | rfl <;> exact ⟨_, rfl⟩

/-! ## Cells of columns -/

theorem Cell.isNull_null (kind : CellKind) : (Cell.null kind).isNull = true := by
  cases kind <;> rfl

theorem Cell.kind_null (kind : CellKind) : (Cell.null kind).kind = kind := by
  cases kind <;> rfl

theorem materializeCell_null (column : Column) :
    materializeCell column .null = .ok (.null (cellKind column .null)) := rfl

theorem materializeCell_readAs (hnull : v.isNull = false) :
    ReadAs v (cellKind column v) (materializeCell column v) := by
  rw [materializeCell_of_isNull_false hnull]
  exact cellOfKind_readAs hnull

theorem eq_null_or_isNull_false (v : DriverValue) : v = .null ∨ v.isNull = false := by
  cases v with
  | null => exact .inl rfl
  | bool b | integer n | decimal s | double x | text s | bytes data | instant millis nanos =>
    exact .inr rfl

/-- Decimal text is of no integer kind by itself, so it overflows in columns of integers only. -/
theorem mem_types_long (hv : v = .decimal text ∨ v = .text text)
    (hkind : cellKind column v = .long) : column.type ∈ CellKind.long.types := by
  rcases cellKind_cases column v with htype | ⟨-, hown⟩
  · rwa [hkind] at htype
  · rw [hkind] at hown
    rcases hv with rfl | rfl <;> cases hown

/-- **Cells keep the kind of their column, and null stays null.** A cell has the kind that the type
of its column fixes, or the kind of the value if the type fixes none, and it is null exactly if the
value is. Null never fails. Where the type fixes no kind, just the decimals fail whose text is
neither a decimal literal nor a special word. Every failure is a conversion that is not supported,
or an overflow of decimal text in a column of integers. An integer becomes a cell in every column of
integers, other numbers, text or truth values. -/
theorem materializeCell_keeps_kind (column : Column) (v : DriverValue) :
    (∀ c, materializeCell column v = .ok c →
      (column.type ∈ c.kind.types ∨ column.type.IsFree ∧ c.kind = v.kind) ∧
        (c.isNull = true ↔ v = .null)) ∧
    (v = .null → ∃ c, materializeCell column v = .ok c) ∧
    (column.type.IsFree → ((∃ e, materializeCell column v = .error e) ↔
      ∃ text, v = .decimal text ∧ ¬IsDecimalText text ∧ ¬IsSpecialText text)) ∧
    (∀ e, materializeCell column v = .error e →
      (∃ source target preview, e = .conversionNotSupported source target preview) ∨
        column.type ∈ CellKind.long.types ∧ ∃ text o, (v = .decimal text ∨ v = .text text) ∧
          IsDecimalText text ∧ e = .overflow o) ∧
    (∀ n, v = .integer n → (∃ kind ∈ [CellKind.string, .long, .double, .bool],
      column.type ∈ kind.types) → ∃ c, materializeCell column v = .ok c) := by
  rcases eq_null_or_isNull_false v with rfl | hnull
  · simp only [materializeCell_null]
    refine ⟨fun c hc => ?_, fun _ => ⟨_, rfl⟩, fun _ => ?_, nofun, nofun⟩
    · cases hc
      rw [Cell.kind_null]
      exact ⟨cellKind_cases column .null, iff_of_true (Cell.isNull_null _) trivial⟩
    · exact iff_of_false nofun nofun
  · have hread : ReadAs v (cellKind column v) (materializeCell column v) :=
      materializeCell_readAs hnull
    have hne : v ≠ .null := by
      rintro rfl
      cases hnull
    refine ⟨fun c hc => ?_, fun h => absurd h hne, fun hfree => ?_, fun e he => ?_, ?_⟩
    · rw [hc] at hread
      cases hread with
      | cell hkind hcontent =>
        rw [hkind, hcontent]
        exact ⟨cellKind_cases column v, iff_of_false nofun hne⟩
    · rw [materializeCell_of_isNull_false hnull, cellKind_of_isFree hfree]
      exact cellOfKind_own_fails_iff hnull
    · rw [he] at hread
      cases hread with
      | unsupported source target preview => exact .inl ⟨source, target, preview, rfl⟩
      | overflow o hkind hv htext => exact .inr ⟨mem_types_long hv hkind, _, o, hv, htext, rfl⟩
    · rintro n rfl ⟨kind, hkind, htype⟩
      rw [materializeCell_of_kind rfl (columnKind?_eq_some_iff.2 htype)]
      exact exists_cellOfKind_integer n hkind

end TableExchange
