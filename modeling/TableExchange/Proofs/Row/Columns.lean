import TableExchange.Row.Materialize

/-!
# Cells by the kinds of columns

A value that is not null becomes a cell by the kind of its column's type. Each kind is fixed by some
types, and by no others.

* `materializeCell_of_kind`: which reader of values a kind has.
* `CellKind.types`, `columnKind?_eq_some_iff`: the types that fix a kind.
* `columnKind?_of_isInteger`, `columnKind?_of_isNumeric`, `columnKind?_of_isTemporal`: the kinds of
  integers, of other numbers, and of dates and times.
-/

namespace TableExchange

variable {column : Column} {v : DriverValue} {kind : CellKind} {type : TypeCode}

/-- The cell of a value that is not null, of a kind. -/
def cellOfKind (column : Column) (v : DriverValue) : CellKind → Except CellError Cell
  | .string => stringCell v
  | .long => longCell v
  | .double => doubleCell v
  | .bytes => bytesCell v
  | .bool => boolCell v
  | .date => dateCell column v
  | .timestamp => timestampCell v

theorem materializeCell_of_isNull_false (h : v.isNull = false) :
    materializeCell column v = cellOfKind column v (cellKind column v) := by
  unfold materializeCell
  rw [h]
  cases cellKind column v <;> rfl

theorem materializeCell_of_kind (hnull : v.isNull = false)
    (hkind : columnKind? column.type = some kind) :
    materializeCell column v = cellOfKind column v kind := by
  rw [materializeCell_of_isNull_false hnull, cellKind, hkind, Option.getD_some]

/-- The types of columns that fix a kind of cell. -/
def CellKind.types : CellKind → List TypeCode
  | .string => [.char, .nChar, .varChar, .longVarChar, .nVarChar, .longNVarChar, .clob, .nClob]
  | .long => [.bigInt, .integer, .smallInt, .tinyInt]
  | .double => [.numeric, .decimal, .float, .real, .double]
  | .bytes => [.binary, .varBinary, .longVarBinary, .blob]
  | .bool => [.bit, .boolean]
  | .date => [.date, .time]
  | .timestamp => [.timestamp]

theorem columnKind?_of_mem_types : ∀ type ∈ kind.types, columnKind? type = some kind := by
  cases kind <;> decide

theorem mem_types_of_columnKind? (h : columnKind? type = some kind) : type ∈ kind.types := by
  unfold columnKind? at h
  split at h
  · next htextual =>
    cases h
    simpa [TypeCode.isTextual, TypeCode.isCharacter, CellKind.types, or_assoc] using htextual
  split at h
  · next hinteger =>
    cases h
    simpa [TypeCode.isInteger, CellKind.types] using hinteger
  split at h
  · next hnumeric =>
    cases h
    simpa [TypeCode.isExactNumeric, TypeCode.isApproximateNumeric, CellKind.types, or_assoc]
      using hnumeric
  split at h
  · next hbinary =>
    cases h
    simpa [TypeCode.isBinary, CellKind.types] using hbinary
  split at h
  · next hboolean =>
    cases h
    simpa [TypeCode.isBoolean, CellKind.types] using hboolean
  split at h
  · next hdate =>
    cases h
    simpa [CellKind.types] using hdate
  split at h
  · next htimestamp =>
    cases h
    simpa [CellKind.types] using htimestamp
  · cases h

theorem columnKind?_eq_some_iff : columnKind? type = some kind ↔ type ∈ kind.types :=
  ⟨mem_types_of_columnKind?, columnKind?_of_mem_types type⟩

/-- Types of numbers with fractions: decimals and floating-point numbers. -/
def TypeCode.isNumeric (type : TypeCode) : Bool := type.isExactNumeric || type.isApproximateNumeric

/-- Types of dates, times of day and timestamps. -/
def TypeCode.isTemporal (type : TypeCode) : Bool :=
  type ∈ [TypeCode.date, TypeCode.time, TypeCode.timestamp]

theorem columnKind?_of_isInteger (h : type.isInteger = true) : columnKind? type = some .long :=
  columnKind?_of_mem_types type (by simpa [TypeCode.isInteger, CellKind.types] using h)

theorem columnKind?_of_isNumeric (h : type.isNumeric = true) : columnKind? type = some .double := by
  refine columnKind?_of_mem_types type ?_
  simpa [TypeCode.isNumeric, TypeCode.isExactNumeric, TypeCode.isApproximateNumeric,
    CellKind.types, or_assoc] using h

theorem columnKind?_of_isTemporal (h : type.isTemporal = true) :
    columnKind? type = some .date ∨ columnKind? type = some .timestamp := by
  simpa [columnKind?_eq_some_iff, TypeCode.isTemporal, CellKind.types, or_assoc] using h

end TableExchange
