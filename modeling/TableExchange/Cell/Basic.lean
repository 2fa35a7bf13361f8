import TableExchange.Cell.Range
import TableExchange.Number.DecimalLiteral
import TableExchange.Number.FloatText
import TableExchange.Text.Charset

/-!
# Cells

A cell is one extracted value: a variant, its content or null, and an approximate size. Numbers of
the long variant are exact; a double keeps its text, either plain decimal text or one of the three
words `NaN`, `Infinity`, `-Infinity`.

* `Cell.long`, `Cell.double`, … : cells from values.
* `Cell.longOfText`, `Cell.doubleOfText`: cells from decimal text.
* `CellError`: why a cell cannot be built or converted.
-/

namespace TableExchange

/-- A date: milliseconds of Unix time and what was fixed when the cell was built. -/
structure DateValue where
  millis : Int
  kind : DateKind
  /-- Nanoseconds past the millisecond. -/
  nanos : Nat
  /-- The declared number of fraction digits. -/
  precision : Option Nat
  deriving DecidableEq, Repr

/-- A timestamp: milliseconds of Unix time and what was fixed when the cell was built. -/
structure TimestampValue where
  millis : Int
  /-- Nanoseconds past the millisecond. -/
  nanos : Nat
  /-- The declared number of fraction digits. -/
  precision : Option Nat
  deriving DecidableEq, Repr

/-- The content of a cell; no content is null. -/
inductive CellValue where
  | bool (b : Option Bool)
  | long (n : Option Int)
  | double (text : Option String)
  | string (text : Option String)
  | bytes (bytes : Option Bytes)
  | date (value : Option DateValue)
  | timestamp (value : Option TimestampValue)
  deriving DecidableEq

namespace CellValue

def kind : CellValue → CellKind
  | .bool _ => .bool
  | .long _ => .long
  | .double _ => .double
  | .string _ => .string
  | .bytes _ => .bytes
  | .date _ => .date
  | .timestamp _ => .timestamp

def isNull : CellValue → Bool
  | .bool v => v.isNone
  | .long v => v.isNone
  | .double v => v.isNone
  | .string v => v.isNone
  | .bytes v => v.isNone
  | .date v => v.isNone
  | .timestamp v => v.isNone

def null : CellKind → CellValue
  | .bool => .bool none
  | .long => .long none
  | .double => .double none
  | .string => .string none
  | .bytes => .bytes none
  | .date => .date none
  | .timestamp => .timestamp none

end CellValue

/-- One extracted value. -/
structure Cell where
  value : CellValue
  byteSize : Nat
  deriving DecidableEq

/-- Why a cell or a row cannot be built, or a cell not be converted. -/
inductive CellError where
  | conversionNotSupported (source : CellKind) (target : Target) (preview : String)
  | overflow (e : Overflow)
  | rowShape (values columns : Nat)
  deriving DecidableEq, Repr

def CellError.message : CellError → String
  | .conversionNotSupported source target preview =>
    "cannot convert " ++ source.label ++ " value '" ++ preview ++ "' to " ++ target.label
  | .overflow e => e.message
  | .rowShape values columns =>
    "driver returned " ++ natText values ++ " values for " ++ natText columns ++ " columns"

def boolText (b : Bool) : String := if b then "true" else "false"

namespace Cell

def kind (c : Cell) : CellKind := c.value.kind

def isNull (c : Cell) : Bool := c.value.isNull

/-- The content as it is shown in messages. -/
def preview (c : Cell) : String :=
  match c.value with
  | .bool (some b) => cutMarked (boolText b)
  | .long (some n) => cutMarked (intText n)
  | .double (some text) => cutMarked text
  | .string (some text) => cutMarked text
  | .bytes (some bytes) => cutMarked (natText bytes.length ++ " bytes")
  | .date (some d) => cutMarked (intText d.millis)
  | .timestamp (some t) => cutMarked (intText t.millis)
  | _ => "null"

/-! ## The words of special doubles -/

def nanWord : String := "NaN"

def infinityWord : String := "Infinity"

def negInfinityWord : String := "-Infinity"

/-- The three words that a double cell keeps beside decimal text. -/
def specialWords : List String := [nanWord, infinityWord, negInfinityWord]

/-! ## Cells from values -/

def null (kind : CellKind) : Cell := ⟨.null kind, 0⟩

/-- A cell of a truth value; its size is one also for null. -/
def bool (b : Option Bool) : Cell := ⟨.bool b, 1⟩

def long (n : Option Int) : Cell := ⟨.long n, if n.isSome then 8 else 0⟩

def doubleText (text : Option String) : Cell := ⟨.double text, (text.map (·.utf8ByteSize)).getD 0⟩

/-- A cell of a binary64 number, kept as its shortest plain text. -/
def double (x : Option Binary64) : Cell := doubleText (x.map (·.text .cell))

/-- A double cell of a decimal, kept as its plain text. -/
def doubleOfDecimal (d : Option Decimal) : Cell := doubleText (d.map (·.plain))

def string (text : Option String) : Cell :=
  ⟨.string text, (text.map (·.utf8ByteSize)).getD 0⟩

def bytes (bytes : Option Bytes) : Cell := ⟨.bytes bytes, (bytes.map (·.length)).getD 0⟩

def date (value : Option DateValue) : Cell := ⟨.date value, if value.isSome then 8 else 0⟩

def timestamp (value : Option TimestampValue) : Cell :=
  ⟨.timestamp value, if value.isSome then 12 else 0⟩

/-! ## Cells from decimal text -/

/-- A long cell from decimal text, whose fraction is cut off; it has the size of the text. -/
def longOfText (text : String) : Except CellError Cell :=
  match Decimal.parse text with
  | .error _ => .error (.conversionNotSupported .string .long (cutMarked text))
  | .ok d =>
    match d.toInteger? with
    | some n => .ok ⟨.long (some n), text.utf8ByteSize⟩
    | none => .error (.overflow (.ofText text .bigInteger))

/-- A double cell from text: a special word in any case, which is kept in its own spelling, or
decimal text, which is kept as it is. -/
def doubleOfText (text : String) : Except CellError Cell :=
  match specialWords.find? (sameLetters text) with
  | some word => .ok (doubleText (some word))
  | none =>
    match Decimal.parse text with
    | .ok _ => .ok (doubleText (some text))
    | .error _ => .error (.conversionNotSupported .string .double (cutMarked text))

end Cell

end TableExchange
