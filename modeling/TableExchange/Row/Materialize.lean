import TableExchange.Cell.Builder
import TableExchange.Database.Driver

/-!
# Rows as cells

A value becomes a cell by the type of its column. A type without a fixed kind of cell takes the
kind that fits the value. Null becomes the null of the kind.

* `columnKind?`: the kind of cell that a type fixes.
* `materializeCell`: the cell of a value in a column.
* `materializeRow`: the cells of a row; the leftmost failure is the row's.
-/

namespace TableExchange

def DriverValue.kind : DriverValue → CellKind
  | .null | .text _ => .string
  | .bool _ => .bool
  | .integer _ => .long
  | .decimal _ | .double _ => .double
  | .bytes _ => .bytes
  | .instant _ _ => .timestamp

def DriverValue.unsupported (v : DriverValue) (target : Target) : CellError :=
  .conversionNotSupported v.kind target (cut v.display)

/-- The kind of cell that a column type fixes, if it fixes one. -/
def columnKind? (c : TypeCode) : Option CellKind :=
  if c.isTextual then some .string
  else if c.isInteger then some .long
  else if c.isExactNumeric || c.isApproximateNumeric then some .double
  else if c.isBinary then some .bytes
  else if c.isBoolean then some .bool
  else if c = .date ∨ c = .time then some .date
  else if c = .timestamp then some .timestamp
  else none

def stringCell (v : DriverValue) : Except CellError Cell :=
  match v with
  | .text s | .decimal s => .ok (.string (some s))
  | .integer n => .ok (.string (some (intText n)))
  | .double x => .ok (.string (some (x.text .plain)))
  | .bool b => .ok (.string (some (boolText b)))
  | _ => .error (v.unsupported .string)

def longCell (v : DriverValue) : Except CellError Cell :=
  match v with
  | .integer n => .ok (.long (some n))
  | .decimal s | .text s => Cell.longOfText s
  | .bool b => .ok (.long (some (if b then 1 else 0)))
  | _ => .error (v.unsupported .long)

def doubleCell (v : DriverValue) : Except CellError Cell :=
  match v with
  | .double x => .ok (.double (some x))
  | .decimal s | .text s => Cell.doubleOfText s
  | .integer n => .ok (.doubleOfDecimal (some (.ofInt n)))
  | _ => .error (v.unsupported .double)

def bytesCell (v : DriverValue) : Except CellError Cell :=
  match v with
  | .bytes bytes => .ok (.bytes (some bytes))
  | _ => .error (v.unsupported .bytes)

def boolCell (v : DriverValue) : Except CellError Cell :=
  match v with
  | .bool b => .ok (.bool (some b))
  | .integer n => .ok (.bool (some (n != 0)))
  | _ => .error (v.unsupported .bool)

/-- A value as a date cell: a calendar date in a DATE column, otherwise a time of day with the
precision of the column. -/
def dateCell (column : Column) (v : DriverValue) : Except CellError Cell :=
  match v with
  | .instant millis nanos =>
    let builder := (DateBuilder.ofMillis (some millis)).withNanosOfSecond nanos
    if column.type = .date then .ok (builder.withKind .date).build
    else .ok ((builder.withKind .time).withReportedPrecision column.precision).build
  | _ => .error (v.unsupported .date)

def timestampCell (v : DriverValue) : Except CellError Cell :=
  match v with
  | .instant millis nanos =>
    .ok ((TimestampBuilder.ofMillis (some millis)).withNanosOfSecond nanos).build
  | _ => .error (v.unsupported .timestamp)

def cellKind (column : Column) (v : DriverValue) : CellKind :=
  (columnKind? column.type).getD v.kind

def materializeCell (column : Column) (v : DriverValue) : Except CellError Cell :=
  if v.isNull then .ok (.null (cellKind column v))
  else match cellKind column v with
    | .string => stringCell v
    | .long => longCell v
    | .double => doubleCell v
    | .bytes => bytesCell v
    | .bool => boolCell v
    | .date => dateCell column v
    | .timestamp => timestampCell v

structure Record where
  cells : List Cell
  deriving DecidableEq

def Record.byteSize (r : Record) : Nat := (r.cells.map (·.byteSize)).foldr (· + ·) 0

/-- The cells of the values under the columns, as long as there are both. -/
def materializeCells : List Column → DriverRow → Except CellError (List Cell)
  | column :: columns, v :: row => do
    let cell ← materializeCell column v
    return cell :: (← materializeCells columns row)
  | _, _ => .ok []

/-- The record of a row, which has a value for each column. -/
def materializeRow (columns : List Column) (row : DriverRow) : Except CellError Record :=
  if row.length = columns.length then (materializeCells columns row).map .mk
  else .error (.rowShape row.length columns.length)

end TableExchange
