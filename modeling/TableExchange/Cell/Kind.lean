/-!
# Kinds of cells and of conversion targets

* `CellKind`: the seven variants of a cell.
* `Target`: the nine types that a cell is asked for.
* `DateKind`: which of the configured formats shows a date cell.

Labels are the words for them in messages.
-/

namespace TableExchange

inductive CellKind where
  | bool | long | double | string | bytes | date | timestamp
  deriving DecidableEq, Repr

namespace CellKind

/-- The kind's word in messages. -/
def label : CellKind → String
  | .bool => "bool"
  | .long => "long"
  | .double => "double"
  | .string => "string"
  | .bytes => "bytes"
  | .date => "date"
  | .timestamp => "timestamp"

def all : List CellKind := [.bool, .long, .double, .string, .bytes, .date, .timestamp]

end CellKind

/-- The type that a conversion of a cell asks for. -/
inductive Target where
  | bool | long | double | string | bytes | date | timestamp | bigInteger | bigDecimal
  deriving DecidableEq, Repr

namespace Target

/-- The target's word in messages. -/
def label : Target → String
  | .bool => "bool"
  | .long => "long"
  | .double => "double"
  | .string => "string"
  | .bytes => "bytes"
  | .date => "date"
  | .timestamp => "timestamp"
  | .bigInteger => "big_integer"
  | .bigDecimal => "big_decimal"

def all : List Target :=
  [.bool, .long, .double, .string, .bytes, .date, .timestamp, .bigInteger, .bigDecimal]

end Target

/-- Whether a date cell shows a calendar date, a time of day, or both. -/
inductive DateKind where
  | date | time | dateTime
  deriving DecidableEq, Repr

end TableExchange
