import TableExchange.Dialect
import TableExchange.Sql.Condition
import TableExchange.Sql.TypeCode

/-!
# Split keys

A table is split by a column whose keys are integers or texts.

* `KeyKind`: which of the two; `Dialect.keyKind?` tells it by the type of the column.
* `SplitPoint`: one key, as a boundary between pieces.
* `KeyFindings`, `KeyStats`: what has been learnt of the keys of a table.
-/

namespace TableExchange

/-- The domain of a split key. -/
inductive KeyKind where
  | numeric | string
  deriving DecidableEq, Repr

def KeyKind.label : KeyKind → String
  | .numeric => "Numeric"
  | .string => "String"

/-- The kind of key that a column type makes in a dialect; `none` if tables are not split by such a
column. -/
def Dialect.keyKind? (dialect : Dialect) (c : TypeCode) : Option KeyKind :=
  if c.isInteger || (dialect.features.exactNumericIsInteger && c.isExactNumeric) then some .numeric
  else if c.isCharacter then some .string
  else none

/-- A key as a boundary. -/
inductive SplitPoint where
  | integer (n : Int)
  | text (s : String)
  deriving DecidableEq, Repr

namespace SplitPoint

def kind : SplitPoint → KeyKind
  | .integer _ => .numeric
  | .text _ => .string

def plain : SplitPoint → String
  | .integer n => intText n
  | .text s => s

def operand (dialect : Dialect) : SplitPoint → Operand
  | .integer n => .integer n
  | .text s => .text dialect.features.escape s

/-- The order of boundaries: integers by value, then texts by character. -/
def atMost : SplitPoint → SplitPoint → Bool
  | .integer a, .integer b => a ≤ b
  | .integer _, .text _ => true
  | .text _, .integer _ => false
  | .text a, .text b => a ≤ b

end SplitPoint

/-- What has been found of the keys: the least and the greatest one, the sampled ones, and which of
the two the plan is made from. Probes fill this in as `bounds` or as `samples`. -/
structure KeyFindings where
  statistics : Statistics
  lower : Option SplitPoint
  upper : Option SplitPoint
  points : List SplitPoint
  deriving DecidableEq, Repr

namespace KeyFindings

/-- The least and the greatest key; none if there are no keys. -/
def bounds (lower upper : Option SplitPoint) : KeyFindings := ⟨.minMax, lower, upper, []⟩

/-- Sampled keys in order; the first and the last of them are its ends. -/
def samples (points : List SplitPoint) : KeyFindings :=
  ⟨.sampled, points.head?, points.getLast?, points⟩

@[simp] theorem statistics_samples (points : List SplitPoint) :
    (samples points).statistics = .sampled := rfl

@[simp] theorem points_samples (points : List SplitPoint) : (samples points).points = points := rfl

end KeyFindings

/-- What has been learnt of the keys of a table. -/
structure KeyStats where
  table : String
  column : String
  kind : KeyKind
  findings : KeyFindings
  deriving DecidableEq, Repr

namespace KeyStats

/-- The least key known. -/
def lower (s : KeyStats) : Option SplitPoint := s.findings.lower

def upper (s : KeyStats) : Option SplitPoint := s.findings.upper

/-- Both bounds, if both are known. -/
def bounds? (s : KeyStats) : Option (SplitPoint × SplitPoint) :=
  match s.lower, s.upper with
  | some lower, some upper => some (lower, upper)
  | _, _ => none

def statistics (s : KeyStats) : Statistics := s.findings.statistics

/-- The sampled keys; none if there was no sample. -/
def samples (s : KeyStats) : List SplitPoint := s.findings.points

end KeyStats

end TableExchange
