import TableExchange.Sql.Literal
import TableExchange.Text.Digits

/-!
# Conditions

The conditions that extraction puts behind `where`: comparisons between a column and literals,
conjunctions and disjunctions, a test for null, and text that a user has written.

* `Condition.render`: the text of a condition.
-/

namespace TableExchange

/-- One side of a comparison. -/
inductive Operand where
  | column (name : String)
  | integer (n : Int)
  /-- A text, written as a literal under a rule. -/
  | text (rule : EscapeRule) (s : String)
  deriving DecidableEq, Repr

def Operand.render : Operand → String
  | .column name => name
  | .integer n => intText n
  | .text rule s => TextLiteral.write rule s

/-- A condition on the rows of a table. -/
inductive Condition where
  /-- Text that a user has written. -/
  | given (text : String)
  | less (a b : Operand)
  | atMost (a b : Operand)
  | isNull (column : String)
  | both (a b : Condition)
  | either (a b : Condition)
  | group (c : Condition)
  deriving DecidableEq, Repr

namespace Condition

def render : Condition → String
  | .given text => text
  | .less a b => a.render ++ " < " ++ b.render
  | .atMost a b => a.render ++ " <= " ++ b.render
  | .isNull column => column ++ " IS NULL"
  | .both a b => a.render ++ " AND " ++ b.render
  | .either a b => a.render ++ " OR " ++ b.render
  | .group c => "(" ++ c.render ++ ")"

/-- A condition together with a user's own, if there is one. -/
def under (predicate : Option String) (c : Condition) : Condition :=
  match predicate with
  | some text => .both (.group (.given text)) c
  | none => c

/-- The rows without a key. -/
def nullPartition (column : String) (predicate : Option String) : Condition :=
  under predicate (.isNull column)

end Condition

end TableExchange
