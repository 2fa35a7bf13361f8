import TableExchange.Split.Key
import TableExchange.Sql.Statement

/-!
# Split plans

A plan divides the rows of a table among fragments, each a condition of its own. The ranges of the
key come first; the rows without a key are the last fragment.

* `rangeConditions`: one range for each pair of neighbouring boundaries.
* `outsideCondition`: the keys outside of a sample.
* `SplitPlan.ofRanges`: the fragments for some ranges, with the one for null keys.
* `Fragment.query`: the statement that reads a fragment.
-/

namespace TableExchange

/-! ## Conditions on the key -/

/-- The keys from `low` up to but not including `high`. -/
def halfOpenRange (column : String) (low high : Operand) : Condition :=
  .group (.both (.atMost low (.column column)) (.less (.column column) high))

/-- The keys from `low` to `high`. -/
def closedRange (column : String) (low high : Operand) : Condition :=
  .group (.both (.atMost low (.column column)) (.atMost (.column column) high))

/-- One range for each pair of neighbours; only the last one is closed. -/
def rangeConditions (column : String) : List Operand → List Condition
  | [] | [_] => []
  | [low, high] => [closedRange column low high]
  | low :: high :: next :: rest =>
    halfOpenRange column low high :: rangeConditions column (high :: next :: rest)

/-- The keys below `first` or above `last`. -/
def outsideCondition (column : String) (first last : Operand) : Condition :=
  .group (.either (.group (.less (.column column) first)) (.group (.less last (.column column))))

/-! ## Fragments -/

/-- The rows of one task; without a condition these are all rows. -/
structure Fragment where
  condition : Option Condition
  isNullPartition : Bool
  deriving DecidableEq, Repr

namespace Fragment

/-- The rows in a range that also meet the user's condition. -/
def range (predicate : Option String) (c : Condition) : Fragment :=
  ⟨some (.under predicate c), false⟩

/-- All rows that meet the user's condition. -/
def unsplit (predicate : Option String) : Fragment := ⟨predicate.map .given, false⟩

/-- The rows without a key that meet the user's condition. -/
def nullPartition (column : String) (predicate : Option String) : Fragment :=
  ⟨some (.nullPartition column predicate), true⟩

def predicate (f : Fragment) : Option String := f.condition.map (·.render)

/-- The statement that reads the fragment. -/
def query (f : Fragment) (columns table : String) : String :=
  Sql.select columns table f.predicate

end Fragment

/-- The fragments of a table, in order. A plan without fragments asks for one scan of the table. -/
structure SplitPlan where
  fragments : List Fragment
  deriving DecidableEq, Repr

namespace SplitPlan

def empty : SplitPlan := ⟨[]⟩

/-- The plan with all rows in one fragment. -/
def single (predicate : Option String) : SplitPlan := ⟨[.unsplit predicate]⟩

/-- The plan with one fragment for each range, and one for the rows without a key. -/
def ofRanges (ranges : List Condition) (column : String) (predicate : Option String) : SplitPlan :=
  ⟨ranges.map (.range predicate) ++ [.nullPartition column predicate]⟩

def rangeCount (p : SplitPlan) : Nat := p.fragments.countP (!·.isNullPartition)

def nullPartition? (p : SplitPlan) : Option Fragment := p.fragments.find? (·.isNullPartition)

/-- The conditions as text, empty where there is none. -/
def rendered (p : SplitPlan) : List String := p.fragments.map fun f => f.predicate.getD ""

end SplitPlan

end TableExchange
