import TableExchange.Cell.Range
import TableExchange.Config.Error
import TableExchange.Config.Path
import TableExchange.Json.Reader
import TableExchange.Number.FloatLiteral
import TableExchange.Text.Blank

/-!
# Typed values of a document

Each getter takes a path and answers with a value of one type, or with an error that names the
path. An absent value and null are the same. Numbers may also be given as text.

* `Config.get`: the value at a path.
* `Config.string`, `Config.stringList`, `Config.optInt`, `Config.optFloat`, `Config.boolOr`,
  `Config.subtree`, `Config.list`: the value at a path, of one type.
-/

namespace TableExchange

namespace Config

def ofText (text : String) : Except ConfigError Json :=
  match Json.parse? text with
  | some doc => .ok doc
  | none => .error .syntaxError

/-- The value at a path, unless it is absent or null. -/
def get (doc : Json) (path : String) : Except ConfigError (Option Json) :=
  match Path.read? path with
  | some steps => .ok (Path.follow doc steps)
  | none => .error (.invalidPath path)

def require (doc : Json) (path : String) : Except ConfigError Json := do
  match ← get doc path with
  | some value => .ok value
  | none => .error (.missingKey path)

/-! ## Texts -/

def scalarText (path : String) (value : Json) : Except ConfigError String :=
  match value with
  | .string s => .ok s
  | .number n => .ok (Json.numberText n)
  | .bool b => .ok (if b then "true" else "false")
  | _ => .error (.mismatch path .scalar value)

def optString (doc : Json) (path : String) : Except ConfigError (Option String) := do
  match ← get doc path with
  | some value => (scalarText path value).map some
  | none => .ok none

def string (doc : Json) (path : String) : Except ConfigError String := do
  scalarText path (← require doc path)

def stringOr (doc : Json) (path other : String) : Except ConfigError String := do
  return (← optString doc path).getD other

def itemPath (path : String) (i : Nat) : String := path ++ "[" ++ natText i ++ "]"

/-- The texts at a path: of a list its elements, of a scalar the one text, of nothing none. -/
def stringList (doc : Json) (path : String) : Except ConfigError (List String) := do
  match ← get doc path with
  | none => .ok []
  | some (.array items) => items.zipIdx.mapM fun (item, i) => scalarText (itemPath path i) item
  | some value => do return [← scalarText path value]

/-! ## Numbers and truth values -/

def integer? : Json → Option Int
  | .number (.integer n) => if isLong n then some n else none
  | .string s => (readInteger? (trim s).toList).filter isLong
  | _ => none

def optInt (doc : Json) (path : String) : Except ConfigError (Option Int) := do
  match ← get doc path with
  | none => .ok none
  | some value =>
    match integer? value with
    | some n => .ok (some n)
    | none => .error (.mismatch path .integer value)

def int (doc : Json) (path : String) : Except ConfigError Int := do
  match ← optInt doc path with
  | some n => .ok n
  | none => .error (.missingKey path)

def intOr (doc : Json) (path : String) (other : Int) : Except ConfigError Int := do
  return (← optInt doc path).getD other

def float? : Json → Option Binary64
  | .number (.integer n) => some (Binary64.ofInt n)
  | .number (.float x) => some x
  | .string s => Binary64.parse? (trim s)
  | _ => none

def optFloat (doc : Json) (path : String) : Except ConfigError (Option Binary64) := do
  match ← get doc path with
  | none => .ok none
  | some value =>
    match float? value with
    | some x => .ok (some x)
    | none => .error (.mismatch path .number value)

def floatOr (doc : Json) (path : String) (other : Binary64) : Except ConfigError Binary64 := do
  return (← optFloat doc path).getD other

/-- The truth value at a path, or another one if it is absent. -/
def boolOr (doc : Json) (path : String) (other : Bool) : Except ConfigError Bool := do
  match ← get doc path with
  | none => .ok other
  | some (.bool b) => .ok b
  | some (.string s) =>
    if sameLetters s "true" then .ok true
    else if sameLetters s "false" then .ok false
    else .error (.mismatch path .boolean (.string s))
  | some value => .error (.mismatch path .boolean value)

/-! ## Parts -/

def subtree (doc : Json) (path : String) : Except ConfigError Json := do
  match ← require doc path with
  | .object members => .ok (.object members)
  | value => .error (.mismatch path .object value)

def list (doc : Json) (path : String) : Except ConfigError (List Json) := do
  match ← require doc path with
  | .array items => .ok items
  | value => .error (.mismatch path .list value)

end Config

end TableExchange
