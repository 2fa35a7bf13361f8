import TableExchange.Number.FloatText
import TableExchange.Sql.TypeCode
import TableExchange.Text.Charset
import TableExchange.Text.Quoted

/-!
# What drivers report

Values, columns, result sets and failures as a database driver hands them over, before any of them
is interpreted.

* `DriverValue`: one value of a row; `DriverValue.display` is its text in a message.
* `ResultSet`: columns, rows, and the failure that ended the rows early, if one did.
* `DriverError`, `QueryError`, `ConnectionError`: what can go wrong.
-/

namespace TableExchange

inductive DriverError where
  | connect (url reason : String)
  | query (reason : String)
  | closed
  deriving DecidableEq, Repr

def DriverError.message : DriverError → String
  | .connect url reason => "cannot connect to '" ++ url ++ "': " ++ reason
  | .query reason => reason
  | .closed => "connection is closed"

inductive QueryFault where
  | driver (e : DriverError)
  | noStatement
  | syntaxError
  deriving DecidableEq, Repr

/-- The wording of a statement that is not well formed. -/
def syntaxErrorText : String := "sql parser error"

def QueryFault.message : QueryFault → String
  | .driver e => e.message
  | .noStatement => "no statement found"
  | .syntaxError => syntaxErrorText

/-- A statement that failed, with its text and the table it was issued for. -/
structure QueryError where
  table : String
  sql : String
  fault : QueryFault
  deriving DecidableEq, Repr

def QueryError.message (e : QueryError) : String :=
  "query on table '" ++ e.table ++ "' failed: " ++ e.fault.message ++ "; sql: " ++ e.sql

/-- None of several URLs could be reached. -/
structure ConnectionError where
  candidates : List String
  attempts : Nat
  lastError : String
  deriving DecidableEq, Repr

def ConnectionError.message (e : ConnectionError) : String :=
  "no reachable url after " ++ natText e.attempts ++ " attempt(s) over [" ++
    ", ".intercalate e.candidates ++ "]: " ++ e.lastError

structure Credentials where
  username : String
  password : String
  deriving DecidableEq, Repr

/-- What a driver reports of a column. -/
structure Column where
  name : String
  type : TypeCode
  typeName : String
  /-- The reported precision, zero if it is not known. -/
  precision : Int
  deriving DecidableEq, Repr

/-- One value of a row. -/
inductive DriverValue where
  | null
  | bool (b : Bool)
  | integer (n : Int)
  | decimal (text : String)
  | double (x : Binary64)
  | text (s : String)
  | bytes (bytes : Bytes)
  /-- Milliseconds of Unix time, and the nanoseconds of the second. -/
  | instant (millis : Int) (nanos : Nat)
  deriving DecidableEq

def DriverValue.isNull : DriverValue → Bool
  | .null => true
  | _ => false

def DriverValue.display : DriverValue → String
  | .null => "Null"
  | .bool b => "Bool(" ++ (if b then "true" else "false") ++ ")"
  | .integer n => "Integer(" ++ intText n ++ ")"
  | .decimal s => "Decimal(" ++ quoted s ++ ")"
  | .double x => "Double(" ++ x.text .value ++ ")"
  | .text s => "Text(" ++ quoted s ++ ")"
  | .bytes data => "Bytes(" ++ bracketed (data.map fun b => natText b.toNat) ++ ")"
  | .instant millis nanos =>
    "Instant \x7b millis: " ++ intText millis ++ ", nanos: " ++ natText nanos ++ " \x7d"

abbrev DriverRow := List DriverValue

/-- What a statement returns: columns and rows, and the failure that came instead of the end. -/
structure ResultSet where
  columns : List Column
  rows : List DriverRow
  failure : Option DriverError := none
  deriving DecidableEq

/-- All rows of a result set, unless a failure ended them. -/
def ResultSet.all (r : ResultSet) : Except DriverError (List DriverRow) :=
  match r.failure with
  | some e => .error e
  | none => .ok r.rows

end TableExchange
