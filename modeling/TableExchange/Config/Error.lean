import TableExchange.Dialect
import TableExchange.Json.Printer
import TableExchange.Text.Preview
import TableExchange.Text.Quoted

/-!
# Errors of configuration

* `ConfigError`: what is wrong with a document, or with a question about it.
* `ConfigError.message`: the wording; all but a syntax error name a path.
-/

namespace TableExchange

/-- The shape that a value should have had. -/
inductive Shape where
  | scalar | integer | number | boolean | object | list
  deriving DecidableEq, Repr

def Shape.label : Shape → String
  | .scalar => "a scalar"
  | .integer => "an integer"
  | .number => "a number"
  | .boolean => "a boolean"
  | .object => "an object"
  | .list => "a list"

/-- Why a value is not one of a few words. -/
inductive ChoiceFault where
  | unknown (word : String) (known : List String)
  | wrongType (found wanted : String)
  /-- An object with more or less than one member. -/
  | notSingle
  deriving DecidableEq, Repr

def ChoiceFault.message : ChoiceFault → String
  | .unknown word known =>
    "unknown variant `" ++ word ++ "`, expected one of " ++
      ", ".intercalate (known.map fun w => "`" ++ w ++ "`")
  | .wrongType found wanted => "invalid type: " ++ found ++ ", expected " ++ wanted
  | .notSingle => "invalid value: map, expected map with a single key"

/-- Why a value of the right shape is not accepted. -/
inductive SettingsFault where
  | unknownDialect (name : String)
  | twoSources
  | noSource
  | noConnection
  | mixedSources
  | notPositive (n : Int)
  | outOfRange (n : Int)
  | percentage (x : Binary64)
  | noSampleSyntax (dialect : Dialect)
  | choice (fault : ChoiceFault)
  deriving DecidableEq, Repr

def SettingsFault.message : SettingsFault → String
  | .unknownDialect name => "unknown dialect '" ++ name ++ "'"
  | .twoSources => "table and querySql cannot both be set"
  | .noSource => "one of table or querySql is required"
  | .noConnection => "at least one connection is required"
  | .mixedSources => "table and querySql connections cannot be mixed"
  | .notPositive n => intText n ++ " must be at least 1"
  | .outOfRange n => intText n ++ " is out of range"
  | .percentage x => x.text .plain ++ " is outside (0, 100)"
  | .noSampleSyntax dialect => "dialect " ++ dialect.name ++ " has no sample syntax"
  | .choice fault => fault.message

/-- What is wrong with a document, or with a question about it. -/
inductive ConfigError where
  | syntaxError
  | invalidPath (path : String)
  | missingKey (path : String)
  /-- A value of another shape; `found` shows it. -/
  | invalidValue (path : String) (expected : Shape) (found : String)
  | invalid (path : String) (fault : SettingsFault)
  deriving DecidableEq, Repr

namespace ConfigError

/-- A value of another shape than expected, shown as compact text. -/
def mismatch (path : String) (expected : Shape) (found : Json) : ConfigError :=
  .invalidValue path expected (cut found.compact)

def message : ConfigError → String
  | .syntaxError => "failed to parse configuration"
  | .invalidPath path => "invalid configuration path '" ++ path ++ "'"
  | .missingKey path => "missing required configuration key '" ++ path ++ "'"
  | .invalidValue path expected found =>
    "invalid value at '" ++ path ++ "': expected " ++ expected.label ++ ", found " ++ found
  | .invalid path fault => "invalid configuration at '" ++ path ++ "': " ++ fault.message

end ConfigError

end TableExchange
