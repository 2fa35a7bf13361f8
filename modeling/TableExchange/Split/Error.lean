import TableExchange.Config.Error
import TableExchange.Database.Driver
import TableExchange.Split.Key

/-!
# Errors of planning

* `SplitError`: why a table cannot be split. Each one ends the planning call that meets it.
-/

namespace TableExchange

inductive ArgumentFault where
  | zeroCount
  | noSampleSyntax (dialect : Dialect)
  | other (reason : String)
  deriving DecidableEq, Repr

def ArgumentFault.message : ArgumentFault → String
  | .zeroCount => "split count must be at least 1, got 0"
  | .noSampleSyntax dialect => "dialect " ++ dialect.name ++ " has no sample syntax"
  | .other reason => reason

inductive KeyFault where
  | notTwoColumns (columns : Nat)
  | twoTypes (lower upper : TypeCode)
  | noColumn
  | keyType (typeName : String) (code : TypeCode)
  | notInteger (text : String)
  | unexpected (kind : KeyKind) (value : DriverValue)
  | needsIntegers
  | needsTexts
  | notAscii
  | mixedSamples
  deriving DecidableEq

def KeyFault.message : KeyFault → String
  | .notTwoColumns columns => "bounds probe returned " ++ natText columns ++ " columns"
  | .twoTypes lower upper =>
    "min and max disagree on type (" ++ lower.label ++ " vs " ++ upper.label ++ ")"
  | .noColumn => "sample probe returned no columns"
  | .keyType typeName code =>
    "type " ++ typeName ++ " (" ++ code.label ++ ") is neither integer nor string"
  | .notInteger text => "bound '" ++ text ++ "' is not an integer"
  | .unexpected kind value => "unexpected " ++ kind.label ++ " bound " ++ value.display
  | .needsIntegers => "numeric split needs integer bounds"
  | .needsTexts => "string split needs text bounds"
  | .notAscii => "string split keys must be ASCII"
  | .mixedSamples => "sampled keys have mixed types"

inductive SplitError where
  | illegalArgument (fault : ArgumentFault)
  | illegalSplitKey (table column : String) (fault : KeyFault)
  | query (e : QueryError)
  | config (e : ConfigError)
  | connection (e : ConnectionError)
  deriving DecidableEq

def SplitError.message : SplitError → String
  | .illegalArgument fault => "illegal argument: " ++ fault.message
  | .illegalSplitKey table column fault =>
    "illegal split key '" ++ column ++ "' on table '" ++ table ++ "': " ++ fault.message
  | .query e => e.message
  | .config e => e.message
  | .connection e => e.message

end TableExchange
