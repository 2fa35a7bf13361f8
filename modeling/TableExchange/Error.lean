import TableExchange.Cell.Codec
import TableExchange.Job.Precheck
import TableExchange.Split.Error

/-!
# Errors

Every failure of the library, with its wording and its class. Only failures of a single row are
recoverable; all others end a job.

* `Error.message`: the wording.
* `Error.errorClass`: the class, by which failures are reported.
-/

namespace TableExchange

/-- A failure. -/
inductive Error where
  | config (e : ConfigError)
  | codec (e : CodecError)
  | connection (e : ConnectionError)
  | driver (e : DriverError)
  | query (e : QueryError)
  | split (e : SplitError)
  | precheck (e : PrecheckError)
  | cell (e : CellError)
  | overflow (e : Overflow)
  | decimal (e : DecimalError)
  deriving DecidableEq

inductive ErrorClass where
  | config | connection | query | illegalSplitKey | illegalArgument | overflow
  | conversionNotSupported | internal
  deriving DecidableEq, Repr

namespace ErrorClass

def label : ErrorClass → String
  | .config => "config"
  | .connection => "connection"
  | .query => "query"
  | .illegalSplitKey => "illegal_split_key"
  | .illegalArgument => "illegal_argument"
  | .overflow => "overflow"
  | .conversionNotSupported => "conversion_not_supported"
  | .internal => "internal"

def all : List ErrorClass :=
  [.config, .connection, .query, .illegalSplitKey, .illegalArgument, .overflow,
    .conversionNotSupported, .internal]

end ErrorClass

namespace Error

def message : Error → String
  | .config e => e.message
  | .codec e => e.message
  | .connection e => e.message
  | .driver e => e.message
  | .query e => e.message
  | .split e => e.message
  | .precheck e => e.message
  | .cell e => e.message
  | .overflow e => e.message
  | .decimal e => e.message

def splitClass : SplitError → ErrorClass
  | .illegalArgument _ => .illegalArgument
  | .illegalSplitKey .. => .illegalSplitKey
  | .query _ => .query
  | .config _ => .config
  | .connection _ => .connection

def errorClass : Error → ErrorClass
  | .config _ => .config
  | .codec e => if e.isConfiguration then .config else .conversionNotSupported
  | .connection _ => .connection
  | .driver _ => .connection
  | .query _ => .query
  | .split e => splitClass e
  | .precheck (.query _) => .query
  | .precheck (.connect ..) => .connection
  | .precheck (.pool _) => .internal
  | .cell (.overflow _) => .overflow
  | .cell _ => .conversionNotSupported
  | .overflow _ => .overflow
  | .decimal _ => .conversionNotSupported

/-- Whether only a row is lost. -/
def isRecoverable (e : Error) : Bool :=
  e.errorClass == .conversionNotSupported || e.errorClass == .overflow

end Error

end TableExchange
