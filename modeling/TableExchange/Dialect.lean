import TableExchange.Text.Ascii
import TableExchange.Text.Blank

/-!
# Database dialects

What extraction has to know about a database product, one record of `Features` each.

* `Dialect.all`: the registry, in order.
* `Dialect.ofName?`: the dialect of a name, in any case and with blanks around it.
* `Dialect.features`: what is known of a dialect.
-/

namespace TableExchange

/-- A database product. -/
inductive Dialect where
  | clickHouse | db2 | generic | hive | impala | mySql | oracle | postgreSql | presto | sqlite
  | sqlServer | trino
  deriving DecidableEq, Repr

/-- How text is made safe inside a quoted literal. -/
inductive EscapeRule where
  | quoteOnly
  | quoteAndBackslash
  deriving DecidableEq, Repr

/-- The form of a query for a random sample. -/
inductive SampleForm where
  | unsupported
  /-- A sample clause, with random order and a cap on the row number. -/
  | oracleSample
  /-- Random order with a limit, inside a derived table. -/
  | orderByRandLimit
  | tableSample
  deriving DecidableEq, Repr

/-- What is learnt of a key before a table is split by it. -/
inductive Statistics where
  | minMax | sampled
  deriving DecidableEq, Repr

structure Features where
  name : String
  escape : EscapeRule
  sample : SampleForm
  statistics : Statistics
  /-- Whether NUMERIC and DECIMAL columns count as integer keys. -/
  exactNumericIsInteger : Bool
  /-- How many rows a driver is asked to buffer for a probe. -/
  probeFetchSize : Int
  deriving DecidableEq, Repr

def Features.common (name : String) : Features :=
  { name, escape := .quoteOnly, sample := .unsupported, statistics := .minMax
    exactNumericIsInteger := false, probeFetchSize := 1 }

namespace Dialect

def all : List Dialect :=
  [.clickHouse, .db2, .generic, .hive, .impala, .mySql, .oracle, .postgreSql, .presto, .sqlite,
    .sqlServer, .trino]

def features : Dialect → Features
  | .clickHouse => .common "clickhouse"
  | .db2 => .common "db2"
  | .generic => .common "rdbms"
  | .hive => .common "hive2"
  | .impala => .common "impala"
  | .mySql =>
    { Features.common "mysql" with
      escape := .quoteAndBackslash, sample := .orderByRandLimit, probeFetchSize := -2147483648 }
  | .oracle =>
    { Features.common "oracle" with
      sample := .oracleSample, statistics := .sampled, exactNumericIsInteger := true }
  | .postgreSql => { Features.common "postgresql" with sample := .tableSample }
  | .presto => .common "presto"
  | .sqlite => .common "sqlite"
  | .sqlServer => .common "sqlserver"
  | .trino => .common "trino"

def name (d : Dialect) : String := d.features.name

def supportsSampling (d : Dialect) : Bool := d.features.sample != .unsupported

def ofName? (name : String) : Option Dialect :=
  all.find? (·.name = lowerCase (trim name))

end Dialect

end TableExchange
