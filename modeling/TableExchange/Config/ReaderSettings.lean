import TableExchange.Config.SplitMode

/-!
# Reader settings

What a reader of a database has to know: how to connect, which tables or queries to read, and how
to split the tables.

* `ReaderSettings.ofDocument`: the settings of a document, checked.
* `ReaderSettings.isQueryMode`: whether queries are read and not tables.
-/

namespace TableExchange

/-- What is read through a connection. -/
inductive Source where
  | tables (names : List String)
  | queries (texts : List String)
  deriving DecidableEq, Repr

namespace Source

def isQueries : Source → Bool
  | .queries _ => true
  | .tables _ => false

/-- The tables of a source; queries have none. -/
def tableNames : Source → List String
  | .tables names => names
  | .queries _ => []

end Source

/-- A connection: candidate URLs in the order of preference, and what is read through it. -/
structure ConnectionSettings where
  urls : List String
  source : Source
  deriving DecidableEq, Repr

structure ReaderSettings where
  username : String
  password : String
  columns : List String
  predicate : Option String
  splitColumn : Option String
  /-- How many tasks are wanted in all. -/
  adviceCount : Nat
  samplePercentage : Binary64
  fetchSize : Int
  /-- How many pieces each table is split into, if that is fixed. -/
  eachTableSplitSize : Option Nat
  splitMode : SplitMode
  dialect : Dialect
  connections : List ConnectionSettings
  deriving DecidableEq, Repr

namespace ConnectionSettings

def ofDocument (entry : Json) (path : String) : Except ConfigError ConnectionSettings := do
  let urls ← Config.stringList entry "jdbcUrl"
  if urls.isEmpty then throw (.missingKey (path ++ ".jdbcUrl"))
  let tables ← Config.stringList entry "table"
  let queries ← Config.stringList entry "querySql"
  match tables.isEmpty, queries.isEmpty with
  | false, true => return ⟨urls, .tables tables⟩
  | true, false => return ⟨urls, .queries queries⟩
  | false, false => throw (.invalid path .twoSources)
  | true, true => throw (.invalid path .noSource)

end ConnectionSettings

namespace ReaderSettings

/-- The percentage of a sample unless another is given: 0.1. -/
def defaultPercentage : Binary64 := .ofDecimal ⟨1, 1⟩

def defaultFetchSize : Int := 1024

/-- Whether every connection reads queries. -/
def isQueryMode (s : ReaderSettings) : Bool := s.connections.all (·.source.isQueries)

/-- Whether every connection reads tables. -/
def isTableMode (s : ReaderSettings) : Bool := s.connections.all (!·.source.isQueries)

/-- A count of at least one at a path, if there is one. -/
def positive (doc : Json) (path : String) : Except ConfigError (Option Nat) := do
  match ← Config.optInt doc path with
  | none => return none
  | some n => if 1 ≤ n then return some n.toNat else throw (.invalid path (.notPositive n))

def minFetchSize : Int := -2147483648

def maxFetchSize : Int := 2147483647

def readFetchSize (doc : Json) : Except ConfigError Int := do
  let n ← Config.intOr doc "fetchSize" defaultFetchSize
  if minFetchSize ≤ n ∧ n ≤ maxFetchSize then return n
  else throw (.invalid "fetchSize" (.outOfRange n))

def readDialect (doc : Json) : Except ConfigError Dialect := do
  let name ← Config.string doc "dialect"
  match Dialect.ofName? name with
  | some dialect => return dialect
  | none => throw (.invalid "dialect" (.unknownDialect name))

def readConnections (doc : Json) : Except ConfigError (List ConnectionSettings) := do
  let entries ← Config.list doc "connection"
  let connections ← entries.zipIdx.mapM fun (entry, i) =>
    ConnectionSettings.ofDocument entry (Config.itemPath "connection" i)
  if connections.isEmpty then throw (.invalid "connection" .noConnection)
  return connections

/-- Checks what one value alone does not show. -/
def check (s : ReaderSettings) : Except ConfigError Unit := do
  if !s.isQueryMode && !s.isTableMode then throw (.invalid "connection" .mixedSources)
  if s.isTableMode && s.columns.isEmpty then throw (.missingKey "column")
  if !s.samplePercentage.isStrictlyBetween 0 100 then
    throw (.invalid "samplePercentage" (.percentage s.samplePercentage))
  if s.splitMode == .sample && !s.dialect.supportsSampling then
    throw (.invalid "splitMode" (.noSampleSyntax s.dialect))

def ofDocument (doc : Json) : Except ConfigError ReaderSettings := do
  let dialect ← readDialect doc
  let connections ← readConnections doc
  let username ← Config.stringOr doc "username" ""
  let password ← Config.stringOr doc "password" ""
  let columns ← Config.stringList doc "column"
  let predicate := (← Config.optString doc "where").bind nonBlank
  let splitColumn := (← Config.optString doc "splitPk").bind nonBlank
  let adviceCount := (← positive doc "adviceCount").getD 1
  let samplePercentage ← Config.floatOr doc "samplePercentage" defaultPercentage
  let fetchSize ← readFetchSize doc
  let eachTableSplitSize ← positive doc "eachTableSplitSize"
  let splitMode := (← Config.optSplitMode doc "splitMode").getD .auto
  let settings : ReaderSettings :=
    { username, password, columns, predicate, splitColumn, adviceCount, samplePercentage
      fetchSize, eachTableSplitSize, splitMode, dialect, connections }
  settings.check
  return settings

end ReaderSettings

end TableExchange
