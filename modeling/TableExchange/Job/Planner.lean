import TableExchange.Error
import TableExchange.Job.Connect
import TableExchange.Split.Splitter

/-!
# Planning a job

The settings of a reader become a list of tasks: for each connection a reachable URL is chosen, and
then each table is split on a connection of its own, or each query is taken as it is.

* `tableSplitCount`: into how many pieces each table is split.
* `Planner.plan`: the tasks of a job.
* `Planner.precheck`: checks the statements of a job.
-/

namespace TableExchange

/-- A table without a fixed number of pieces is split this many times finer than advised if it is
the only one. -/
def singleTableFactor : Nat := 5

/-- There are `2 ^ 64` machine words. Counts are such words, and so begin again behind the last. -/
def wordCount : Nat := 18446744073709551616

/-- Into how many pieces each table is split. -/
def tableSplitCount (advice tables : Nat) (eachTableSplitSize : Option Nat) : Nat :=
  match eachTableSplitSize with
  | some size => size
  | none =>
    if tables ≤ 1 then max advice 1 * singleTableFactor % wordCount
    else max ((advice + tables - 1) / tables) 1

/-- One statement to read. -/
structure ReadTask where
  url : String
  /-- The table that is read; a query has none. -/
  table : Option String
  query : String
  isNullPartition : Bool
  fetchSize : Int
  deriving DecidableEq, Repr

namespace ReaderSettings

def credentials (s : ReaderSettings) : Credentials := ⟨s.username, s.password⟩

def columnList (s : ReaderSettings) : String := ",".intercalate s.columns

def tableCount (s : ReaderSettings) : Nat :=
  (s.connections.map (·.source.tableNames.length)).foldr (· + ·) 0

def splitCount (s : ReaderSettings) : Nat :=
  tableSplitCount s.adviceCount s.tableCount s.eachTableSplitSize

def splitter (s : ReaderSettings) : Splitter := ⟨s.dialect, s.splitMode, s.samplePercentage⟩

def tableTask (s : ReaderSettings) (url table query : String) (isNullPartition : Bool) : ReadTask :=
  ⟨url, some table, query, isNullPartition, s.fetchSize⟩

def unsplitTask (s : ReaderSettings) (url table : String) : ReadTask :=
  s.tableTask url table (Sql.select s.columnList table s.predicate) false

/-- The tasks of the fragments of a table; without fragments the table is not split. -/
def fragmentTasks (s : ReaderSettings) (url table : String) (plan : SplitPlan) : List ReadTask :=
  if plan.fragments.isEmpty then [s.unsplitTask url table]
  else plan.fragments.map fun f =>
    s.tableTask url table (f.query s.columnList table) f.isNullPartition

def queryTask (s : ReaderSettings) (url query : String) : ReadTask :=
  ⟨url, none, query, false, s.fetchSize⟩

/-- What is checked of the statements that read through a URL. -/
def precheckTargets (s : ReaderSettings) (url : String) : Source → List PrecheckTarget
  | .queries texts => texts.map fun sql => ⟨sql, url, sql, none⟩
  | .tables names => names.map fun table =>
    ⟨table, url, Sql.select s.columnList table s.predicate,
      s.splitColumn.map fun column => Sql.minMax table column s.predicate⟩

end ReaderSettings

/-- How jobs are planned. -/
structure Planner where
  catalog : KeyCatalog := .system
  retry : RetryPolicy := {}

namespace Planner

/-- A reachable URL for each connection, in order. -/
def resolveUrls (p : Planner) (s : ReaderSettings) : Attempt Error (List String) :=
  s.connections.mapM fun c => (chooseUrl c.urls s.credentials p.retry).adapt .connection

/-- The tasks of a table, found over an open connection. -/
def planOver (p : Planner) (s : ReaderSettings) (url table : String) (conn : Handle) :
    Attempt Error (List ReadTask) := do
  let found ← match s.splitColumn with
    | some column => pure (some column)
    | none => (Probe.splitColumn s.dialect p.catalog conn table).adapt .split
  match found with
  | none =>
    Program.emit (.fallback table .noSplitColumn)
    return [s.unsplitTask url table]
  | some column =>
    let request := SplitRequest.of table column s.predicate s.splitCount
    let plan ← (s.splitter.plan conn request).adapt .split
    return s.fragmentTasks url table plan

/-- The tasks of a table. A table in one piece needs no connection. -/
def planTable (p : Planner) (s : ReaderSettings) (url table : String) :
    Attempt Error (List ReadTask) := do
  if s.splitCount ≤ 1 then return [s.unsplitTask url table]
  match ← Program.connect url s.credentials with
  | .error e => throw (.driver e)
  | .ok conn => ExceptT.mk (Program.withConnection conn (p.planOver s url table conn))

def planSource (p : Planner) (s : ReaderSettings) (url : String) :
    Source → Attempt Error (List ReadTask)
  | .queries texts => return texts.map (s.queryTask url)
  | .tables names => do return (← names.mapM (p.planTable s url)).flatten

def plan (p : Planner) (s : ReaderSettings) : Attempt Error (List ReadTask) := do
  let urls ← p.resolveUrls s
  let blocks ← (s.connections.zip urls).mapM fun (c, url) => p.planSource s url c.source
  return blocks.flatten

/-- Checks the statements of a job. -/
def precheck (p : Planner) (s : ReaderSettings) (threads : Nat) (schedule : List Nat := [])
    (parser : Sql.Parser := Sql.countStatements?) : Attempt Error Unit := do
  let urls ← p.resolveUrls s
  let targets := (s.connections.zip urls).flatMap fun (c, url) => s.precheckTargets url c.source
  (Precheck.checkAll s.credentials s.dialect targets threads schedule parser).adapt .precheck

end Planner

end TableExchange
