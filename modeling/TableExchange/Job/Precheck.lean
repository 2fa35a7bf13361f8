import TableExchange.Database.Turns
import TableExchange.Sql.Grammar

/-!
# Checking statements before a job

Before a job is planned, the statements of every table are checked: first that they are well
formed, then that the database accepts them. Each table has a worker and a connection of its own,
and the workers take turns.

* `Sql.validate`: whether a text is well formed and holds a statement, by some parser.
* `Precheck.check`: what one worker does.
* `Precheck.checkAll`: all tables; the failure of the first one in order counts.
-/

namespace TableExchange

/-- What is asked of a parser: how many statements a text holds, if it is well formed. -/
abbrev Sql.Parser := Dialect → String → Option Nat

/-- Refuses a text that is not well formed or holds no statement. -/
def Sql.validate (dialect : Dialect) (table sql : String)
    (parser : Sql.Parser := Sql.countStatements?) : Except QueryError Unit :=
  match parser dialect sql with
  | none => .error ⟨table, sql, .syntaxError⟩
  | some 0 => .error ⟨table, sql, .noStatement⟩
  | some _ => .ok ()

inductive PrecheckError where
  | query (e : QueryError)
  | connect (table : String) (e : DriverError)
  | pool (reason : String)
  deriving DecidableEq, Repr

def PrecheckError.message : PrecheckError → String
  | .query e => e.message
  | .connect table e => "table '" ++ table ++ "': " ++ e.message
  | .pool reason => "failed to build pre-check worker pool: " ++ reason

/-- The statements of one table. -/
structure PrecheckTarget where
  table : String
  url : String
  query : String
  /-- The probe of the split key, if the table is split. -/
  probe : Option String
  deriving DecidableEq, Repr

namespace Precheck

/-- The statements of a target, in the order in which they are run. -/
def statements (t : PrecheckTarget) : List String := t.query :: t.probe.toList

/-- Runs statements, one after the other, and leaves their rows. -/
def runStatements (dialect : Dialect) (conn : Handle) (table : String) :
    List String → Attempt PrecheckError Unit
  | [] => return ()
  | sql :: rest => do
    Program.emit (.probeStarted table .precheck sql)
    match ← Program.execute conn sql dialect.features.probeFetchSize with
    | .error e => throw (.query ⟨table, sql, .driver e⟩)
    | .ok _ => runStatements dialect conn table rest

def validate (dialect : Dialect) (t : PrecheckTarget)
    (parser : Sql.Parser := Sql.countStatements?) : Except PrecheckError Unit :=
  ((statements t).forM fun sql => Sql.validate dialect t.table sql parser).mapError .query

/-- Checks one target, on a connection of its own. -/
def check (credentials : Credentials) (dialect : Dialect) (t : PrecheckTarget)
    (parser : Sql.Parser := Sql.countStatements?) : Attempt PrecheckError Unit := do
  validate dialect t parser
  match ← Program.connect t.url credentials with
  | .error e => throw (.connect t.table e)
  | .ok conn =>
    ExceptT.mk (Program.withConnection conn (runStatements dialect conn t.table (statements t)))

/-- Checks all targets, at most `threads` of them at a time, with the steps in the order of a
schedule. -/
def checkAll (credentials : Credentials) (dialect : Dialect) (targets : List PrecheckTarget)
    (threads : Nat) (schedule : List Nat := []) (parser : Sql.Parser := Sql.countStatements?) :
    Attempt PrecheckError Unit := do
  let limit := max 1 (min threads targets.length)
  let workers := targets.map fun t => Worker.fresh (check credentials dialect t parser).run
  let results ← Program.interleave limit schedule workers
  results.forM fun r => r

end Precheck

end TableExchange
