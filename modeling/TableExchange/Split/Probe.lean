import TableExchange.Database.Program
import TableExchange.Split.Error
import TableExchange.Sql.Statement
import TableExchange.Text.Blank

/-!
# Probes

Short queries that learn of the split key of a table: which column to split by, its least and
greatest key, or a sample of its keys. None of them reads the whole table.

* `Probe.splitColumn`: the column of the primary key that a table is split by.
* `Probe.minMax`, `Probe.samples`: the statistics of a key.
* `SplitPoint.ofValue`: the key in a driver's value, exactly or not at all.
-/

namespace TableExchange

/-! ## Keys in values -/

/-- The integer that a key's text denotes: blanks around it do not count, and underscores between
its digits neither. -/
def readKeyInteger? (text : String) : Option Int :=
  let (sign, digits) := match (trim text).toList with
    | '-' :: rest => (['-'], rest)
    | '+' :: rest => (['+'], rest)
    | rest => ([], rest)
  if digits.head? = some '_' then none
  else readInteger? (sign ++ digits.filter (· != '_'))

/-- The integer key in a text, which may not have a decimal point. -/
def integerKey (text : String) : Except KeyFault SplitPoint :=
  if text.toList.contains '.' then .error (.notInteger text)
  else match readKeyInteger? text with
    | some n => .ok (.integer n)
    | none => .error (.notInteger text)

/-- The key in a driver's value; null is none. -/
def SplitPoint.ofValue (kind : KeyKind) (v : DriverValue) : Except KeyFault (Option SplitPoint) :=
  match kind, v with
  | _, .null => .ok none
  | .numeric, .integer n => .ok (some (.integer n))
  | .numeric, .decimal s | .numeric, .text s => (integerKey s).map some
  | .string, .text s => .ok (some (.text s))
  | kind, v => .error (.unexpected kind v)

/-! ## Queries -/

def runQuery (conn : Handle) (table sql : String) (fetchSize : Int) :
    Attempt QueryError (List Column × List DriverRow) := do
  match ← Program.execute conn sql fetchSize with
  | .error e => throw ⟨table, sql, .driver e⟩
  | .ok answer =>
    match answer.all with
    | .ok rows => return (answer.columns, rows)
    | .error e => throw ⟨table, sql, .driver e⟩

/-- Where a program finds out about primary keys. -/
structure KeyCatalog where
  primaryKey : Handle → Dialect → String → Attempt SplitError (List String)

namespace KeyCatalog

def rowName? (row : DriverRow) : Option String :=
  match row.head? with
  | some (.text name) => some name
  | _ => none

/-- The catalog of the database itself. A dialect without a catalog query has no primary keys. -/
def system : KeyCatalog where
  primaryKey conn dialect table := do
    match Sql.primaryKey dialect table with
    | none => return []
    | some sql =>
      let (_, rows) ← (runQuery conn table sql dialect.features.probeFetchSize).adapt .query
      return rows.filterMap rowName?

def fixed (columns : List String) : KeyCatalog := ⟨fun _ _ _ => return columns⟩

/-- A catalog that always fails. -/
def failing (fault : ArgumentFault) : KeyCatalog := ⟨fun _ _ _ => throw (.illegalArgument fault)⟩

end KeyCatalog

/-- What a probe is about. -/
structure ProbeTarget where
  table : String
  column : String
  predicate : Option String
  deriving DecidableEq, Repr

namespace ProbeTarget

def illegalKey (t : ProbeTarget) (fault : KeyFault) : SplitError :=
  .illegalSplitKey t.table t.column fault

def keyKind (t : ProbeTarget) (dialect : Dialect) (c : Column) : Except SplitError KeyKind :=
  match dialect.keyKind? c.type with
  | some kind => .ok kind
  | none => .error (t.illegalKey (.keyType c.typeName c.type))

/-- The key in a value of a row; a row that is too short has null. -/
def point (t : ProbeTarget) (kind : KeyKind) (row : DriverRow) (i : Nat) :
    Except SplitError (Option SplitPoint) :=
  (SplitPoint.ofValue kind (row[i]?.getD .null)).mapError t.illegalKey

end ProbeTarget

namespace Probe

/-- Runs a probe, telling when it begins and when it has ended well. -/
def run (dialect : Dialect) (conn : Handle) (table : String) (kind : ProbeKind) (sql : String) :
    Attempt SplitError (List Column × List DriverRow) := do
  Program.emit (.probeStarted table kind sql)
  let answer ← (runQuery conn table sql dialect.features.probeFetchSize).adapt .query
  Program.emit (.probeFinished table kind answer.2.length)
  return answer

/-- The column that a table is split by: of a primary key with several columns the first that holds
integers, or else the first. -/
def splitColumn (dialect : Dialect) (catalog : KeyCatalog) (conn : Handle) (table : String) :
    Attempt SplitError (Option String) := do
  let keys ← catalog.primaryKey conn dialect table
  if keys.length ≤ 1 then return keys.head?
  let (columns, _) ← run dialect conn table .columnType (Sql.keyTypes keys table)
  let numeric := columns.find? (dialect.keyKind? ·.type = some .numeric)
  return (numeric.map (·.name)).or keys.head?

/-- The statistics in the answer to a query for the least and the greatest key. Both keys are known
or none is. -/
def minMaxStats (dialect : Dialect) (t : ProbeTarget) (columns : List Column)
    (rows : List DriverRow) : Except SplitError KeyStats := do
  let [low, high] := columns | throw (t.illegalKey (.notTwoColumns columns.length))
  if low.type ≠ high.type then throw (t.illegalKey (.twoTypes low.type high.type))
  let kind ← t.keyKind dialect low
  let row := rows.head?.getD []
  let lower ← t.point kind row 0
  let upper ← t.point kind row 1
  let findings := match lower, upper with
    | some lower, some upper => KeyFindings.bounds (some lower) (some upper)
    | _, _ => .bounds none none
  return ⟨t.table, t.column, kind, findings⟩

def minMax (dialect : Dialect) (conn : Handle) (t : ProbeTarget) : Attempt SplitError KeyStats := do
  let sql := Sql.minMax t.table t.column t.predicate
  let (columns, rows) ← run dialect conn t.table .minMax sql
  minMaxStats dialect t columns rows

/-- The keys of a sample, null ones left out: integers in ascending order, texts in the order of
the database; repeated neighbours are one. -/
def samplePoints (kind : KeyKind) (found : List (Option SplitPoint)) : List SplitPoint :=
  let points := found.filterMap id
  match kind with
  | .numeric => (points.mergeSort SplitPoint.atMost).eraseReps
  | .string => points.eraseReps

/-- The statistics in the answer to a query for a sample. -/
def sampleStats (dialect : Dialect) (t : ProbeTarget) (columns : List Column)
    (rows : List DriverRow) : Except SplitError KeyStats := do
  let column :: _ := columns | throw (t.illegalKey .noColumn)
  let kind ← t.keyKind dialect column
  let found ← rows.mapM fun row => t.point kind row 0
  return ⟨t.table, t.column, kind, .samples (samplePoints kind found)⟩

/-- A sample of at most `limit` keys. -/
def samples (dialect : Dialect) (conn : Handle) (t : ProbeTarget) (percentage : Binary64)
    (limit : Nat) : Attempt SplitError KeyStats := do
  match Sql.sample dialect t.table t.column t.predicate percentage limit with
  | none => throw (.illegalArgument (.noSampleSyntax dialect))
  | some sql =>
    let (columns, rows) ← run dialect conn t.table .sample sql
    let stats ← sampleStats dialect t columns rows
    Program.log ⟨.debug, "sampled split keys",
      [("table", t.table), ("samples", natText stats.samples.length)]⟩
    return stats

end Probe

end TableExchange
