import TableExchange.Number.FloatText
import TableExchange.Sql.Literal
import TableExchange.Text.Digits

/-!
# Statements

The text of every statement that extraction issues.

* `Sql.select`: reads columns of a table, of all rows or of those under a condition.
* `Sql.minMax`, `Sql.sample`: the probes of a split key.
* `Sql.primaryKey`: the columns of a table's primary key, from the catalog of a dialect.
* `Sql.keyTypes`: the types of columns, without any rows.
-/

namespace TableExchange

namespace Sql

def select (columns table : String) (predicate : Option String) : String :=
  let all := "select " ++ columns ++ " from " ++ table
  match predicate with
  | some p => all ++ " where " ++ p
  | none => all

def minMax (table column : String) (predicate : Option String) : String :=
  let all := "SELECT MIN(" ++ column ++ "),MAX(" ++ column ++ ") FROM " ++ table
  match predicate with
  | some p => all ++ " WHERE (" ++ p ++ ") AND " ++ column ++ " IS NOT NULL"
  | none => all

/-- At most `limit` keys of a random sample, none of them null, in ascending order; `none` if the
dialect has no such query. -/
def sample (dialect : Dialect) (table column : String) (predicate : Option String)
    (percentage : Binary64) (limit : Nat) : Option String :=
  let share := percentage.text .plain
  let most := natText limit
  let notNull := "WHERE (" ++ column ++ " IS NOT NULL)" ++
    match predicate with
    | some p => " AND (" ++ p ++ ")"
    | none => ""
  match dialect.features.sample with
  | .unsupported => none
  | .oracleSample => some (
    "SELECT * FROM ( SELECT " ++ column ++ " FROM " ++ table ++ " SAMPLE (" ++ share ++ ")  " ++
      notNull ++ "  ORDER BY DBMS_RANDOM.VALUE) WHERE ROWNUM <= " ++ most ++ " ORDER by " ++
      column ++ " ASC")
  | .orderByRandLimit => some (
    "SELECT " ++ column ++ " FROM (SELECT " ++ column ++ " FROM " ++ table ++ " " ++ notNull ++
      " ORDER BY RAND() LIMIT " ++ most ++ ") AS sampled ORDER BY " ++ column ++ " ASC")
  | .tableSample => some (
    "SELECT " ++ column ++ " FROM (SELECT " ++ column ++ " FROM " ++ table ++
      " TABLESAMPLE SYSTEM (" ++ share ++ ") " ++ notNull ++ " ORDER BY random() LIMIT " ++ most ++
      ") AS sampled ORDER BY " ++ column ++ " ASC")

/-- The parts of a table name: the schema, if the name is qualified, and the rest. -/
def splitName (table : String) : Option String × String :=
  let cs := table.toList
  if cs.contains '.' then
    (some (String.ofList (cs.takeWhile (· != '.'))),
      String.ofList ((cs.dropWhile (· != '.')).drop 1))
  else (none, table)

/-- The columns of a table's primary key; `none` if the dialect's catalog is not known. An
unqualified table is looked up in the current schema. -/
def primaryKey (dialect : Dialect) (table : String) : Option String :=
  let literal := TextLiteral.write dialect.features.escape
  let (qualifier, rest) := splitName table
  let schemaOr (current : String) : String := (qualifier.map literal).getD current
  let name := literal rest
  match dialect with
  | .mySql => some (
    "SELECT column_name FROM INFORMATION_SCHEMA.COLUMNS WHERE TABLE_SCHEMA = (" ++
      schemaOr "SELECT SCHEMA()" ++ ") AND TABLE_NAME = " ++ name ++ " AND COLUMN_KEY = 'PRI'")
  | .postgreSql => some (
    "SELECT col.ATTNAME FROM PG_CATALOG.PG_NAMESPACE sch, PG_CATALOG.PG_CLASS tab, " ++
      "PG_CATALOG.PG_ATTRIBUTE col, PG_CATALOG.PG_INDEX ind " ++
      "WHERE sch.OID = tab.RELNAMESPACE AND tab.OID = col.ATTRELID " ++
      "AND tab.OID = ind.INDRELID AND sch.NSPNAME = (" ++ schemaOr "SELECT CURRENT_SCHEMA()" ++
      ") AND tab.RELNAME = " ++ name ++
      " AND col.ATTNUM = ANY(ind.INDKEY) AND ind.INDISPRIMARY")
  | .sqlServer => some (
    "SELECT kcu.COLUMN_NAME FROM INFORMATION_SCHEMA.TABLE_CONSTRAINTS tc, " ++
      "INFORMATION_SCHEMA.KEY_COLUMN_USAGE kcu " ++
      "WHERE tc.TABLE_SCHEMA = kcu.TABLE_SCHEMA AND tc.TABLE_NAME = kcu.TABLE_NAME " ++
      "AND tc.CONSTRAINT_SCHEMA = kcu.CONSTRAINT_SCHEMA " ++
      "AND tc.CONSTRAINT_NAME = kcu.CONSTRAINT_NAME AND tc.TABLE_SCHEMA = (" ++
      schemaOr "SELECT SCHEMA_NAME()" ++ ") AND tc.TABLE_NAME = N" ++ name ++
      " AND tc.CONSTRAINT_TYPE = 'PRIMARY KEY'")
  | .clickHouse => some (
    "SELECT name FROM system.columns WHERE database = (" ++ schemaOr "SELECT currentDatabase()" ++
      ") AND table = " ++ name ++ " AND is_in_primary_key = 1")
  | .oracle => some (
    "SELECT ALL_CONS_COLUMNS.COLUMN_NAME FROM ALL_CONS_COLUMNS, ALL_CONSTRAINTS " ++
      "WHERE ALL_CONS_COLUMNS.CONSTRAINT_NAME = ALL_CONSTRAINTS.CONSTRAINT_NAME " ++
      "AND ALL_CONSTRAINTS.CONSTRAINT_TYPE = 'P' AND ALL_CONS_COLUMNS.TABLE_NAME = " ++ name ++
      " AND ALL_CONS_COLUMNS.OWNER = (" ++ schemaOr "SELECT USER FROM DUAL" ++ ")")
  | .db2 | .generic | .hive | .impala | .presto | .sqlite | .trino => none

def keyTypes (columns : List String) (table : String) : String :=
  "SELECT " ++ ",".intercalate columns ++ " FROM " ++ table ++ " WHERE 1=2"

end Sql

end TableExchange
