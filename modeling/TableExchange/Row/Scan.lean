import TableExchange.Database.Program

/-!
# Scans

A scan runs the statement of a fragment and turns its rows into records. A row that becomes no
record is handed over as it is, with the reason, and the scan goes on; only a failure of the driver
ends it.

* `scan`: reads one statement to its end.
* `ScanStats`: how many rows became records and how many did not.
-/

namespace TableExchange

structure ScanStats where
  records : Nat := 0
  dirty : Nat := 0
  bytes : Nat := 0
  deriving DecidableEq, Repr

/-- Hands over one row: as a record, or with an event as a row that became none. -/
def handOver (table : String) (columns : List Column) (stats : ScanStats) (row : DriverRow) :
    Program ScanStats := do
  match materializeRow columns row with
  | .ok r =>
    Program.deliver r
    return { stats with records := stats.records + 1, bytes := stats.bytes + r.byteSize }
  | .error reason =>
    Program.emit (.dirtyRecord table reason.message)
    Program.reject row reason
    return { stats with dirty := stats.dirty + 1 }

def handOverAll (table : String) (columns : List Column) : ScanStats → List DriverRow →
    Program ScanStats
  | stats, [] => return stats
  | stats, row :: rest => do handOverAll table columns (← handOver table columns stats row) rest

def scan (conn : Handle) (table sql : String) (fetchSize : Int) : Attempt QueryError ScanStats := do
  match ← Program.execute conn sql fetchSize with
  | .error e => throw ⟨table, sql, .driver e⟩
  | .ok answer =>
    let stats ← handOverAll table answer.columns {} answer.rows
    match answer.failure with
    | some e => throw ⟨table, sql, .driver e⟩
    | none => return stats

end TableExchange
