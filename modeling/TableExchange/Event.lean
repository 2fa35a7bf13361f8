import TableExchange.Text.Quoted
import TableExchange.Text.Digits

/-!
# Events

What is worth telling while tables are planned and read.

* `Event`: the notable steps; `Event.logEntry` puts one into words.
* `Counters`: how many events of each kind there have been.
-/

namespace TableExchange

inductive ProbeKind where
  | primaryKey | columnType | minMax | sample | precheck
  deriving DecidableEq, Repr

namespace ProbeKind

def label : ProbeKind → String
  | .primaryKey => "primary_key"
  | .columnType => "column_type"
  | .minMax => "min_max"
  | .sample => "sample"
  | .precheck => "precheck"

def all : List ProbeKind := [.primaryKey, .columnType, .minMax, .sample, .precheck]

end ProbeKind

/-- Why a table is read by one scan and not in ranges. -/
inductive FallbackReason where
  | noNonNullKeys | tooFewSamples | noSplitColumn
  deriving DecidableEq, Repr

namespace FallbackReason

def label : FallbackReason → String
  | .noNonNullKeys => "no_non_null_keys"
  | .tooFewSamples => "too_few_samples"
  | .noSplitColumn => "no_split_column"

def all : List FallbackReason := [.noNonNullKeys, .tooFewSamples, .noSplitColumn]

end FallbackReason

/-- A notable step. -/
inductive Event where
  | probeStarted (table : String) (kind : ProbeKind) (sql : String)
  | probeFinished (table : String) (kind : ProbeKind) (rows : Nat)
  | planComputed (table strategy : String) (fragments : List String)
  | fallback (table : String) (reason : FallbackReason)
  | connectionRetry (url : String) (attempt : Nat) (error : String)
  | dirtyRecord (table reason : String)
  deriving DecidableEq, Repr

inductive LogLevel where
  | debug | info | warn
  deriving DecidableEq, Repr

def LogLevel.label : LogLevel → String
  | .debug => "DEBUG"
  | .info => "INFO"
  | .warn => "WARN"

structure LogEntry where
  level : LogLevel
  message : String
  fields : List (String × String)
  deriving DecidableEq, Repr

def Event.logEntry : Event → LogEntry
  | .probeStarted table kind sql =>
    ⟨.info, "probe started", [("table", table), ("probe", kind.label), ("sql", sql)]⟩
  | .probeFinished table kind rows =>
    ⟨.debug, "probe finished", [("table", table), ("probe", kind.label), ("rows", natText rows)]⟩
  | .planComputed table strategy fragments =>
    ⟨.info, "split plan computed",
      [("table", table), ("strategy", strategy), ("fragments", natText fragments.length),
        ("sql", bracketed (fragments.map quoted))]⟩
  | .fallback table reason =>
    ⟨.info, "falling back to unsplit scan", [("table", table), ("reason", reason.label)]⟩
  | .connectionRetry url attempt error =>
    ⟨.warn, "connection attempt failed",
      [("url", url), ("attempt", natText attempt), ("error", error)]⟩
  | .dirtyRecord table reason =>
    ⟨.warn, "dirty record", [("table", table), ("reason", reason)]⟩

/-! ## Counting -/

structure Counters where
  probes : Nat := 0
  plans : Nat := 0
  fragments : Nat := 0
  fallbacks : Nat := 0
  retries : Nat := 0
  dirtyRecords : Nat := 0
  deriving DecidableEq, Repr

namespace Counters

def add (c : Counters) : Event → Counters
  | .probeStarted .. => { c with probes := c.probes + 1 }
  | .probeFinished .. => c
  | .planComputed _ _ fragments =>
    { c with plans := c.plans + 1, fragments := c.fragments + fragments.length }
  | .fallback .. => { c with fallbacks := c.fallbacks + 1 }
  | .connectionRetry .. => { c with retries := c.retries + 1 }
  | .dirtyRecord .. => { c with dirtyRecords := c.dirtyRecords + 1 }

def addAll (c : Counters) (events : List Event) : Counters := events.foldl add c

end Counters

end TableExchange
