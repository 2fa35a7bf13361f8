import TableExchange.Config.ReaderSettings
import TableExchange.Split.Plan
import TableExchange.Split.Probe
import TableExchange.Split.Strategy

/-!
# Splitting a table

A `Splitter` plans one table: it chooses the statistics, probes for them, and turns them into a
plan of ranges. It falls back to one scan where the statistics do not allow ranges.

* `Splitter.statistics`: which statistics are gathered.
* `Splitter.planFromStats`: the plan for statistics that are known.
* `Splitter.plan`: the plan for a request, with the probe it takes.
-/

namespace TableExchange

structure SplitRequest where
  table : String
  column : String
  predicate : Option String
  count : Nat
  deriving DecidableEq, Repr

/-- A request with the user's condition, of which blank text is none. -/
def SplitRequest.of (table column : String) (predicate : Option String) (count : Nat) :
    SplitRequest := ⟨table, column, predicate.bind nonBlank, count⟩

structure Splitter where
  dialect : Dialect
  mode : SplitMode := .auto
  percentage : Binary64 := ReaderSettings.defaultPercentage
  deriving DecidableEq, Repr

namespace Splitter

/-- The statistics that are gathered: those of the dialect, unless the mode asks for others. -/
def statistics (s : Splitter) : Except SplitError Statistics :=
  match s.mode with
  | .auto => .ok s.dialect.features.statistics
  | .even => .ok .minMax
  | .sample =>
    if s.dialect.supportsSampling then .ok .sampled
    else .error (.config (.invalid "splitMode" (.noSampleSyntax s.dialect)))

/-- Why statistics do not allow ranges, if they do not. -/
def fallbackReason? (stats : KeyStats) : Option FallbackReason :=
  match stats.bounds?, stats.statistics with
  | none, _ => some .noNonNullKeys
  | some _, .sampled => if stats.samples.length < 2 then some .tooFewSamples else none
  | some _, .minMax => none

/-- The ranges of a plan: one for each pair of neighbouring boundaries and, for a sample, one for
the keys outside of it. -/
def ranges (s : Splitter) (stats : KeyStats) (points : List SplitPoint) : List Condition :=
  let inside := rangeConditions stats.column (points.map (·.operand s.dialect))
  match stats.statistics, stats.bounds? with
  | .sampled, some (first, last) =>
    inside ++
      [outsideCondition stats.column (first.operand s.dialect) (last.operand s.dialect)]
  | _, _ => inside

/-- The plan for statistics that are known. No piece is an error, and one piece needs no plan. -/
def planFromStats (s : Splitter) (stats : KeyStats) (predicate : Option String) (count : Nat) :
    Attempt SplitError SplitPlan := do
  if count = 0 then throw (.illegalArgument .zeroCount)
  if count = 1 then return .empty
  match fallbackReason? stats with
  | some reason =>
    Program.emit (.fallback stats.table reason)
    return .single predicate
  | none =>
    let strategy := Strategy.select stats.statistics stats.kind
    match strategy.boundaries stats count with
    | .error fault => throw (.illegalSplitKey stats.table stats.column fault)
    | .ok points =>
      let plan := SplitPlan.ofRanges (s.ranges stats points) stats.column predicate
      Program.emit (.planComputed stats.table strategy.name plan.rendered)
      return plan

/-- The plan for a request. One piece needs no probe. -/
def plan (s : Splitter) (conn : Handle) (request : SplitRequest) :
    Attempt SplitError SplitPlan := do
  if request.count = 0 then throw (.illegalArgument .zeroCount)
  if request.count = 1 then return .empty
  let target : ProbeTarget := ⟨request.table, request.column, request.predicate⟩
  let stats ← match ← s.statistics with
    | .minMax => Probe.minMax s.dialect conn target
    | .sampled => Probe.samples s.dialect conn target s.percentage (request.count - 1)
  s.planFromStats stats request.predicate request.count

end Splitter

end TableExchange
