import TableExchange.Proofs.Config.AcceptedSettings
import TableExchange.Proofs.Job.Connect
import TableExchange.Proofs.Split.Contracts

/-!
# What becomes of a reading

A job reads tables and queries, each through the URL of its connection. A query becomes one task,
and so does a table in one piece. Any other table becomes one task with the verdict why, or one task
for each fragment that its verdict lists.

* `Reading`, `ReaderSettings.readings`: what a job reads, in the order of its settings.
* `ReaderSettings.Settles`: the tasks of a reading and its verdicts.
* `Planner.planOver_eq_findColumn`: a table is planned by its column, if it has one.
* `Planner.settles_of_ends_planTable`: every way in which a table gets its tasks.
* `Planner.plan_meets_of_planTable`: a job keeps to a contract if its tables do.
-/

namespace TableExchange

/-- One table or one query that is read through a URL. -/
inductive Reading where
  | table (url name : String)
  | query (url text : String)
  deriving DecidableEq, Repr

def Reading.isTable : Reading → Bool
  | .table .. => true
  | .query .. => false

def Source.readings (url : String) : Source → List Reading
  | .tables names => names.map (.table url)
  | .queries texts => texts.map (.query url)

/-- A failed attempt to connect says nothing of a table. -/
theorem Event.IsRetry.isOther {e : Event} (h : e.IsRetry) : e.IsOther := by
  cases e with
  | connectionRetry _ _ _ => rfl
  | _ => exact h.elim

namespace ReaderSettings

variable {s : ReaderSettings} {url table : String}

/-- What a job reads, one connection after the other, in the order of the settings. -/
def readings (s : ReaderSettings) (urls : List String) : List Reading :=
  (s.connections.zip urls).flatMap fun c => c.1.source.readings c.2

/-- The tasks of a reading, with its verdicts. Of a table in fragments just the last task reads the
rows without a key. -/
inductive Settles (s : ReaderSettings) : Reading → List ReadTask → List Event → Prop
  | query (url text : String) :
      Settles s (.query url text) [⟨url, none, text, false, s.fetchSize⟩] []
  | whole (url table : String) (h : s.splitCount ≤ 1) :
      Settles s (.table url table)
        [⟨url, some table, Sql.select s.columnList table s.predicate, false, s.fetchSize⟩] []
  | fallsBack (url table : String) (reason : FallbackReason) (h : 2 ≤ s.splitCount) :
      Settles s (.table url table)
        [⟨url, some table, Sql.select s.columnList table s.predicate, false, s.fetchSize⟩]
        [.fallback table reason]
  | divided (url table strategy : String) (ranges : List String) (nulls : String)
      (h : 2 ≤ s.splitCount) :
      Settles s (.table url table)
        ((ranges.map fun range =>
            ⟨url, some table, Sql.select s.columnList table (some range), false, s.fetchSize⟩) ++
          [⟨url, some table, Sql.select s.columnList table (some nulls), true, s.fetchSize⟩])
        [.planComputed table strategy (ranges ++ [nulls])]

theorem fragmentTasks_single :
    s.fragmentTasks url table (.single s.predicate) = [s.unsplitTask url table] := by
  cases hpredicate : s.predicate <;>
    simp [fragmentTasks, SplitPlan.single, Fragment.unsplit, Fragment.query, Fragment.predicate,
      Condition.render, unsplitTask, hpredicate]

/-- The conditions of ranges, as text. -/
def rangeTexts (s : ReaderSettings) (ranges : List Condition) : List String :=
  ranges.map fun c => (Condition.under s.predicate c).render

theorem rendered_ofRanges (ranges : List Condition) (column : String) :
    (SplitPlan.ofRanges ranges column s.predicate).rendered =
      s.rangeTexts ranges ++ [(Condition.nullPartition column s.predicate).render] := by
  simp [SplitPlan.rendered, SplitPlan.ofRanges, Fragment.range, Fragment.nullPartition,
    Fragment.predicate, rangeTexts]

theorem fragmentTasks_ofRanges (ranges : List Condition) (column : String) :
    s.fragmentTasks url table (.ofRanges ranges column s.predicate) =
      ((s.rangeTexts ranges).map fun range => s.tableTask url table
        (Sql.select s.columnList table (some range)) false) ++
      [s.tableTask url table (Sql.select s.columnList table
        (some (Condition.nullPartition column s.predicate).render)) true] := by
  simp [fragmentTasks, SplitPlan.ofRanges, Fragment.range, Fragment.nullPartition, Fragment.query,
    Fragment.predicate, rangeTexts]

/-- The user's condition is kept as it is: the settings have trimmed it already. -/
theorem Accepted.predicate_of (hs : s.Accepted) (table column : String) :
    (SplitRequest.of table column s.predicate s.splitCount).predicate = s.predicate :=
  hs.predicate

theorem settles_of_verdict {column : String} {plan : SplitPlan} {event : Event} (hs : s.Accepted)
    (hcount : 2 ≤ s.splitCount)
    (h : (SplitRequest.of table column s.predicate s.splitCount).Verdict plan event) :
    s.Settles (.table url table) (s.fragmentTasks url table plan) [event] := by
  cases h with
  | fallsBack reason =>
    rw [hs.predicate_of, fragmentTasks_single]
    exact .fallsBack url table reason hcount
  | divided ranges strategy =>
    rw [hs.predicate_of, fragmentTasks_ofRanges, rendered_ofRanges]
    exact .divided url table strategy.name _ _ hcount

end ReaderSettings

/-! ## Planning -/

namespace Planner

variable {p : Planner} {s : ReaderSettings} {url table : String} {conn : Handle}

/-- The column that a table is split by: the configured one, or one of the primary key. -/
def findColumn (p : Planner) (s : ReaderSettings) (table : String) (conn : Handle) :
    Attempt Error (Option String) :=
  match s.splitColumn with
  | some column => pure (some column)
  | none => (Probe.splitColumn s.dialect p.catalog conn table).adapt .split

/-- The tasks of a table that is split by a column, or by none. -/
def planBy (s : ReaderSettings) (url table : String) (conn : Handle) :
    Option String → Attempt Error (List ReadTask)
  | none => do
    Program.emit (.fallback table .noSplitColumn)
    return [s.unsplitTask url table]
  | some column => do
    let request := SplitRequest.of table column s.predicate s.splitCount
    let plan ← (s.splitter.plan conn request).adapt .split
    return s.fragmentTasks url table plan

theorem planOver_eq_findColumn :
    p.planOver s url table conn = p.findColumn s table conn >>= planBy s url table conn := by
  unfold planOver findColumn
  -- the plan stands twice, behind each way to find a column
  cases s.splitColumn with
  | some column => rfl
  | none =>
    dsimp only
    refine bind_congr fun found => ?_
    cases found <;> rfl

theorem findColumn_meets {fails : Error → Prop} {cause : SplitError → Prop}
    (hcatalog : (p.catalog.primaryKey conn s.dialect table).Meets Event.IsOther (fun _ => True)
      cause)
    (hcause : ∀ e, e.IsOfDatabase → cause e) (hfails : ∀ e, cause e → fails (.split e)) :
    (p.findColumn s table conn).Meets Event.IsOther (fun _ => True) fails := by
  unfold findColumn
  cases s.splitColumn with
  | some column => exact Attempt.meets_pure trivial
  | none => exact (Probe.splitColumn_meets hcatalog hcause).adapt hfails

theorem settles_of_ends_planBy (hs : s.Accepted) (hcount : 2 ≤ s.splitCount)
    {found : Option String} {tasks : List ReadTask} {t : Trace}
    (h : (planBy s url table conn found).Ends (.ok tasks) t) :
    s.Settles (.table url table) tasks t.verdicts := by
  cases found with
  | none =>
    obtain ⟨_, u, v, hemit, hpure, rfl⟩ := Attempt.ends_bind_ok.1 h
    obtain ⟨-, rfl⟩ := Attempt.ends_emit_iff.1 hemit
    obtain ⟨htasks, rfl⟩ := Attempt.ends_pure_iff.1 hpure
    cases htasks
    exact .fallsBack url table .noSplitColumn hcount
  | some column =>
    obtain ⟨plan, u, v, hplan, hpure, rfl⟩ := Attempt.ends_bind_ok.1 h
    obtain ⟨htasks, rfl⟩ := Attempt.ends_pure_iff.1 hpure
    cases htasks
    obtain ⟨r, hr, hplan⟩ := Attempt.ends_adapt_iff.1 hplan
    rw [List.append_nil]
    rcases Splitter.ends_plan hs.sampling hcount hplan with
      ⟨found, event, rfl, hverdict, hevent⟩ | ⟨e, rfl, -⟩
    · cases hr
      rw [hverdict]
      exact ReaderSettings.settles_of_verdict hs hcount hevent
    · cases hr

theorem settles_of_ends_planOver (hcatalog : p.catalog.Neutral) (hs : s.Accepted)
    (hcount : 2 ≤ s.splitCount) {tasks : List ReadTask} {t : Trace}
    (h : (p.planOver s url table conn).Ends (.ok tasks) t) :
    s.Settles (.table url table) tasks t.verdicts := by
  have hmeets : (p.findColumn s table conn).Meets Event.IsOther (fun _ => True) fun _ => True :=
    findColumn_meets (hcatalog conn s.dialect table) (fun _ _ => trivial) fun _ _ => trivial
  rw [planOver_eq_findColumn] at h
  obtain ⟨found, u, v, hfound, hplan, rfl⟩ := Attempt.ends_bind_ok.1 h
  rw [Trace.verdicts_append, Trace.verdicts_eq_nil (hmeets.told hfound), List.nil_append]
  exact settles_of_ends_planBy hs hcount hplan

/-- However a table gets its tasks, it is settled. -/
theorem settles_of_ends_planTable (hcatalog : p.catalog.Neutral) (hs : s.Accepted)
    {tasks : List ReadTask} {t : Trace} (h : (p.planTable s url table).Ends (.ok tasks) t) :
    s.Settles (.table url table) tasks t.verdicts := by
  unfold planTable at h
  split at h
  · next hcount =>
    obtain ⟨htasks, rfl⟩ := Attempt.ends_pure_iff.1 h
    cases htasks
    exact .whole url table hcount
  · next hcount =>
    obtain ⟨answer, u, v, hconnect, h, rfl⟩ := Attempt.ends_bind_ok.1 h
    obtain ⟨_, -, hconnect⟩ := Attempt.ends_liftM_iff.1 hconnect
    have hquiet : ∀ e ∈ Trace.events u, e.IsOther :=
      (Program.meets_connect url s.credentials _ u hconnect).1
    rw [Trace.verdicts_append, Trace.verdicts_eq_nil hquiet, List.nil_append]
    cases answer with
    | error e => cases (Attempt.ends_throw_iff.1 h).1
    | ok conn =>
      -- closing the connection tells of no event
      obtain ⟨w, _, hover, hclose, rfl⟩ := Program.ends_withConnection h
      rw [Trace.verdicts, Trace.events_append, Program.events_of_ends_closeQuietly hclose,
        List.append_nil]
      exact settles_of_ends_planOver hcatalog hs (by omega) hover

/-! ## Jobs -/

variable {source : Source} {tells : Event → Prop} {fails : Error → Prop}

theorem planSource_meets_of_planTable
    (h : ∀ table ∈ source.tableNames,
      (p.planTable s url table).Meets tells (fun _ => True) fails) :
    (p.planSource s url source).Meets tells (fun _ => True) fails := by
  cases source with
  | queries texts => exact Attempt.meets_pure trivial
  | tables names => exact (Attempt.Meets.mapM h).bind fun _ _ => Attempt.meets_pure trivial

/-- A job keeps to a contract if its tables do, and if the contract allows for connections that
cannot be made. -/
theorem plan_meets_of_planTable (hretry : ∀ e, e.IsRetry → tells e)
    (hrefused : ∀ refused, fails (.connection refused))
    (h : ∀ c ∈ s.connections, ∀ url, ∀ table ∈ c.source.tableNames,
      (p.planTable s url table).Meets tells (fun _ => True) fails) :
    (p.plan s).Meets tells (fun _ => True) fails := by
  have hresolve : (p.resolveUrls s).Meets tells (fun _ => True) fails :=
    (p.resolveUrls_meets s).mono hretry (fun _ _ => trivial)
      fun _ ⟨refused, he⟩ => he ▸ hrefused refused
  have hsource (c : ConnectionSettings × String) (urls : List String)
      (hc : c ∈ s.connections.zip urls) :
      (p.planSource s c.2 c.1.source).Meets tells (fun _ => True) fails :=
    planSource_meets_of_planTable (h c.1 (List.of_mem_zip hc).1 c.2)
  refine hresolve.bind fun urls _ => ?_
  exact (Attempt.Meets.mapM fun c hc => hsource c urls hc).bind fun _ _ =>
    Attempt.meets_pure trivial

end Planner

end TableExchange
