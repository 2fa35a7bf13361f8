import TableExchange.Proofs.Database.Contracts
import TableExchange.Proofs.Split.Planning
import TableExchange.Proofs.Split.Probing

/-!
# What becomes of a table that is split

Every way in which probing and planning of a table can end. A probe tells of itself only; what it
fails with is a failed statement or a key that tables are not split by. Each table that is planned
gets one verdict: why it is not divided, or into which fragments it is.

* `Event.isVerdict`, `Trace.verdicts`: the events that say what becomes of a table.
* `SplitError.IsOfDatabase`: the failures that a database gives rise to.
* `KeyCatalog.Neutral`: a catalog of keys leaves the verdicts to the planning.
* `Probe.splitColumn_meets`, `Probe.minMax_meets`, `Probe.samples_meets`: the probes.
* `SplitRequest.Verdict`: a plan and the event that belongs to it.
* `Splitter.ends_plan`: the ends of planning.
-/

namespace TableExchange

/-! ## Verdicts -/

/-- Whether an event says what becomes of a table. -/
def Event.isVerdict : Event → Bool
  | .planComputed .. | .fallback .. => true
  | _ => false

/-- An event that is no verdict. -/
abbrev Event.IsOther (e : Event) : Prop := e.isVerdict = false

namespace Trace

def verdicts (t : Trace) : List Event := t.events.filter Event.isVerdict

theorem verdicts_append (t u : Trace) : verdicts (t ++ u) = t.verdicts ++ u.verdicts := by
  rw [verdicts, events_append, List.filter_append, verdicts, verdicts]

theorem verdicts_eq_nil {t : Trace} (h : ∀ e ∈ t.events, e.IsOther) : t.verdicts = [] :=
  List.filter_eq_nil_iff.2 fun e he => by simp [h e he]

end Trace

/-! ## Failures -/

/-- The failures that a database gives rise to. -/
def SplitError.IsOfDatabase : SplitError → Prop
  | .query _ | .illegalSplitKey .. => True
  | .illegalArgument _ | .config _ | .connection _ => False

theorem ProbeTarget.keyKind_yields (t : ProbeTarget) (dialect : Dialect) (c : Column) :
    Yields (fun _ => True) SplitError.IsOfDatabase (t.keyKind dialect c) := by
  rw [keyKind]
  cases dialect.keyKind? c.type <;> exact trivial

theorem ProbeTarget.point_yields (t : ProbeTarget) (kind : KeyKind) (row : DriverRow) (i : Nat) :
    Yields (fun _ => True) SplitError.IsOfDatabase (t.point kind row i) := by
  rw [point]
  cases SplitPoint.ofValue kind (row[i]?.getD .null) <;> exact trivial

/-! ## Probes -/

/-- A catalog of keys leaves it to the planning to tell what becomes of a table. -/
def KeyCatalog.Neutral (catalog : KeyCatalog) : Prop :=
  ∀ conn dialect table,
    (catalog.primaryKey conn dialect table).Meets Event.IsOther (fun _ => True) fun _ => True

theorem runQuery_meets {tells : Event → Prop} (conn : Handle) (table sql : String)
    (fetchSize : Int) :
    (runQuery conn table sql fetchSize).Meets tells (fun _ => True) fun _ => True := by
  refine (Attempt.meets_lift (Program.meets_execute conn sql fetchSize)).bind fun answer _ => ?_
  cases answer with
  | error e => exact Attempt.meets_throw trivial
  | ok answer =>
    dsimp only
    cases answer.all with
    | error e => exact Attempt.meets_throw trivial
    | ok rows => exact Attempt.meets_pure trivial

theorem KeyCatalog.system_meets {tells : Event → Prop} (conn : Handle) (dialect : Dialect)
    (table : String) :
    (system.primaryKey conn dialect table).Meets tells (fun _ => True)
      SplitError.IsOfDatabase := by
  unfold system
  dsimp only
  cases Sql.primaryKey dialect table with
  | none => exact Attempt.meets_pure trivial
  | some sql =>
    refine Attempt.Meets.bind ((runQuery_meets conn table sql _).adapt fun _ _ => trivial)
      fun answer _ => ?_
    exact Attempt.meets_pure trivial

theorem KeyCatalog.system_neutral : system.Neutral := fun conn dialect table =>
  (system_meets conn dialect table).mono_fails fun _ _ => trivial

/-- A dialect with samples has a statement for each. -/
theorem Sql.exists_sample {dialect : Dialect} (h : dialect.supportsSampling = true)
    (table column : String) (predicate : Option String) (percentage : Binary64) (limit : Nat) :
    ∃ sql, Sql.sample dialect table column predicate percentage limit = some sql := by
  cases dialect <;> first | exact ⟨_, rfl⟩ | exact absurd h (by decide)

namespace Probe

theorem run_meets (dialect : Dialect) (conn : Handle) (table : String) (kind : ProbeKind)
    (sql : String) :
    (run dialect conn table kind sql).Meets Event.IsOther (fun _ => True)
      SplitError.IsOfDatabase := by
  refine Attempt.Meets.bind (Attempt.meets_lift (Program.meets_emit rfl)) fun _ _ => ?_
  refine Attempt.Meets.bind ((runQuery_meets conn table sql _).adapt fun _ _ => trivial)
    fun answer _ => ?_
  refine Attempt.Meets.bind (Attempt.meets_lift (Program.meets_emit rfl)) fun _ _ => ?_
  exact Attempt.meets_pure trivial

theorem splitColumn_meets {fails : SplitError → Prop} {catalog : KeyCatalog} {dialect : Dialect}
    {conn : Handle} {table : String}
    (hcatalog : (catalog.primaryKey conn dialect table).Meets Event.IsOther (fun _ => True) fails)
    (hfails : ∀ e, e.IsOfDatabase → fails e) :
    (splitColumn dialect catalog conn table).Meets Event.IsOther (fun _ => True) fails := by
  refine hcatalog.bind fun keys _ => ?_
  dsimp only
  split
  · exact Attempt.meets_pure trivial
  · have hrun := (run_meets dialect conn table .columnType (Sql.keyTypes keys table)).mono_fails
      hfails
    exact hrun.bind fun answer _ => Attempt.meets_pure trivial

/-- Statistics of the key that a probe is about. -/
def AreOf (t : ProbeTarget) (stats : KeyStats) : Prop :=
  stats.table = t.table ∧ stats.column = t.column

theorem minMaxStats_yields (dialect : Dialect) (t : ProbeTarget) (columns : List Column)
    (rows : List DriverRow) :
    Yields (AreOf t) SplitError.IsOfDatabase (minMaxStats dialect t columns rows) := by
  unfold minMaxStats
  split
  · next low high =>
    split
    · exact trivial
    · refine (t.keyKind_yields dialect low).bind fun kind _ => ?_
      refine (t.point_yields kind _ 0).bind fun lower _ => ?_
      exact (t.point_yields kind _ 1).bind fun upper _ => ⟨rfl, rfl⟩
  · exact trivial

theorem minMax_meets (dialect : Dialect) (conn : Handle) (t : ProbeTarget) :
    (minMax dialect conn t).Meets Event.IsOther (AreOf t) SplitError.IsOfDatabase :=
  (run_meets dialect conn t.table .minMax _).bind fun answer _ =>
    Attempt.meets_of_except (minMaxStats_yields dialect t answer.1 answer.2)

theorem sampleStats_yields (dialect : Dialect) (t : ProbeTarget) (columns : List Column)
    (rows : List DriverRow) :
    Yields (AreOf t) SplitError.IsOfDatabase (sampleStats dialect t columns rows) := by
  unfold sampleStats
  split
  · next column _ =>
    refine (t.keyKind_yields dialect column).bind fun kind _ => ?_
    exact (Yields.mapM fun row => t.point_yields kind row 0).bind fun found _ => ⟨rfl, rfl⟩
  · exact trivial

theorem samples_meets {dialect : Dialect} (h : dialect.supportsSampling = true) (conn : Handle)
    (t : ProbeTarget) (percentage : Binary64) (limit : Nat) :
    (samples dialect conn t percentage limit).Meets Event.IsOther (AreOf t)
      SplitError.IsOfDatabase := by
  obtain ⟨sql, hsql⟩ := Sql.exists_sample h t.table t.column t.predicate percentage limit
  rw [samples, hsql]
  refine Attempt.Meets.bind (run_meets dialect conn t.table .sample sql) fun answer _ => ?_
  refine Attempt.Meets.bind
    (Attempt.meets_of_except (sampleStats_yields dialect t answer.1 answer.2))
    fun stats hstats => ?_
  refine Attempt.Meets.bind (Attempt.meets_lift (Program.meets_log _)) fun _ _ => ?_
  exact Attempt.meets_pure hstats

end Probe

/-! ## Planning -/

/-- A plan for a request and the event that belongs to it: one fragment and why there is just one,
or the fragments and their conditions. -/
inductive SplitRequest.Verdict (request : SplitRequest) : SplitPlan → Event → Prop
  | fallsBack (reason : FallbackReason) :
      Verdict request (.single request.predicate) (.fallback request.table reason)
  | divided (ranges : List Condition) (strategy : Strategy) :
      Verdict request (.ofRanges ranges request.column request.predicate)
        (.planComputed request.table strategy.name
          (SplitPlan.ofRanges ranges request.column request.predicate).rendered)

namespace Splitter

variable {s : Splitter} {conn : Handle} {request : SplitRequest}

/-- The statistics for a request. -/
def gather (s : Splitter) (conn : Handle) (request : SplitRequest) :
    Attempt SplitError KeyStats := do
  let target : ProbeTarget := ⟨request.table, request.column, request.predicate⟩
  match ← s.statistics with
  | .minMax => Probe.minMax s.dialect conn target
  | .sampled => Probe.samples s.dialect conn target s.percentage (request.count - 1)

theorem plan_eq_gather (hcount : 2 ≤ request.count) :
    s.plan conn request = s.gather conn request >>= fun stats =>
      s.planFromStats stats request.predicate request.count := by
  have hzero : request.count ≠ 0 := by omega
  have hone : request.count ≠ 1 := by omega
  rw [plan, if_neg hzero, if_neg hone, gather, bind_assoc]
  -- what comes after the probe stands behind each of the two
  refine bind_congr fun statistics => ?_
  cases statistics <;> rfl

/-- Samples are asked for in the dialects that have them. -/
theorem statistics_yields (hsampling : s.mode = .sample → s.dialect.supportsSampling = true) :
    Yields (fun statistics => statistics = .sampled → s.dialect.supportsSampling = true)
      SplitError.IsOfDatabase s.statistics := by
  rw [statistics]
  cases hmode : s.mode with
  | auto =>
    show s.dialect.features.statistics = .sampled → _
    cases s.dialect <;> decide
  | even => exact fun h => by cases h
  | sample =>
    rw [if_pos (hsampling hmode)]
    exact fun _ => hsampling hmode

theorem gather_meets (hsampling : s.mode = .sample → s.dialect.supportsSampling = true)
    (conn : Handle) (request : SplitRequest) :
    (s.gather conn request).Meets Event.IsOther
      (Probe.AreOf ⟨request.table, request.column, request.predicate⟩) SplitError.IsOfDatabase := by
  refine (Attempt.meets_of_except (statistics_yields hsampling)).bind
    fun statistics hstatistics => ?_
  cases statistics with
  | minMax => exact Probe.minMax_meets s.dialect conn _
  | sampled => exact Probe.samples_meets (hstatistics rfl) conn _ s.percentage _

/-- Known statistics come to a plan with its event, or to an error without one. -/
theorem ends_planFromStats {stats : KeyStats} (hcount : 2 ≤ request.count)
    (htable : stats.table = request.table) (hcolumn : stats.column = request.column)
    {r : Except SplitError SplitPlan} {t : Trace}
    (h : (s.planFromStats stats request.predicate request.count).Ends r t) :
    (∃ plan event, r = .ok plan ∧ t.verdicts = [event] ∧ request.Verdict plan event) ∨
      ∃ e, r = .error e ∧ e.IsOfDatabase := by
  unfold Attempt.Ends at h
  -- each of the three ways is a program of at most one step, so its ends are read off
  cases hreason : fallbackReason? stats with
  | some reason =>
    rw [planFromStats_fallback hcount hreason, htable] at h
    cases h with
    | noted h =>
      cases h
      exact .inl ⟨_, _, rfl, rfl, .fallsBack reason⟩
  | none =>
    let strategy := Strategy.select stats.statistics stats.kind
    cases hpoints : strategy.boundaries stats request.count with
    | error fault =>
      rw [planFromStats_illegalKey hcount hreason hpoints] at h
      cases h
      exact .inr ⟨_, rfl, trivial⟩
    | ok points =>
      rw [planFromStats_ranges hcount hreason hpoints, rangePlan, htable, hcolumn] at h
      cases h with
      | noted h =>
        cases h
        exact .inl ⟨_, _, rfl, rfl, .divided _ _⟩

/-- **The ends of planning.** A table comes to a plan with one verdict, or to an error that a
database gives rise to. -/
theorem ends_plan (hsampling : s.mode = .sample → s.dialect.supportsSampling = true)
    (hcount : 2 ≤ request.count) {r : Except SplitError SplitPlan} {t : Trace}
    (h : (s.plan conn request).Ends r t) :
    (∃ plan event, r = .ok plan ∧ t.verdicts = [event] ∧ request.Verdict plan event) ∨
      ∃ e, r = .error e ∧ e.IsOfDatabase := by
  have hgather := gather_meets hsampling conn request
  rw [plan_eq_gather hcount, Attempt.ends_bind_iff] at h
  rcases h with ⟨stats, u, v, hstats, hplan, rfl⟩ | ⟨e, rfl, hfails⟩
  · obtain ⟨htable, hcolumn⟩ := hgather.given hstats
    -- the probe gives no verdict, so the one of the planning is the only one
    rw [Trace.verdicts_append, Trace.verdicts_eq_nil (hgather.told hstats), List.nil_append]
    exact ends_planFromStats hcount htable hcolumn hplan
  · exact .inr ⟨e, rfl, hgather.failed hfails⟩

/-- Where samples are asked for just in dialects that have them, a database is what planning fails
for. -/
theorem plan_meets (hsampling : s.mode = .sample → s.dialect.supportsSampling = true)
    (hcount : 2 ≤ request.count) :
    (s.plan conn request).Meets (fun _ => True) (fun _ => True) SplitError.IsOfDatabase := by
  intro r t h
  refine ⟨fun _ _ => trivial, ?_⟩
  rcases ends_plan hsampling hcount h with ⟨_, _, rfl, -⟩ | ⟨e, rfl, he⟩
  · exact trivial
  · exact he

end Splitter

end TableExchange
