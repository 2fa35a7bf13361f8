import TableExchange.Proofs.Database.Statements
import TableExchange.Proofs.Job.Connections

/-!
# The probes of a job

The key of a table is probed twice. The check of the job asks for the least and the greatest key,
whatever the split mode is. Planning asks for the same where it plans by these, and for a sample of
the keys where it plans by a sample.

* `Splitter.probe?`: the statement by which planning probes a key.
* `Splitter.probe?_eq_minMax_iff`: when this asks for the least and the greatest key.
* `Planner.plan_runs`: the statements that planning runs.
* `Planner.ends_precheck_tables`: those that the check runs.
* `Planner.checked_and_planned_probes`: both, for a run.
-/

namespace TableExchange

/-! ## Texts -/

namespace Sql

variable {dialect : Dialect} {table column sql : String} {predicate : Option String}
  {percentage : Binary64} {limit : Nat}

theorem length_minMax_le :
    (minMax table column predicate).length ≤
      table.length + 3 * column.length + (predicate.getD "").length + 50 := by
  have hmin : "SELECT MIN(".length = 11 := rfl
  have hmax : "),MAX(".length = 6 := rfl
  have hfrom : ") FROM ".length = 7 := rfl
  have hwhere : " WHERE (".length = 8 := rfl
  have hand : ") AND ".length = 6 := rfl
  have hnull : " IS NOT NULL".length = 12 := rfl
  cases predicate <;>
  · dsimp only [minMax, Option.getD]
    simp only [String.length_append]
    omega

theorem lt_length_sample
    (h : sample dialect table column predicate percentage limit = some sql) :
    table.length + 3 * column.length + (predicate.getD "").length + 50 < sql.length := by
  simp only [sample] at h
  -- the share and the limit can only make the text longer
  generalize percentage.text .plain = share at h
  generalize natText limit = most at h
  have hempty : "".length = 0 := rfl
  have hall : "SELECT * FROM ( SELECT ".length = 23 := rfl
  have hrownum : "  ORDER BY DBMS_RANDOM.VALUE) WHERE ROWNUM <= ".length = 46 := rfl
  have hderived : " FROM (SELECT ".length = 14 := rfl
  have hrand : " ORDER BY RAND() LIMIT ".length = 23 := rfl
  have hrandom : " ORDER BY random() LIMIT ".length = 25 := rfl
  have hsampled : ") AS sampled ORDER BY ".length = 22 := rfl
  split at h
  · exact absurd h nofun
  all_goals
    cases h
    cases predicate <;>
    · dsimp only [Option.getD]
      simp only [String.length_append]
      omega

/-- No sample of a key is a query for the least and the greatest one: its text is longer. -/
theorem sample_ne_minMax :
    sample dialect table column predicate percentage limit ≠
      some (minMax table column predicate) :=
  fun h => Nat.lt_irrefl _ (Nat.lt_of_le_of_lt length_minMax_le (lt_length_sample h))

end Sql

/-! ## Tables -/

theorem runQuery_runs (conn : Handle) (table sql : String) (fetchSize : Int) :
    (runQuery conn table sql fetchSize).Runs [sql] := by
  refine (Attempt.runs_execute conn sql fetchSize).bind_nil fun answer => ?_
  cases answer with
  | error e => exact Attempt.runs_throw _
  | ok answer =>
    dsimp only
    cases answer.all with
    | ok rows => exact Attempt.runs_pure _
    | error e => exact Attempt.runs_throw _

namespace Probe

variable {dialect : Dialect} {conn : Handle} {t : ProbeTarget} {percentage : Binary64}
  {limit : Nat}

theorem run_runs (table : String) (kind : ProbeKind) (sql : String) :
    (run dialect conn table kind sql).Runs [sql] :=
  (Attempt.runs_emit _).nil_bind fun _ =>
    ((runQuery_runs conn table sql _).adapt _).bind_nil fun _ =>
      (Attempt.runs_emit _).nil_bind fun _ => Attempt.runs_pure _

theorem minMax_runs :
    (minMax dialect conn t).Runs [Sql.minMax t.table t.column t.predicate] :=
  (run_runs t.table .minMax _).bind_nil fun _ =>
    (Attempt.keeps_of_except (o := none) _).runs_nil

theorem samples_runs :
    (samples dialect conn t percentage limit).Runs
      (Sql.sample dialect t.table t.column t.predicate percentage limit).toList := by
  unfold samples
  cases Sql.sample dialect t.table t.column t.predicate percentage limit with
  | none => exact Attempt.runs_throw _
  | some sql =>
    refine (run_runs t.table .sample sql).bind_nil fun _ => ?_
    refine Attempt.Keeps.runs_nil (o := none) ?_
    exact (Attempt.keeps_of_except _).bind fun _ =>
      (Attempt.keeps_lift (Program.leads_noting (Program.leads_done _ _))).bind fun _ =>
        Attempt.keeps_pure _

end Probe

namespace Splitter

variable {s : Splitter} {conn : Handle} {request : SplitRequest}

/-- Tables are planned by a sample of their keys if the mode says so, and with Oracle unless it says
otherwise. -/
def Samples (s : Splitter) : Prop := s.mode = .sample ∨ s.mode = .auto ∧ s.dialect = .oracle

theorem statistics_of_samples (hsampling : s.mode = .sample → s.dialect.supportsSampling = true)
    (h : s.Samples) : s.statistics = .ok .sampled := by
  rw [statistics]
  rcases h with hmode | ⟨hmode, hdialect⟩
  · rw [hmode]
    exact if_pos (hsampling hmode)
  · rw [hmode, hdialect]
    rfl

theorem statistics_of_not_samples (h : ¬s.Samples) : s.statistics = .ok .minMax := by
  rw [statistics]
  cases hmode : s.mode with
  | auto =>
    cases hdialect : s.dialect with
    | oracle => exact absurd (.inr ⟨hmode, hdialect⟩) h
    | _ => rfl
  | even => rfl
  | sample => exact absurd (.inl hmode) h

/-- The statement by which the key of a request is probed, if the dialect has it. -/
def probe? (s : Splitter) (request : SplitRequest) : Option String :=
  match s.statistics with
  | .ok .minMax => some (Sql.minMax request.table request.column request.predicate)
  | .ok .sampled =>
    Sql.sample s.dialect request.table request.column request.predicate s.percentage
      (request.count - 1)
  | .error _ => none

theorem gather_runs : (s.gather conn request).Runs (s.probe? request).toList := by
  rw [gather, probe?]
  cases s.statistics with
  | error e => exact Attempt.runs_throw e
  | ok statistics =>
    cases statistics with
    | minMax => exact Probe.minMax_runs
    | sampled => exact Probe.samples_runs

theorem plan_runs (hcount : 2 ≤ request.count) :
    (s.plan conn request).Runs (s.probe? request).toList := by
  rw [plan_eq_gather hcount]
  exact gather_runs.bind_nil fun stats =>
    (planFromStats_keeps (o := none) stats request.predicate hcount).runs_nil

theorem exists_probe (hsampling : s.mode = .sample → s.dialect.supportsSampling = true) :
    ∃ sql, s.probe? request = some sql := by
  by_cases h : s.Samples
  · have hsupports : s.dialect.supportsSampling = true := by
      rcases h with hmode | ⟨-, hdialect⟩
      · exact hsampling hmode
      · rw [hdialect]
        rfl
    rw [probe?, statistics_of_samples hsampling h]
    exact Sql.exists_sample hsupports _ _ _ _ _
  · rw [probe?, statistics_of_not_samples h]
    exact ⟨_, rfl⟩

theorem probe?_eq_minMax_iff (hsampling : s.mode = .sample → s.dialect.supportsSampling = true) :
    s.probe? request = some (Sql.minMax request.table request.column request.predicate) ↔
      ¬s.Samples := by
  by_cases h : s.Samples
  · rw [probe?, statistics_of_samples hsampling h]
    exact iff_of_false Sql.sample_ne_minMax (not_not_intro h)
  · rw [probe?, statistics_of_not_samples h]
    exact iff_of_true rfl h

end Splitter

/-! ## Planning -/

theorem forall₂_filterMap {α β : Type} {f : α → Option β} {as : List α}
    (h : ∀ a ∈ as, ∃ b, f a = some b) :
    List.Forall₂ (fun a b => f a = some b) as (as.filterMap f) := by
  induction as with
  | nil => exact .nil
  | cons a as ih =>
    obtain ⟨⟨b, hb⟩, has⟩ := List.forall_mem_cons.1 h
    rw [List.filterMap_cons_some hb]
    exact .cons hb (ih has)

theorem flatMap_zip_fst {α β γ : Type} {as : List α} {bs : List β} (h : as.length ≤ bs.length)
    (g : α → List γ) : ((as.zip bs).flatMap fun c => g c.1) = as.flatMap g := by
  rw [← List.flatMap_map Prod.fst g, List.map_fst_zip h]

namespace ReaderSettings

/-- The tables of all connections, in order. -/
def tables (s : ReaderSettings) : List String := s.connections.flatMap (·.source.tableNames)

/-- The statement by which planning probes the key of a table. -/
def plannedProbe? (s : ReaderSettings) (column table : String) : Option String :=
  s.splitter.probe? (.of table column s.predicate s.splitCount)

end ReaderSettings

namespace Planner

variable {p : Planner} {s : ReaderSettings} {url table column : String} {conn : Handle}

theorem planOver_runs (hcolumn : s.splitColumn = some column) (hcount : 2 ≤ s.splitCount) :
    (p.planOver s url table conn).Runs (s.plannedProbe? column table).toList := by
  rw [planOver_eq_findColumn, findColumn, hcolumn]
  show (planBy s url table conn (some column)).Runs _
  exact ((Splitter.plan_runs hcount).adapt _).bind_nil fun _ => Attempt.runs_pure _

theorem planTable_runs (hcolumn : s.splitColumn = some column) (hcount : 2 ≤ s.splitCount) :
    (p.planTable s url table).Runs (s.plannedProbe? column table).toList := by
  rw [planTable, if_neg (by omega)]
  refine (Attempt.runs_connect url s.credentials).nil_bind fun answer => ?_
  cases answer with
  | error e => exact Attempt.runs_throw _
  | ok conn => exact (planOver_runs hcolumn hcount).withConnection conn

theorem planSource_runs (hcolumn : s.splitColumn = some column) (hcount : 2 ≤ s.splitCount)
    (source : Source) :
    (p.planSource s url source).Runs (source.tableNames.filterMap (s.plannedProbe? column)) := by
  rw [List.filterMap_eq_flatMap_toList]
  cases source with
  | queries texts => exact Attempt.runs_pure _
  | tables names =>
    exact (Attempt.Runs.mapM fun table _ => planTable_runs hcolumn hcount).bind_nil fun _ =>
      Attempt.runs_pure _

/-- Planning runs one probe for each table, one after the other, and no other statement. -/
theorem plan_runs (hcolumn : s.splitColumn = some column) (hcount : 2 ≤ s.splitCount) :
    (p.plan s).Runs (s.tables.filterMap (s.plannedProbe? column)) := by
  have hresolve : (p.resolveUrls s).Runs [] := resolveUrls_keeps.runs_nil
  refine hresolve.bind fun urls t hurls => ?_
  have hlength := ((p.resolveUrls_meets s).given hurls).length_eq
  rw [ReaderSettings.tables, List.filterMap_flatMap, ← flatMap_zip_fst hlength.le]
  exact (Attempt.Runs.mapM fun c _ => planSource_runs hcolumn hcount c.1.source).bind_nil fun _ =>
    Attempt.runs_pure _

end Planner

/-! ## Checks -/

namespace Precheck

variable {credentials : Credentials} {dialect : Dialect} {parser : Sql.Parser} {t : PrecheckTarget}
  {log : List Exchange} {result : Except PrecheckError Unit}

theorem runStatements_runs (conn : Handle) (table : String) (sqls : List String) :
    (runStatements dialect conn table sqls).Runs sqls := by
  induction sqls with
  | nil => exact Attempt.runs_pure ()
  | cons sql rest ih =>
    refine (Attempt.runs_emit _).nil_bind fun _ => ?_
    refine (Attempt.runs_execute conn sql _).bind fun answer _ _ => ?_
    cases answer with
    | error e => exact Attempt.runs_throw _
    | ok answer => exact ih

theorem statements_session (conn : Handle) (said : List Exchange) (answer : Except DriverError Unit)
    (logged : List LogEntry) :
    Trace.statements ((exchanges credentials t conn said answer logged).map Exchange.action) =
      Trace.statements (said.map Exchange.action) := by
  simp [exchanges, Trace.statements, Action.statement?, Exchange.action, List.filterMap_map,
    List.filterMap_append, List.filterMap_cons, Function.comp_def]

/-- The check of a target runs the statements of the target, from the first one on, and all of them
if it succeeds. It runs none unless the parser accepts all. -/
theorem Talked.ran (h : Talked credentials dialect t parser log result) :
    let ran := Trace.statements (log.map Exchange.action)
    ran <+: statements t ∧ (ran ≠ [] → validate dialect t parser = .ok ()) ∧
      (result = .ok () → ran = statements t) := by
  cases h with
  | invalid _ => exact ⟨List.nil_prefix, fun h => absurd rfl h, nofun⟩
  | refused _ => exact ⟨List.nil_prefix, fun h => absurd rfl h, nofun⟩
  | @visited conn said _ answer logged hvalid hsaid =>
    dsimp only
    rw [statements_session]
    obtain ⟨hpart, hall⟩ := runStatements_runs conn t.table (statements t) result _
      (Program.ends_iff_talks.2 ⟨said, hsaid, rfl⟩)
    exact ⟨hpart, fun _ => hvalid, hall ()⟩

end Precheck

namespace ReaderSettings

variable {s : ReaderSettings} {column : String} {urls : List String} {parser : Sql.Parser}

/-- The statements that are checked of a table that is split by a column. -/
def checked (s : ReaderSettings) (column table : String) : List String :=
  [Sql.select s.columnList table s.predicate, Sql.minMax table column s.predicate]

/-- The check of a table runs its statements from the first one on, and it runs none unless the
parser accepts them all. -/
def ChecksTable (s : ReaderSettings) (parser : Sql.Parser) (column table : String)
    (ran : List String) : Prop :=
  ran <+: s.checked column table ∧
    (ran ≠ [] → ∀ sql ∈ s.checked column table, Sql.validate s.dialect table sql parser = .ok ())

theorem statements_of_mem_targets (htables : s.isTableMode = true)
    (hcolumn : s.splitColumn = some column) {t : PrecheckTarget} (h : t ∈ s.targets urls) :
    Precheck.statements t = s.checked column t.table := by
  obtain ⟨c, hc, ht⟩ := List.mem_flatMap.1 h
  obtain ⟨names, hnames⟩ := exists_tables_of_isTableMode htables (List.of_mem_zip hc).1
  rw [hnames, precheckTargets, hcolumn] at ht
  obtain ⟨table, -, rfl⟩ := List.mem_map.1 ht
  rfl

theorem map_table_targets (htables : s.isTableMode = true)
    (hlength : s.connections.length ≤ urls.length) :
    (s.targets urls).map PrecheckTarget.table = s.tables := by
  rw [targets, tables, List.map_flatMap, ← flatMap_zip_fst hlength]
  refine List.flatMap_congr fun c hc => ?_
  obtain ⟨names, hnames⟩ := exists_tables_of_isTableMode htables (List.of_mem_zip hc).1
  simp [hnames, precheckTargets, Source.tableNames, Function.comp_def]

/-- What is run in the check of a target is what is run of its table. -/
theorem checksTable_of_talked (htables : s.isTableMode = true)
    (hcolumn : s.splitColumn = some column) {t : PrecheckTarget} (h : t ∈ s.targets urls)
    {log : List Exchange} {result : Except PrecheckError Unit}
    (htalked : Precheck.Talked s.credentials s.dialect t parser log result) :
    let ran := Trace.statements (log.map Exchange.action)
    s.ChecksTable parser column t.table ran ∧
      (result = .ok () → ran = s.checked column t.table) := by
  obtain ⟨hpart, hvalid, hall⟩ := htalked.ran
  rw [Precheck.validate_eq_ok] at hvalid
  rw [statements_of_mem_targets htables hcolumn h] at hpart hvalid hall
  exact ⟨⟨hpart, hvalid⟩, hall⟩

/-- The checks of all targets are the checks of all tables. -/
theorem checksTables_of_talked (htables : s.isTableMode = true)
    (hcolumn : s.splitColumn = some column) (hlength : s.connections.length ≤ urls.length)
    {parts : Program.Parts (Except PrecheckError Unit)}
    (hparts : List.Forall₂ (fun t part =>
      Precheck.Talked s.credentials s.dialect t parser part.1 part.2) (s.targets urls) parts) :
    let visits := parts.map fun part => Trace.statements (part.1.map Exchange.action)
    List.Forall₂ (s.ChecksTable parser column) s.tables visits ∧
      ((∀ part ∈ parts, part.2 = .ok ()) → visits = s.tables.map (s.checked column)) := by
  have hvisits := ((List.forall₂_and_left _ _).2 ⟨fun _ => id, hparts⟩).imp
    fun target part ⟨hmem, htalked⟩ => checksTable_of_talked htables hcolumn hmem htalked
  rw [← map_table_targets htables hlength]
  refine ⟨?_, fun hresults => ?_⟩
  · rw [List.forall₂_map_left_iff, List.forall₂_map_right_iff]
    exact hvisits.imp fun _ _ h => h.1
  · have hall := (forall₂_and_right hvisits hresults).imp fun _ _ h => h.1.2 h.2
    rw [← List.forall₂_eq_eq_eq, List.map_map, List.forall₂_map_left_iff,
      List.forall₂_map_right_iff]
    exact hall.flip

end ReaderSettings

namespace Planner

variable {p : Planner} {s : ReaderSettings} {column : String} {threads : Nat} {schedule : List Nat}
  {parser : Sql.Parser} {result : Except Error Unit} {t : Trace}

/-- Checking runs the statements of each table, in whichever turns, and no other ones. -/
theorem ends_precheck_tables (htables : s.isTableMode = true)
    (hcolumn : s.splitColumn = some column)
    (h : (p.precheck s threads schedule parser).Ends result t) :
    ∃ visits, List.Forall₂ (s.ChecksTable parser column) s.tables visits ∧
      Interleaves visits t.statements ∧
      (result = .ok () → visits = s.tables.map (s.checked column)) := by
  have hresolve : (p.resolveUrls s).Runs [] := resolveUrls_keeps.runs_nil
  rcases Attempt.ends_bind_iff.1 h with ⟨urls, u, v, hurls, hchecks, rfl⟩ | ⟨e, rfl, hurls⟩
  · obtain ⟨r, rfl, hends⟩ := Attempt.ends_adapt_iff.1 hchecks
    obtain ⟨log, hlog, rfl⟩ := Program.ends_iff_talks.1 hends
    obtain ⟨parts, hparts, rfl, hturns⟩ := Precheck.talks_checkAll hlog
    have hlength := ((p.resolveUrls_meets s).given hurls).length_eq
    obtain ⟨hvisits, hall⟩ :=
      ReaderSettings.checksTables_of_talked htables hcolumn hlength.le hparts
    refine ⟨_, hvisits, ?_, fun hok => hall ?_⟩
    · have hran := (hturns.map Exchange.action).filterMap Action.statement?
      rw [List.map_map, List.map_map] at hran
      rw [Trace.statements_append, (hresolve _ u hurls).2 urls rfl]
      exact hran
    · exact List.forall_mem_map.1 (forM_eq_ok.1 (mapError_eq_ok.1 hok))
  · -- without a URL for each connection nothing is checked
    have hnone : t.statements = [] := List.prefix_nil.1 (hresolve _ t hurls).1
    refine ⟨s.tables.map fun _ => [], ?_, ?_, nofun⟩
    · rw [List.forall₂_map_right_iff, List.forall₂_same]
      exact fun table _ => ⟨List.nil_prefix, fun h => absurd rfl h⟩
    · rw [hnone]
      exact .done fun l hl => (List.mem_map.1 hl).elim fun _ h => h.2.symm

/-- **Checked and planned probes.** Of every table that is split by a column into two pieces or
more, the check runs the query for the least and the greatest key, once the parser has accepted it.
Planning runs one probe for each table. It is the same statement exactly if tables are not planned
by samples. -/
theorem checked_and_planned_probes (p : Planner) {doc : Json} {s : ReaderSettings}
    (hs : ReaderSettings.ofDocument doc = .ok s) (htables : s.isTableMode = true) {column : String}
    (hcolumn : s.splitColumn = some column) (hcount : 2 ≤ s.splitCount) {σ : Type}
    (server : Server σ) (state : σ) (next : Handle) (threads : Nat) (schedule : List Nat)
    (parser : Sql.Parser) :
    let planned := (p.plan s).run.run server state next
    let checked := (p.precheck s threads schedule parser).run.run server state next
    (∃ probes, List.Forall₂ (fun table sql => s.plannedProbe? column table = some sql) s.tables
        probes ∧
      planned.trace.statements <+: probes ∧
      ∀ tasks, planned.result = .ok tasks → planned.trace.statements = probes) ∧
    (∃ visits, List.Forall₂ (s.ChecksTable parser column) s.tables visits ∧
      Interleaves visits checked.trace.statements ∧
      (checked.result = .ok () → visits = s.tables.map (s.checked column))) ∧
    ∀ table, s.plannedProbe? column table = some (Sql.minMax table column s.predicate) ↔
      ¬(s.splitMode = .sample ∨ s.splitMode = .auto ∧ s.dialect = .oracle) := by
  intro planned checked
  have haccepted := ReaderSettings.accepted_of_ofDocument hs
  obtain ⟨hpart, hall⟩ := plan_runs hcolumn hcount _ _
    (Program.ends_run server (p.plan s).run state next)
  refine ⟨⟨_, forall₂_filterMap fun _ _ => Splitter.exists_probe haccepted.sampling, hpart, hall⟩,
    ends_precheck_tables htables hcolumn (Program.ends_run server _ state next), fun table => ?_⟩
  have hiff : s.plannedProbe? column table = some (Sql.minMax table column
      (SplitRequest.of table column s.predicate s.splitCount).predicate) ↔ ¬s.splitter.Samples :=
    Splitter.probe?_eq_minMax_iff haccepted.sampling
  rwa [haccepted.predicate_of] at hiff

/-- Two tables that are planned by the least and the greatest key. What is planned has been
checked. -/
theorem checked_and_planned_probes_minMax :
    let doc : Json := .ofMembers
      [("dialect", .string "mysql"), ("column", .array [.string "*"]), ("splitPk", .string "id"),
        ("where", .string " age > 3 "), ("eachTableSplitSize", .int 2),
        ("connection", .array [.ofMembers [("jdbcUrl", .array [.string "db"]),
          ("table", .array [.string "people", .string "places"])]])]
    let s : ReaderSettings :=
      ⟨"", "", ["*"], some "age > 3", some "id", 1, ReaderSettings.defaultPercentage, 1024, some 2,
        .auto, .mySql, [⟨["db"], .tables ["people", "places"]⟩]⟩
    let columns : List Column := [⟨"min", .bigInt, "BIGINT", 0⟩, ⟨"max", .bigInt, "BIGINT", 0⟩]
    let server : Server Unit :=
      ⟨fun _ _ _ => (.ok (), ()),
        fun _ _ _ _ => (.ok ⟨columns, [[.integer 0, .integer 10]], none⟩, ()),
        fun _ _ => (.ok (), ())⟩
    let planned := (plan {} s).run.run server () 0
    let checked := (precheck {} s 2 [0, 1, 1, 0] fun _ _ => some 1).run.run server () 0
    let probes := ["SELECT MIN(id),MAX(id) FROM people WHERE (age > 3) AND id IS NOT NULL",
      "SELECT MIN(id),MAX(id) FROM places WHERE (age > 3) AND id IS NOT NULL"]
    ReaderSettings.ofDocument doc = .ok s ∧ s.isTableMode = true ∧ s.splitColumn = some "id" ∧
      2 ≤ s.splitCount ∧ planned.result.isOk = true ∧ checked.result = .ok () ∧
      planned.trace.statements = probes ∧
      Interleaves (s.tables.map (s.checked "id")) checked.trace.statements ∧
      ∀ table, s.plannedProbe? "id" table = some (Sql.minMax table "id" s.predicate) := by
  intro doc s columns server planned checked probes
  have hs : ReaderSettings.ofDocument doc = .ok s := rfl
  have hchecked : checked.result = .ok () := by decide +kernel
  obtain ⟨-, ⟨visits, -, hturns, hall⟩, hprobe⟩ :=
    checked_and_planned_probes {} hs rfl rfl (by decide) server () 0 2 [0, 1, 1, 0]
      fun _ _ => some 1
  rw [hall hchecked] at hturns
  exact ⟨hs, rfl, rfl, by decide, by decide +kernel, hchecked, by decide +kernel, hturns,
    fun table => (hprobe table).2 (by decide)⟩

/-- A table that is planned by a sample. The check has run another probe. -/
theorem checked_probe_not_planned :
    let doc : Json := .ofMembers
      [("dialect", .string "mysql"), ("column", .array [.string "*"]), ("splitPk", .string "name"),
        ("splitMode", .string "sample"),
        ("connection", .array [.ofMembers [("jdbcUrl", .array [.string "db"]),
          ("table", .array [.string "people"])]])]
    let s : ReaderSettings :=
      ⟨"", "", ["*"], none, some "name", 1, ReaderSettings.defaultPercentage, 1024, none, .sample,
        .mySql, [⟨["db"], .tables ["people"]⟩]⟩
    let server : Server Unit :=
      ⟨fun _ _ _ => (.ok (), ()),
        fun _ _ _ _ =>
          (.ok ⟨[⟨"name", .varChar, "VARCHAR", 0⟩], [[.text "Ada"], [.text "Max"]], none⟩, ()),
        fun _ _ => (.ok (), ())⟩
    let planned := (plan {} s).run.run server () 0
    let checked := (precheck {} s 1 [] fun _ _ => some 1).run.run server () 0
    ReaderSettings.ofDocument doc = .ok s ∧ s.isTableMode = true ∧ s.splitColumn = some "name" ∧
      2 ≤ s.splitCount ∧ planned.result.isOk = true ∧ checked.result = .ok () ∧
      checked.trace.statements =
        ["select * from people", "SELECT MIN(name),MAX(name) FROM people"] ∧
      planned.trace.statements = ["SELECT name FROM (SELECT name FROM people " ++
        "WHERE (name IS NOT NULL) ORDER BY RAND() LIMIT 4) AS sampled ORDER BY name ASC"] ∧
      ∀ sql ∈ planned.trace.statements, sql ∉ checked.trace.statements := by
  intro doc s server planned checked
  have hchecked : checked.trace.statements =
      ["select * from people", "SELECT MIN(name),MAX(name) FROM people"] := by decide +kernel
  have hplanned : planned.trace.statements =
      ["SELECT name FROM (SELECT name FROM people " ++
        "WHERE (name IS NOT NULL) ORDER BY RAND() LIMIT 4) AS sampled ORDER BY name ASC"] := by
    decide +kernel
  refine ⟨rfl, rfl, rfl, by decide, by decide +kernel, by decide +kernel, hchecked, hplanned, ?_⟩
  rw [hchecked, hplanned]
  decide

end Planner

end TableExchange
