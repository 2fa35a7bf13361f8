import TableExchange.Proofs.Database.Sessions
import TableExchange.Proofs.Job.Tables
import TableExchange.Proofs.Job.Visits

/-!
# Connections of a job

Every connection that a job makes is closed again, whatever the database answers and wherever a step
fails. Planning has one connection at a time: the choice of a URL closes the connection that shows
it, and a table is planned over a connection of its own. The checks of several targets have
connections at the same time, but each its own.

* `KeyCatalog.KeepsConnection`: a catalog of keys uses the connection that it is given, no other.
* `Splitter.plan_keeps`: so do the probes and the planning of a table.
* `Planner.plan_leads`: planning a job has at most one connection at a time.
* `Precheck.Visit`: what a check does with its connection.
* `Planner.balanced_connections`: all of it, for a run.
-/

namespace TableExchange

/-! ## Tables -/

theorem runQuery_keeps (conn : Handle) (table sql : String) (fetchSize : Int) :
    (runQuery conn table sql fetchSize).Keeps True (some conn) := by
  refine (Attempt.keeps_lift Program.leads_execute).bind fun answer => ?_
  cases answer with
  | error e => exact Attempt.keeps_throw _
  | ok answer =>
    dsimp only
    cases answer.all with
    | ok rows => exact Attempt.keeps_pure _
    | error e => exact Attempt.keeps_throw _

namespace KeyCatalog

/-- A catalog of keys asks over the connection that it is given. It makes none, and leaves this one
open. -/
def KeepsConnection (catalog : KeyCatalog) : Prop :=
  ∀ conn dialect table, (catalog.primaryKey conn dialect table).Keeps True (some conn)

theorem system_keepsConnection : system.KeepsConnection := by
  intro conn dialect table
  unfold system
  dsimp only
  cases Sql.primaryKey dialect table with
  | none => exact Attempt.keeps_pure _
  | some sql =>
    exact ((runQuery_keeps conn table sql _).adapt _).bind fun _ => Attempt.keeps_pure _

theorem fixed_keepsConnection (columns : List String) : (fixed columns).KeepsConnection :=
  fun _ _ _ => Attempt.keeps_pure _

theorem failing_keepsConnection (fault : ArgumentFault) : (failing fault).KeepsConnection :=
  fun _ _ _ => Attempt.keeps_throw _

end KeyCatalog

namespace Probe

variable {dialect : Dialect} {conn : Handle} {table : String}

theorem run_keeps (kind : ProbeKind) (sql : String) :
    (run dialect conn table kind sql).Keeps True (some conn) :=
  (Attempt.keeps_emit _).bind fun _ =>
    ((runQuery_keeps conn table sql _).adapt _).bind fun _ =>
      (Attempt.keeps_emit _).bind fun _ => Attempt.keeps_pure _

theorem splitColumn_keeps {catalog : KeyCatalog} (hcatalog : catalog.KeepsConnection) :
    (splitColumn dialect catalog conn table).Keeps True (some conn) := by
  refine (hcatalog conn dialect table).bind fun keys => ?_
  split
  · exact Attempt.keeps_pure _
  · exact (run_keeps _ _).bind fun _ => Attempt.keeps_pure _

theorem minMax_keeps (t : ProbeTarget) : (minMax dialect conn t).Keeps True (some conn) :=
  (run_keeps _ _).bind fun _ => Attempt.keeps_of_except _

theorem samples_keeps (t : ProbeTarget) (percentage : Binary64) (limit : Nat) :
    (samples dialect conn t percentage limit).Keeps True (some conn) := by
  unfold samples
  split
  · exact Attempt.keeps_throw _
  · exact (run_keeps _ _).bind fun _ => (Attempt.keeps_of_except _).bind fun _ =>
      (Attempt.keeps_lift (Program.leads_noting (Program.leads_done _ _))).bind fun _ =>
        Attempt.keeps_pure _

end Probe

namespace Splitter

variable {s : Splitter} {conn : Handle} {request : SplitRequest}

theorem gather_keeps : (s.gather conn request).Keeps True (some conn) := by
  refine (Attempt.keeps_of_except _).bind fun statistics => ?_
  cases statistics with
  | minMax => exact Probe.minMax_keeps _
  | sampled => exact Probe.samples_keeps _ _ _

/-- Known statistics come to a plan without a question to the database. -/
theorem planFromStats_keeps {work : Prop} {o : Option Handle} (stats : KeyStats)
    (predicate : Option String) {count : Nat} (hcount : 2 ≤ count) :
    (s.planFromStats stats predicate count).Keeps work o := by
  unfold Attempt.Keeps
  cases hreason : fallbackReason? stats with
  | some reason =>
    rw [planFromStats_fallback hcount hreason]
    exact Program.leads_noting (Program.leads_done o _)
  | none =>
    cases hpoints : (Strategy.select stats.statistics stats.kind).boundaries stats count with
    | error fault =>
      rw [planFromStats_illegalKey hcount hreason hpoints]
      exact Program.leads_done o _
    | ok points =>
      rw [planFromStats_ranges hcount hreason hpoints]
      exact Program.leads_noting (Program.leads_done o _)

theorem plan_keeps : (s.plan conn request).Keeps True (some conn) := by
  by_cases hcount : 2 ≤ request.count
  · rw [plan_eq_gather hcount]
    exact gather_keeps.bind fun stats => planFromStats_keeps stats _ hcount
  · -- too few pieces to ask for statistics
    by_cases hzero : request.count = 0
    · rw [plan, if_pos hzero]
      exact Attempt.keeps_throw _
    · rw [plan, if_neg hzero, if_pos (by omega)]
      exact Attempt.keeps_pure _

end Splitter

/-! ## URLs -/

theorem tryRound_leads {work : Prop} (credentials : Credentials) (attempt : Nat)
    (candidates : List String) (last : String) :
    Program.Leads work none (tryRound credentials attempt candidates last) none := by
  induction candidates generalizing last with
  | nil => exact Program.leads_done none _
  | cons url rest ih =>
    refine Program.leads_asking (fun conn => ?_) fun e => ?_
    · exact Program.leads_closeQuietly.bind fun _ => Program.leads_done none _
    · exact Program.leads_noting (ih e.message)

theorem tryRounds_leads {work : Prop} (credentials : Credentials) (candidates : List String)
    (rounds attempt : Nat) (last : String) :
    Program.Leads work none (tryRounds credentials candidates rounds attempt last) none := by
  induction rounds generalizing attempt last with
  | zero => exact Program.leads_done none _
  | succ rounds ih =>
    refine (tryRound_leads credentials attempt candidates last).bind fun r => ?_
    cases r with
    | ok url => exact Program.leads_done none _
    | error last => exact ih (attempt + 1) last

/-- A URL is chosen without any use of the connection that shows it. -/
theorem chooseUrl_keeps {work : Prop} (candidates : List String) (credentials : Credentials)
    (policy : RetryPolicy) : (chooseUrl candidates credentials policy).Keeps work none := by
  unfold chooseUrl
  split
  · exact Attempt.keeps_throw _
  refine (Attempt.keeps_lift (tryRounds_leads credentials candidates policy.rounds 1 _)).bind
    fun r => ?_
  cases r with
  | ok url => exact Attempt.keeps_pure url
  | error last => exact Attempt.keeps_throw _

/-! ## Jobs -/

namespace Planner

variable {p : Planner} {s : ReaderSettings} {url table : String} {conn : Handle}

theorem resolveUrls_keeps {work : Prop} : (p.resolveUrls s).Keeps work none :=
  Attempt.Keeps.mapM fun c => (chooseUrl_keeps c.urls s.credentials p.retry).adapt _

theorem findColumn_keeps (hcatalog : p.catalog.KeepsConnection) :
    (p.findColumn s table conn).Keeps True (some conn) := by
  unfold findColumn
  cases s.splitColumn with
  | some column => exact Attempt.keeps_pure _
  | none => exact (Probe.splitColumn_keeps hcatalog).adapt _

theorem planBy_keeps (found : Option String) :
    (planBy s url table conn found).Keeps True (some conn) := by
  cases found with
  | none => exact (Attempt.keeps_emit _).bind fun _ => Attempt.keeps_pure _
  | some column => exact (Splitter.plan_keeps.adapt _).bind fun _ => Attempt.keeps_pure _

theorem planOver_keeps (hcatalog : p.catalog.KeepsConnection) :
    (p.planOver s url table conn).Keeps True (some conn) := by
  rw [planOver_eq_findColumn]
  exact (findColumn_keeps hcatalog).bind planBy_keeps

/-- A table is planned over a connection that is made for it and closed behind it. -/
theorem planTable_keeps (hcatalog : p.catalog.KeepsConnection) :
    (p.planTable s url table).Keeps True none := by
  unfold planTable
  split
  · exact Attempt.keeps_pure _
  · refine Program.leads_asking (fun conn => ?_) fun e => ?_
    · exact Program.leads_withConnection (planOver_keeps hcatalog)
    · exact Program.leads_done none _

theorem planSource_keeps (hcatalog : p.catalog.KeepsConnection) (source : Source) :
    (p.planSource s url source).Keeps True none := by
  cases source with
  | queries texts => exact Attempt.keeps_pure _
  | tables names =>
    exact (Attempt.Keeps.mapM fun _ => planTable_keeps hcatalog).bind fun _ => Attempt.keeps_pure _

theorem plan_keeps (hcatalog : p.catalog.KeepsConnection) : (p.plan s).Keeps True none :=
  resolveUrls_keeps.bind fun _ =>
    Attempt.Keeps.bind (Attempt.Keeps.mapM fun _ => planSource_keeps hcatalog _) fun _ =>
      Attempt.keeps_pure _

end Planner

/-! ## Checks -/

namespace Precheck

variable {credentials : Credentials} {dialect : Dialect} {parser : Sql.Parser} {t : PrecheckTarget}
  {conn : Handle} {table : String} {log : List Exchange} {result : Except PrecheckError Unit}

/-- What the check of a target does with the database: nothing, or it is refused a connection, or
it has a session in which it runs statements of the target, from the first one on. -/
inductive Visit (credentials : Credentials) (dialect : Dialect) (t : PrecheckTarget) : Trace → Prop
  | absent : Visit credentials dialect t []
  | refused (e : DriverError) : Visit credentials dialect t [.refused t.url credentials e]
  | session (conn : Handle) {ran : List String} (logged : List LogEntry)
      (h : ran <+: statements t) :
      Visit credentials dialect t (session credentials dialect t conn ran logged)

theorem talks_runStatements {sqls : List String}
    (h : (runStatements dialect conn table sqls).run.Talks log result) :
    ∃ ran, ran <+: sqls ∧ log.map Exchange.action = ran.flatMap (announced dialect conn table) := by
  induction sqls generalizing log with
  | nil =>
    obtain ⟨rfl, -⟩ := Program.talks_done_iff.1 h
    exact ⟨[], List.nil_prefix, rfl⟩
  | cons sql rest ih =>
    rw [runStatements_cons] at h
    obtain _ | ⟨_ | _ | _ | _, h⟩ := h
    obtain _ | ⟨_ | answer, h⟩ := h
    cases answer with
    | error e =>
      obtain ⟨rfl, -⟩ := Program.talks_done_iff.1 h
      exact ⟨[sql], List.prefix_append [sql] rest, rfl⟩
    | ok answer =>
      obtain ⟨ran, hran, hlog⟩ := ih h
      refine ⟨sql :: ran, List.cons_prefix_cons.2 ⟨rfl, hran⟩, ?_⟩
      rw [List.flatMap_cons, ← hlog]
      rfl

theorem Talked.visit (h : Talked credentials dialect t parser log result) :
    Visit credentials dialect t (log.map Exchange.action) := by
  cases h with
  | invalid _ => exact .absent
  | refused _ => exact .refused _
  | @visited conn _ _ answer logged _ hsaid =>
    obtain ⟨ran, hran, haction⟩ := talks_runStatements hsaid
    rw [map_action_exchanges answer logged haction]
    exact .session conn logged hran

theorem leads_announced {o : Option Handle} {rest : Trace} (ran : List String)
    (h : Trace.Leads True (some conn) rest o) :
    Trace.Leads True (some conn) (ran.flatMap (announced dialect conn table) ++ rest) o := by
  induction ran with
  | nil => exact h
  | cons sql ran ih => exact .noted (.executed trivial ih)

theorem leads_logged (logged : List LogEntry) :
    Trace.Leads True none (logged.map fun entry => .noted (.log entry)) none := by
  induction logged with
  | nil => exact .nil none
  | cons entry logged ih => exact .noted ih

theorem Visit.leads {trace : Trace} (h : Visit credentials dialect t trace) :
    Trace.Leads True none trace none := by
  cases h with
  | absent => exact .nil none
  | refused e => exact .refused (.nil none)
  | session conn logged _ => exact .connected (leads_announced _ (.closed (leads_logged logged)))

end Precheck

namespace ReaderSettings

/-- What is checked of a job whose connections have the given URLs. -/
def targets (s : ReaderSettings) (urls : List String) : List PrecheckTarget :=
  (s.connections.zip urls).flatMap fun c => s.precheckTargets c.2 c.1.source

/-- Statements are run by the checks of targets only, and each check has a connection of its own, if
it has one. If no URL can be chosen, there are no checks. -/
structure ChecksApart (s : ReaderSettings) (t : Trace) (urls : List String)
    (choosing checking : Trace) (visits : List Trace) : Prop where
  parts : t = choosing ++ checking
  urls_of : urls = [] ∨ List.Forall₂ (fun c url => url ∈ c.urls) s.connections urls
  choosing_runs_nothing : ∀ conn sql fetchSize, .executed conn sql fetchSize ∉ choosing
  visit : List.Forall₂ (Precheck.Visit s.credentials s.dialect) (s.targets urls) visits
  turns : Interleaves visits checking
  apart : (visits.map Trace.connections).Pairwise List.Disjoint

end ReaderSettings

namespace Planner

variable {p : Planner} {s : ReaderSettings}

/-- The checks of a job take turns, after a URL has been chosen for each connection. -/
theorem ends_precheck {threads : Nat} {schedule : List Nat} {parser : Sql.Parser}
    {result : Except Error Unit} {t : Trace}
    (h : (p.precheck s threads schedule parser).Ends result t) (hnodup : t.connections.Nodup) :
    ∃ urls choosing checking visits, s.ChecksApart t urls choosing checking visits ∧
      ∀ work, Trace.Leads work none choosing none := by
  rcases Attempt.ends_bind_iff.1 h with ⟨urls, choosing, _, hurls, hchecks, rfl⟩ | ⟨e, -, hurls⟩
  · obtain ⟨r, -, hchecks⟩ := Attempt.ends_adapt_iff.1 hchecks
    obtain ⟨log, hlog, rfl⟩ := Program.ends_iff_talks.1 hchecks
    obtain ⟨parts, hparts, -, hlog⟩ := Precheck.talks_checkAll hlog
    have hturns := hlog.map Exchange.action
    have hleads (work : Prop) : Trace.Leads work none choosing none := resolveUrls_keeps _ _ hurls
    rw [Trace.connections_append] at hnodup
    have hflat := (hturns.filterMap Action.made?).perm_flatten.nodup_iff.1 hnodup.of_append_right
    refine ⟨urls, choosing, _, _, ⟨rfl, .inr ((p.resolveUrls_meets s).given hurls),
      fun _ => (hleads False).not_executed, ?_, hturns, (List.nodup_flatten.1 hflat).2⟩, hleads⟩
    rw [List.map_map, List.forall₂_map_right_iff]
    exact hparts.imp fun _ _ => Precheck.Talked.visit
  · have hleads (work : Prop) : Trace.Leads work none t none := resolveUrls_keeps _ _ hurls
    exact ⟨[], t, [], [], ⟨(List.append_nil t).symm, .inl rfl, fun _ => (hleads False).not_executed,
      by simp [ReaderSettings.targets], .nil, .nil⟩, hleads⟩

/-- **Connections are balanced.** Whatever the database answers, planning a job makes, uses and
closes one connection after the other. Checking its statements does so with several connections at
the same time, each of which belongs to one target. -/
theorem balanced_connections (hcatalog : p.catalog.KeepsConnection) {σ : Type} (server : Server σ)
    (state : σ) (next : Handle) (threads : Nat) (schedule : List Nat) (parser : Sql.Parser) :
    let planned := ((p.plan s).run.run server state next).trace
    let checked := ((p.precheck s threads schedule parser).run.run server state next).trace
    planned.Balanced ∧ planned.OneAtATime ∧ checked.Balanced ∧
      ∃ urls choosing checking visits, s.ChecksApart checked urls choosing checking visits := by
  intro planned checked
  have hplanned : Trace.Leads True none planned none :=
    plan_keeps hcatalog _ _ (Program.ends_run server (p.plan s).run state next)
  have hchecked : (p.precheck s threads schedule parser).Ends _ checked :=
    Program.ends_run server _ state next
  have hnodup : checked.connections.Nodup := Program.nodup_connections_run server _ state next
  obtain ⟨urls, choosing, checking, visits, hparts, hchoosing⟩ := ends_precheck hchecked hnodup
  refine ⟨Trace.balanced_of_leads hplanned (Program.nodup_connections_run server _ state next),
    Trace.oneAtATime_of_leads hplanned, ?_, urls, choosing, checking, visits, hparts⟩
  have hturns : Interleaves (choosing :: visits) checked :=
    hparts.parts ▸ hparts.turns.cons_append choosing
  refine Trace.balanced_of_interleaves hturns (List.forall_mem_cons.2 ⟨hchoosing True, ?_⟩) hnodup
  exact forall_mem_of_forall₂ (hparts.visit.imp fun _ _ => Precheck.Visit.leads)

/-- Two tables without a key. Both have a connection at the same time while they are checked. -/
theorem balanced_connections_twoTables :
    let s : ReaderSettings :=
      ⟨"", "", ["*"], none, none, 3, ReaderSettings.defaultPercentage, 1024, none, .auto,
        .oracle, [⟨["db"], .tables ["people", "places"]⟩]⟩
    let server : Server Unit :=
      ⟨fun _ _ _ => (.ok (), ()), fun _ _ _ _ => (.ok ⟨[], [], none⟩, ()), fun _ _ => (.ok (), ())⟩
    let p : Planner := {}
    let planned := ((p.plan s).run.run server () 0).trace
    let checked := ((p.precheck s 2 [0, 1, 0, 1] fun _ _ => some 1).run.run server () 0).trace
    p.catalog.KeepsConnection ∧
      planned.connections = [0, 1, 2] ∧ checked.connections = [0, 1, 2] ∧
      Trace.IsOpen (checked.take 4) 1 ∧ Trace.IsOpen (checked.take 4) 2 ∧
      planned.Balanced ∧ planned.OneAtATime ∧ checked.Balanced ∧
      ∃ urls choosing checking visits, s.ChecksApart checked urls choosing checking visits := by
  intro s server p planned checked
  have hplanned : planned.connections = [0, 1, 2] := by decide +kernel
  have hchecked : checked.connections = [0, 1, 2] := by decide +kernel
  have hopen : checked.take 4 = [.connected 0 "db" s.credentials, .closed 0,
      .connected 1 "db" s.credentials, .connected 2 "db" s.credentials] := by decide +kernel
  refine ⟨KeyCatalog.system_keepsConnection, hplanned, hchecked, ?_, ?_,
    balanced_connections KeyCatalog.system_keepsConnection server () 0 2 [0, 1, 0, 1] _⟩
  · rw [hopen]
    exact ⟨by decide, by decide⟩
  · rw [hopen]
    exact ⟨by decide, by decide⟩

end Planner

end TableExchange
