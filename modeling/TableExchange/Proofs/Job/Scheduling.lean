import Mathlib.Data.List.Perm.Basic
import TableExchange.Event
import TableExchange.Proofs.Job.Visits
import TableExchange.Proofs.Results

/-!
# The order of checks

Workers check their targets in turns, so many at a time at most. If the database answers the same
question always alike, neither the number of workers nor the order of their steps makes a
difference: every target is checked as if it were the only one, and the first failure in the order
of the targets counts.

* `Replies.outcome`, `Replies.ran`, `Replies.told`: what the check of one target comes to.
* `Replies.Checks`, `Replies.Checks.eq_nil`: what it does with the database.
* `Counters.addAll_perm`: events are counted in any order.
* `Precheck.checkAll_in_any_order`: all targets.
-/

namespace TableExchange

/-! ## Counting -/

namespace Counters

instance : RightCommutative add where
  right_comm c e e' := by
    cases e <;> cases e' <;> simp [add, Nat.add_right_comm]

theorem addAll_perm (c : Counters) {events events' : List Event} (h : events.Perm events') :
    c.addAll events = c.addAll events' :=
  h.foldl_eq c

end Counters

/-! ## One target -/

namespace Replies

variable {r : Replies} {credentials : Credentials} {dialect : Dialect} {parser : Sql.Parser}
  {t : PrecheckTarget} {conn : Handle} {log : List Exchange} {result : Except PrecheckError Unit}

/-- What a statement of a target comes to. -/
def statement (r : Replies) (dialect : Dialect) (t : PrecheckTarget) (sql : String) :
    Except PrecheckError Unit :=
  match r.execute t.url sql dialect.features.probeFetchSize with
  | .ok _ => .ok ()
  | .error e => .error (.query ⟨t.table, sql, .driver e⟩)

/-- What the check of a target comes to: its query has to parse, and its probe, if it has one; a
connection has to be made; and the database may refuse neither of them. -/
def outcome (r : Replies) (credentials : Credentials) (dialect : Dialect) (parser : Sql.Parser)
    (t : PrecheckTarget) : Except PrecheckError Unit := do
  Precheck.parsed dialect parser t t.query
  t.probe.toList.forM (Precheck.parsed dialect parser t)
  (r.connect t.url credentials).mapError (.connect t.table)
  r.statement dialect t t.query
  t.probe.toList.forM (r.statement dialect t)

theorem outcome_eq : r.outcome credentials dialect parser t = (do
    Precheck.validate dialect t parser
    (r.connect t.url credentials).mapError (.connect t.table)
    (Precheck.statements t).forM (r.statement dialect t)) := by
  rw [outcome, Precheck.validate_eq, bind_assoc]
  rfl

/-- The statements that are run over the connection of a target: the query, and the probe if the
query has not failed. -/
def ran (r : Replies) (dialect : Dialect) (t : PrecheckTarget) : List String :=
  t.query :: match r.statement dialect t t.query with
    | .ok _ => t.probe.toList
    | .error _ => []

/-- The events of a target: one for each statement that is run. -/
def told (r : Replies) (credentials : Credentials) (dialect : Dialect) (parser : Sql.Parser)
    (t : PrecheckTarget) : List Event :=
  match t.isValid dialect parser, r.connect t.url credentials with
  | true, .ok _ => (r.ran dialect t).map fun sql => .probeStarted t.table .precheck sql
  | _, _ => []

/-- What the check of a target does with the database: nothing at all if its query or its probe does
not parse. -/
inductive Checks (r : Replies) (credentials : Credentials) (dialect : Dialect) (parser : Sql.Parser)
    (t : PrecheckTarget) : Trace → Prop
  | invalid (h : t.isValid dialect parser = false) : Checks r credentials dialect parser t []
  | refused {e : DriverError} (h : t.isValid dialect parser = true)
      (hconnect : r.connect t.url credentials = .error e) :
      Checks r credentials dialect parser t [.refused t.url credentials e]
  | session (conn : Handle) (logged : List LogEntry) (h : t.isValid dialect parser = true)
      (hconnect : r.connect t.url credentials = .ok ()) :
      Checks r credentials dialect parser t
        (Precheck.session credentials dialect t conn (r.ran dialect t) logged)

/-- The first of some statements, up to the one that fails. -/
def reached (r : Replies) (dialect : Dialect) (t : PrecheckTarget) : List String → List String
  | [] => []
  | sql :: rest => sql :: match r.statement dialect t sql with
    | .ok _ => reached r dialect t rest
    | .error _ => []

theorem reached_statements : r.reached dialect t (Precheck.statements t) = r.ran dialect t := by
  -- a single statement is always run
  have hprobe : r.reached dialect t t.probe.toList = t.probe.toList := by
    cases t.probe with
    | none => rfl
    | some probe =>
      rw [Option.toList_some, reached]
      cases r.statement dialect t probe <;> rfl
  rw [Precheck.statements, reached, hprobe, ran]

theorem talks_runStatements {sqls : List String}
    (h : (Precheck.runStatements dialect conn t.table sqls).run.Talks log result)
    (hanswers : ∀ sql fetchSize answer, .execute conn sql fetchSize answer ∈ log →
      answer = r.execute t.url sql fetchSize) :
    result = sqls.forM (r.statement dialect t) ∧
      log.map Exchange.action =
        (r.reached dialect t sqls).flatMap (Precheck.announced dialect conn t.table) := by
  induction sqls generalizing log with
  | nil =>
    obtain ⟨rfl, rfl⟩ := Program.talks_done_iff.1 h
    exact ⟨rfl, rfl⟩
  | cons sql rest ih =>
    rw [Precheck.runStatements_cons] at h
    obtain _ | ⟨_ | _ | _ | _, h⟩ := h
    obtain _ | ⟨_ | answer, h⟩ := h
    have hanswer : answer = r.execute t.url sql dialect.features.probeFetchSize :=
      hanswers sql _ answer (by simp)
    rw [List.forM_eq_forM, List.forM_cons, reached, statement, ← hanswer]
    cases answer with
    | error e =>
      obtain ⟨rfl, rfl⟩ := Program.talks_done_iff.1 h
      exact ⟨rfl, rfl⟩
    | ok answer =>
      obtain ⟨hresult, hlog⟩ := ih h fun sql fetchSize answer hmem =>
        hanswers sql fetchSize answer (by simp [hmem])
      refine ⟨hresult, ?_⟩
      rw [List.flatMap_cons, ← hlog]
      rfl

/-- A check in which the answers are those of the replies. -/
theorem checks_of_talked (h : Precheck.Talked credentials dialect t parser log result)
    (hgave : r.Gave log) :
    result = r.outcome credentials dialect parser t ∧
      r.Checks credentials dialect parser t (log.map Exchange.action) := by
  cases h with
  | invalid h =>
    rw [outcome_eq, h]
    exact ⟨rfl, .invalid (Precheck.isValid_of_validate_eq_error h)⟩
  | refused h =>
    have hconnect := hgave.connects _ _ _ List.mem_cons_self
    rw [outcome_eq, h, ← hconnect]
    exact ⟨rfl, .refused (Precheck.validate_eq_ok_iff.1 h) hconnect.symm⟩
  | @visited conn _ _ answer logged h hsaid =>
    have hconnect := hgave.connects _ _ _ List.mem_cons_self
    have hanswers := (List.pairwise_cons.1 hgave.answers).1
    obtain ⟨hresult, haction⟩ := talks_runStatements hsaid fun sql fetchSize answer hmem =>
      hanswers _ (List.mem_append_left _ hmem) _ _ _ _ _ _ rfl rfl
    rw [reached_statements] at haction
    rw [Precheck.map_action_exchanges answer logged haction, outcome_eq, h, ← hconnect, hresult]
    exact ⟨rfl, .session conn logged (Precheck.validate_eq_ok_iff.1 h) hconnect.symm⟩

/-- The events of a check are those of its target. -/
theorem Checks.events {trace : Trace} (h : r.Checks credentials dialect parser t trace) :
    trace.events = r.told credentials dialect parser t := by
  cases h with
  | invalid h =>
    rw [told, h]
    rfl
  | refused h hconnect =>
    rw [told, h, hconnect]
    rfl
  | session conn logged h hconnect =>
    rw [told, h, hconnect]
    exact Precheck.events_session (r.ran dialect t) logged

/-- A target whose query or probe does not parse is nothing to the database. -/
theorem Checks.eq_nil {trace : Trace} (h : r.Checks credentials dialect parser t trace)
    (hinvalid : t.isValid dialect parser = false) : trace = [] := by
  cases h with
  | invalid => rfl
  | refused h => exact absurd (h.symm.trans hinvalid) Bool.noConfusion
  | session _ _ h => exact absurd (h.symm.trans hinvalid) Bool.noConfusion

theorem flatten_of_invalid {targets : List PrecheckTarget} {traces : List Trace}
    (h : List.Forall₂ (r.Checks credentials dialect parser) targets traces)
    (hinvalid : ∀ t ∈ targets, t.isValid dialect parser = false) : traces.flatten = [] := by
  induction h with
  | nil => rfl
  | cons hcheck _ ih =>
    obtain ⟨hhead, htail⟩ := List.forall_mem_cons.1 hinvalid
    rw [List.flatten_cons, hcheck.eq_nil hhead, ih htail, List.append_nil]

/-- Checks that take turns tell of the events of their targets, in some order. -/
theorem events_perm_of_checks {targets : List PrecheckTarget} {traces : List Trace} {trace : Trace}
    (h : List.Forall₂ (r.Checks credentials dialect parser) targets traces)
    (hturns : Interleaves traces trace) :
    trace.events.Perm (targets.flatMap (r.told credentials dialect parser)) := by
  have htold : targets.map (r.told credentials dialect parser) = traces.map Trace.events := by
    rw [← List.forall₂_eq_eq_eq, List.forall₂_map_left_iff, List.forall₂_map_right_iff]
    exact h.imp fun _ _ h => h.events.symm
  have hevents := (hturns.filterMap Trace.note?).filterMap Trace.event?
  rw [List.map_map] at hevents
  rw [List.flatMap_def, htold]
  exact hevents.perm_flatten

end Replies

/-! ## All targets -/

namespace Precheck

/-- **The order of checks makes no difference.** However many workers there are and in whichever
order they take their steps, all targets pass if each of them does, and otherwise the first one that
does not is what the checks fail with. Every target is checked, and the events come to the same
counts. -/
theorem checkAll_in_any_order (r : Replies) (credentials : Credentials) (dialect : Dialect)
    (targets : List PrecheckTarget) (threads : Nat) (schedule : List Nat) (parser : Sql.Parser)
    (urls : List String) :
    let o := (checkAll credentials dialect targets threads schedule parser).run.run r.server urls
      urls.length
    let outcome := r.outcome credentials dialect parser
    (o.result = .ok () ↔ ∀ t ∈ targets, outcome t = .ok ()) ∧
      (∀ e, o.result = .error e ↔ ∃ before t after, targets = before ++ t :: after ∧
        (∀ u ∈ before, outcome u = .ok ()) ∧ outcome t = .error e) ∧
      (∃ traces, List.Forall₂ (r.Checks credentials dialect parser) targets traces ∧
        Interleaves traces o.trace) ∧
      ∀ c : Counters, c.addAll o.trace.events =
        c.addAll (targets.flatMap (r.told credentials dialect parser)) := by
  intro o outcome
  obtain ⟨log, htalks, htrace, hgave, -⟩ :=
    r.talks_run (checkAll credentials dialect targets threads schedule parser).run urls
  obtain ⟨parts, hparts, hresult, hturns⟩ := talks_checkAll htalks
  have hgaves (part : List Exchange × Except PrecheckError Unit) (hpart : part ∈ parts) :
      r.Gave part.1 :=
    hgave.sublist (hturns.sublist (List.mem_map_of_mem hpart))
  have hchecks := (forall₂_and_right hparts hgaves).imp fun _ _ h =>
    Replies.checks_of_talked h.1 h.2
  have hresults : targets.map outcome = parts.map (·.2) := by
    rw [← List.forall₂_eq_eq_eq, List.forall₂_map_left_iff, List.forall₂_map_right_iff]
    exact hchecks.imp fun _ _ h => h.1.symm
  have hfirst : o.result = targets.forM outcome := by
    rw [hresult, ← hresults, List.forM_eq_forM, List.forM_map]
    rfl
  have htraces : List.Forall₂ (r.Checks credentials dialect parser) targets
      ((parts.map (·.1)).map (List.map Exchange.action)) := by
    rw [List.map_map, List.forall₂_map_right_iff]
    exact hchecks.imp fun _ _ h => h.2
  have hmade : Interleaves ((parts.map (·.1)).map (List.map Exchange.action)) o.trace :=
    htrace ▸ hturns.map Exchange.action
  refine ⟨?_, fun e => ?_, ⟨_, htraces, hmade⟩, fun c => ?_⟩
  · rw [hfirst, forM_eq_ok]
  · rw [hfirst, forM_eq_error]
  · exact c.addAll_perm (Replies.events_perm_of_checks htraces hmade)

/-- The database refuses the query of the second of four targets; the query of the third one does not
parse, though its probe does, and neither does the probe of the fourth one. Whether the first worker
comes first or last, the second target is what the checks fail with, and three statements are run.
The database hears nothing of the last two, which fail with the text that does not parse. -/
theorem checkAll_in_any_order_twoWays :
    let refused : DriverError := .query "no such table"
    let r : Replies :=
      ⟨fun _ _ => .ok (), fun _ sql _ => if sql = "q2" then .error refused else .ok ⟨[], [], none⟩,
        fun _ => .ok ()⟩
    let parser : Sql.Parser := fun _ sql =>
      if sql = "q3" then none else if sql = "p4" then some 0 else some 1
    let t₃ : PrecheckTarget := ⟨"t3", "db", "q3", some "p3"⟩
    let t₄ : PrecheckTarget := ⟨"t4", "db", "q4", some "p4"⟩
    let targets := [⟨"t1", "db", "q1", some "p1"⟩, ⟨"t2", "db", "q2", some "p2"⟩, t₃, t₄]
    let run (targets : List PrecheckTarget) (schedule : List Nat) :=
      (checkAll ⟨"", ""⟩ .generic targets 2 schedule parser).run.run r.server [] 0
    let e : PrecheckError := .query ⟨"t2", "q2", .driver refused⟩
    (run targets []).result = .error e ∧ (run targets [1, 1, 1, 1, 2]).result = .error e ∧
      Counters.addAll {} (run targets []).trace.events = { probes := 3 } ∧
      Counters.addAll {} (run targets [1, 1, 1, 1, 2]).trace.events = { probes := 3 } ∧
      (run [t₃, t₄] []).result = .error (.query ⟨"t3", "q3", .syntaxError⟩) ∧
      (run [t₄, t₃] [1]).result = .error (.query ⟨"t4", "p4", .noStatement⟩) ∧
      (run [t₃, t₄] []).trace = [] := by
  intro refused r parser t₃ t₄ targets run e
  obtain ⟨-, hresult, -, hcounts⟩ :=
    checkAll_in_any_order r ⟨"", ""⟩ .generic targets 2 [] parser []
  obtain ⟨-, hresult', -, hcounts'⟩ :=
    checkAll_in_any_order r ⟨"", ""⟩ .generic targets 2 [1, 1, 1, 1, 2] parser []
  obtain ⟨-, hquery, ⟨traces, hchecks, hturns⟩, -⟩ :=
    checkAll_in_any_order r ⟨"", ""⟩ .generic [t₃, t₄] 2 [] parser []
  obtain ⟨-, hprobe, -, -⟩ :=
    checkAll_in_any_order r ⟨"", ""⟩ .generic [t₄, t₃] 2 [1] parser []
  have hfirst : ∃ before t after, targets = before ++ t :: after ∧
      (∀ u ∈ before, r.outcome ⟨"", ""⟩ .generic parser u = .ok ()) ∧
      r.outcome ⟨"", ""⟩ .generic parser t = .error e :=
    ⟨targets.take 1, _, targets.drop 2, rfl, List.forall_mem_singleton.2 rfl, rfl⟩
  have hinvalid : ∀ t ∈ [t₃, t₄], t.isValid .generic parser = false := by decide
  refine ⟨(hresult e).2 hfirst, (hresult' e).2 hfirst, hcounts {}, hcounts' {},
    (hquery _).2 ⟨[], t₃, [t₄], rfl, List.forall_mem_nil _, rfl⟩,
    (hprobe _).2 ⟨[], t₄, [t₃], rfl, List.forall_mem_nil _, rfl⟩, ?_⟩
  exact List.perm_nil.1 (Replies.flatten_of_invalid hchecks hinvalid ▸ hturns.perm_flatten)

end Precheck

end TableExchange
