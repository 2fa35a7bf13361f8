import TableExchange.Job.Precheck
import TableExchange.Proofs.Database.Turns
import TableExchange.Proofs.Results

/-!
# Visits

The check of a target is one visit to its database, if its statements are well formed: a connection
is made, statements are announced and run on it, and it is closed. The check of all targets is made
of their visits.

* `PrecheckTarget.isValid`, `Precheck.parsed`: what a parser says of the texts of a target.
* `Precheck.validate_eq`, `Precheck.validate_eq_ok_iff`, `Precheck.isValid_of_validate_eq_error`: a
  target is validated by its texts.
* `Precheck.session`, `Precheck.exchanges`: what is done and said in a visit.
* `Precheck.Talked`: every way in which the check of one target can go.
* `Precheck.talks_checkAll`: the check of all targets.
-/

namespace TableExchange

/-! ## Texts -/

/-- Whether a parser finds a statement in a text. -/
def Sql.Parser.accepts (parser : Sql.Parser) (dialect : Dialect) (sql : String) : Bool :=
  match parser dialect sql with
  | none | some 0 => false
  | some (_ + 1) => true

theorem Sql.validate_eq_ok_iff {dialect : Dialect} {table sql : String} {parser : Sql.Parser} :
    Sql.validate dialect table sql parser = .ok () ↔ parser.accepts dialect sql = true := by
  rw [validate, Parser.accepts]
  rcases parser dialect sql with _ | _ | n <;> simp

/-- Whether a parser accepts the query of a target, and the probe if there is one. -/
def PrecheckTarget.isValid (t : PrecheckTarget) (dialect : Dialect) (parser : Sql.Parser) : Bool :=
  parser.accepts dialect t.query && t.probe.all (parser.accepts dialect)

namespace Precheck

variable {credentials : Credentials} {dialect : Dialect} {parser : Sql.Parser} {t : PrecheckTarget}
  {conn : Handle} {table sql : String} {log : List Exchange} {result : Except PrecheckError Unit}

/-- What a parser says of a text of a target. -/
def parsed (dialect : Dialect) (parser : Sql.Parser) (t : PrecheckTarget) (sql : String) :
    Except PrecheckError Unit :=
  match parser dialect sql with
  | none => .error (.query ⟨t.table, sql, .syntaxError⟩)
  | some 0 => .error (.query ⟨t.table, sql, .noStatement⟩)
  | some (_ + 1) => .ok ()

theorem parsed_eq :
    (Sql.validate dialect t.table sql parser).mapError .query = parsed dialect parser t sql := by
  rw [parsed, Sql.validate]
  rcases parser dialect sql with _ | _ | n <;> rfl

/-- The texts of a target are parsed one after the other, the query before the probe. -/
theorem validate_eq : validate dialect t parser = (do
    parsed dialect parser t t.query
    t.probe.toList.forM (parsed dialect parser t)) := by
  rw [validate, forM_mapError]
  simp only [parsed_eq]
  exact List.forM_cons

theorem validate_eq_ok :
    validate dialect t parser = .ok () ↔
      ∀ sql ∈ statements t, Sql.validate dialect t.table sql parser = .ok () := by
  rw [validate, mapError_eq_ok, forM_eq_ok]

theorem validate_eq_ok_iff :
    validate dialect t parser = .ok () ↔ t.isValid dialect parser = true := by
  simp only [validate_eq_ok, Sql.validate_eq_ok_iff, statements, List.forall_mem_cons,
    Option.mem_toList, PrecheckTarget.isValid, Bool.and_eq_true, Option.all_eq_true]

theorem isValid_of_validate_eq_error {e : PrecheckError}
    (h : validate dialect t parser = .error e) : t.isValid dialect parser = false := by
  refine Bool.eq_false_iff.2 fun hvalid => ?_
  rw [validate_eq_ok_iff.2 hvalid] at h
  cases h

/-! ## What is done and said -/

/-- A statement is announced and run. -/
def announced (dialect : Dialect) (conn : Handle) (table sql : String) : Trace :=
  [.noted (.event (.probeStarted table .precheck sql)),
    .executed conn sql dialect.features.probeFetchSize]

/-- A connection for a target is made, statements are run on it, and it is closed. -/
def session (credentials : Credentials) (dialect : Dialect) (t : PrecheckTarget) (conn : Handle)
    (ran : List String) (logged : List LogEntry) : Trace :=
  .connected conn t.url credentials :: ran.flatMap (announced dialect conn t.table) ++
    .closed conn :: logged.map fun entry => .noted (.log entry)

/-- What is said in a visit, with the answers to the statements in the middle. -/
def exchanges (credentials : Credentials) (t : PrecheckTarget) (conn : Handle)
    (said : List Exchange) (answer : Except DriverError Unit) (logged : List LogEntry) :
    List Exchange :=
  .connect t.url credentials (.ok conn) :: said ++
    .close conn answer :: logged.map fun entry => .tell (.log entry)

theorem map_action_exchanges {said : List Exchange} {ran : List String}
    (answer : Except DriverError Unit) (logged : List LogEntry)
    (h : said.map Exchange.action = ran.flatMap (announced dialect conn t.table)) :
    (exchanges credentials t conn said answer logged).map Exchange.action =
      session credentials dialect t conn ran logged := by
  rw [session, ← h]
  simp [exchanges, Exchange.action, Function.comp_def]

theorem events_announced (ran : List String) :
    Trace.events (ran.flatMap (announced dialect conn table)) =
      ran.map fun sql => .probeStarted table .precheck sql := by
  induction ran with
  | nil => rfl
  | cons sql ran ih =>
    rw [List.flatMap_cons, Trace.events_append, ih]
    rfl

/-- A visit tells of the statements that are run. -/
theorem events_session (ran : List String) (logged : List LogEntry) :
    Trace.events (session credentials dialect t conn ran logged) =
      ran.map fun sql => .probeStarted t.table .precheck sql := by
  have hlogged : Trace.events (logged.map fun entry => .noted (.log entry)) = [] := by
    induction logged with
    | nil => rfl
    | cons entry logged ih => exact ih
  calc Trace.events (session credentials dialect t conn ran logged)
      = Trace.events (ran.flatMap (announced dialect conn t.table)) ++
          Trace.events (logged.map fun entry => .noted (.log entry)) :=
        Trace.events_append _ _
    _ = _ := by rw [hlogged, List.append_nil, events_announced]

/-! ## The check of one target -/

theorem runStatements_cons (rest : List String) :
    (runStatements dialect conn table (sql :: rest)).run =
      .noting (.event (.probeStarted table .precheck sql))
        (.executing conn sql dialect.features.probeFetchSize fun
          | .error e => .done (.error (.query ⟨table, sql, .driver e⟩))
          | .ok _ => (runStatements dialect conn table rest).run) := by
  show Program.noting _ (Program.executing conn sql _ _) = _
  refine congrArg (Program.noting _) (congrArg (Program.executing conn sql _) ?_)
  funext answer
  cases answer <;> rfl

theorem check_of_invalid {e : PrecheckError} (h : validate dialect t parser = .error e) :
    (check credentials dialect t parser).run = .done (.error e) := by
  rw [check, h]
  rfl

theorem check_of_valid (h : validate dialect t parser = .ok ()) :
    (check credentials dialect t parser).run = .asking t.url credentials fun
      | .error e => .done (.error (.connect t.table e))
      | .ok conn =>
        Program.withConnection conn (runStatements dialect conn t.table (statements t)).run := by
  rw [check, h]
  show Program.asking t.url credentials _ = _
  refine congrArg (Program.asking t.url credentials) ?_
  funext answer
  cases answer <;> rfl

/-- Every way in which the check of a target can go. -/
inductive Talked (credentials : Credentials) (dialect : Dialect) (t : PrecheckTarget)
    (parser : Sql.Parser) : List Exchange → Except PrecheckError Unit → Prop
  | invalid {e : PrecheckError} (h : validate dialect t parser = .error e) :
      Talked credentials dialect t parser [] (.error e)
  | refused {e : DriverError} (h : validate dialect t parser = .ok ()) :
      Talked credentials dialect t parser [.connect t.url credentials (.error e)]
        (.error (.connect t.table e))
  | visited {conn : Handle} {said : List Exchange} {result : Except PrecheckError Unit}
      {answer : Except DriverError Unit} {logged : List LogEntry}
      (h : validate dialect t parser = .ok ())
      (hsaid : (runStatements dialect conn t.table (statements t)).run.Talks said result) :
      Talked credentials dialect t parser
        (exchanges credentials t conn said answer logged) result

theorem talked_of_talks (h : (check credentials dialect t parser).run.Talks log result) :
    Talked credentials dialect t parser log result := by
  cases hvalid : validate dialect t parser with
  | error e =>
    rw [check_of_invalid hvalid] at h
    obtain ⟨rfl, rfl⟩ := Program.talks_done_iff.1 h
    exact .invalid hvalid
  | ok _ =>
    rw [check_of_valid hvalid] at h
    obtain _ | ⟨answer | _, hrest⟩ := h
    cases answer with
    | error e =>
      obtain ⟨rfl, rfl⟩ := Program.talks_done_iff.1 hrest
      exact .refused hvalid
    | ok conn =>
      obtain ⟨said, answer, logged, hsaid, rfl⟩ := Program.talks_withConnection hrest
      exact .visited hvalid hsaid

/-! ## The check of all targets -/

theorem forM_results (results : List (Except PrecheckError Unit)) :
    (results.forM fun r => r : Attempt PrecheckError Unit).run = .done (results.forM id) := by
  induction results with
  | nil => rfl
  | cons r results ih =>
    cases r with
    | error e => rfl
    | ok _ => exact ih

theorem run_checkAll (targets : List PrecheckTarget) (threads : Nat) (schedule : List Nat) :
    (checkAll credentials dialect targets threads schedule parser).run =
      (Program.interleave (max 1 (min threads targets.length)) schedule
        (targets.map fun t => .fresh (check credentials dialect t parser).run)).bind
          fun results => .done (results.forM id) := by
  show (Program.bind _ fun results => .done (Except.ok results)).bind _ = _
  rw [Program.bind_assoc]
  exact congrArg (Program.bind _) (funext forM_results)

/-- The check of all targets is made of the checks of each, and comes to their first failure. -/
theorem talks_checkAll {targets : List PrecheckTarget} {threads : Nat} {schedule : List Nat}
    (h : (checkAll credentials dialect targets threads schedule parser).run.Talks log result) :
    ∃ parts : Program.Parts (Except PrecheckError Unit),
      List.Forall₂ (fun t part => Talked credentials dialect t parser part.1 part.2) targets
        parts ∧
      result = (parts.map (·.2)).forM id ∧ Interleaves (parts.map (·.1)) log := by
  rw [run_checkAll] at h
  obtain ⟨results, said, _, hturns, hdone, rfl⟩ := Program.talks_bind_iff.1 h
  obtain ⟨rfl, rfl⟩ := Program.talks_done_iff.1 hdone
  obtain ⟨parts, hparts, rfl, hsaid⟩ := Program.talks_interleave hturns
  rw [List.append_nil]
  exact ⟨parts, (List.forall₂_map_left_iff.1 hparts).imp fun _ _ => talked_of_talks, rfl, hsaid⟩

end Precheck

end TableExchange
