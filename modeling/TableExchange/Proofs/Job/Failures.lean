import TableExchange.Proofs.Job.Tables

/-!
# Why jobs cannot be planned

With settings that have passed their checks, a job fails to be planned only for reasons that lie
with the database: it cannot be reached, a statement fails, or tables are not split by a key of its
type.

* `Error.IsOfDatabase`: these reasons.
* `Planner.plan_meets`: there are no others.
* `Planner.plan_errorClass`: the classes of failures.
-/

namespace TableExchange

/-- The failures that a database gives rise to. -/
def Error.IsOfDatabase : Error → Prop
  | .connection _ | .driver _ => True
  | .split e => e.IsOfDatabase
  | _ => False

theorem Error.errorClass_of_isOfDatabase {e : Error} (h : e.IsOfDatabase) :
    e.errorClass = .connection ∨ e.errorClass = .query ∨ e.errorClass = .illegalSplitKey := by
  cases e with
  | connection _ | driver _ => exact .inl rfl
  | split e =>
    cases e with
    | query _ => exact .inr (.inl rfl)
    | illegalSplitKey _ _ _ => exact .inr (.inr rfl)
    | illegalArgument _ | config _ | connection _ => exact h.elim
  | _ => exact h.elim

namespace Planner

variable {s : ReaderSettings}

theorem planOver_meets (hs : s.Accepted) (hcount : 2 ≤ s.splitCount) (retry : RetryPolicy)
    (url table : String) (conn : Handle) :
    (planOver ⟨.system, retry⟩ s url table conn).Meets (fun _ => True) (fun _ => True)
      Error.IsOfDatabase := by
  have hfind : (findColumn ⟨.system, retry⟩ s table conn).Meets Event.IsOther (fun _ => True)
      Error.IsOfDatabase :=
    findColumn_meets (KeyCatalog.system_meets conn s.dialect table) (fun _ h => h) fun _ h => h
  rw [planOver_eq_findColumn]
  refine (hfind.mono (fun _ _ => trivial) (fun _ h => h) fun _ h => h).bind fun found _ => ?_
  cases found with
  | none =>
    exact Attempt.Meets.bind (Attempt.meets_lift (Program.meets_emit trivial)) fun _ _ =>
      Attempt.meets_pure trivial
  | some column =>
    exact Attempt.Meets.bind ((Splitter.plan_meets hs.sampling hcount).adapt fun _ h => h)
      fun _ _ => Attempt.meets_pure trivial

theorem planTable_meets (hs : s.Accepted) (retry : RetryPolicy) (url table : String) :
    (planTable ⟨.system, retry⟩ s url table).Meets (fun _ => True) (fun _ => True)
      Error.IsOfDatabase := by
  unfold planTable
  split
  · exact Attempt.meets_pure trivial
  refine Attempt.Meets.bind
    (Attempt.meets_lift (Program.meets_connect url s.credentials)) fun answer _ => ?_
  cases answer with
  | error e => exact Attempt.meets_throw trivial
  | ok conn => exact (planOver_meets hs (by omega) retry url table conn).withConnection conn

theorem plan_meets (hs : s.Accepted) (retry : RetryPolicy) :
    (plan ⟨.system, retry⟩ s).Meets (fun _ => True) (fun _ => True) Error.IsOfDatabase :=
  plan_meets_of_planTable (fun _ _ => trivial) (fun _ => trivial)
    fun _ _ url table _ => planTable_meets hs retry url table

/-- **Accepted settings are no reason for a job to fail.** Whatever the database answers, a job that
cannot be planned could not reach it, had a statement fail there, or met a key that tables are not
split by. No such failure is one of a single row. -/
theorem plan_errorClass {doc : Json} (hs : ReaderSettings.ofDocument doc = .ok s)
    (retry : RetryPolicy) {σ : Type} (server : Server σ) (state : σ) (next : Handle) {e : Error}
    (h : ((plan ⟨.system, retry⟩ s).run.run server state next).result = .error e) :
    (e.errorClass = .connection ∨ e.errorClass = .query ∨ e.errorClass = .illegalSplitKey) ∧
      e.isRecoverable = false := by
  have hends := Program.ends_run server (plan ⟨.system, retry⟩ s).run state next
  rw [h] at hends
  have hmeets := plan_meets (ReaderSettings.accepted_of_ofDocument hs) retry
  have hclass := Error.errorClass_of_isOfDatabase (hmeets.failed hends)
  refine ⟨hclass, ?_⟩
  rcases hclass with hclass | hclass | hclass <;> rw [Error.isRecoverable, hclass] <;> rfl

/-- A database that always gives the same answers. -/
def constantServer (connected : Except DriverError Unit) (answer : Except DriverError ResultSet) :
    Server Unit :=
  ⟨fun _ _ _ => (connected, ()), fun _ _ _ _ => (answer, ()), fun _ _ => (.ok (), ())⟩

/-- A database that cannot be reached, one that is lost before it answers, and one whose key is a
floating point number. -/
theorem plan_errorClass_threeWays :
    let doc : Json := .ofMembers
      [("dialect", .string "oracle"), ("column", .array [.string "*"]), ("splitPk", .string "id"),
        ("connection", .array [.ofMembers
          [("jdbcUrl", .array [.string "db"]), ("table", .array [.string "people"])]])]
    let unreachable := constantServer (.error (.connect "db" "refused")) (.error .closed)
    let lost := constantServer (.ok ()) (.error .closed)
    let floating := constantServer (.ok ()) (.ok ⟨[⟨"id", .double, "FLOAT", 0⟩], [], none⟩)
    ∃ s, ReaderSettings.ofDocument doc = .ok s ∧ ∃ e₁ e₂ e₃,
      ((plan ⟨.system, {}⟩ s).run.run unreachable () 0).result = .error e₁ ∧
      ((plan ⟨.system, {}⟩ s).run.run lost () 0).result = .error e₂ ∧
      ((plan ⟨.system, {}⟩ s).run.run floating () 0).result = .error e₃ ∧
      [e₁, e₂, e₃].map (·.errorClass) = [.connection, .query, .illegalSplitKey] ∧
      e₁.isRecoverable = false ∧ e₂.isRecoverable = false ∧ e₃.isRecoverable = false := by
  intro doc unreachable lost floating
  have hs : ReaderSettings.ofDocument doc = .ok _ := rfl
  obtain ⟨-, hunreachable⟩ := plan_errorClass hs {} unreachable () 0 rfl
  obtain ⟨-, hlost⟩ := plan_errorClass hs {} lost () 0 rfl
  obtain ⟨-, hfloating⟩ := plan_errorClass hs {} floating () 0 rfl
  exact ⟨_, hs, _, _, _, rfl, rfl, rfl, rfl, hunreachable, hlost, hfloating⟩

end Planner

end TableExchange
