import TableExchange.Proofs.Database.Sessions

/-!
# Statements that programs run

Which statements an attempt runs, where this does not depend on what the database answers. An
attempt that fails on the way has run the first ones of them.

* `Trace.statements`: the statements of a trace.
* `Attempt.Runs`: an attempt runs certain statements, one after the other.
* `Attempt.Runs.bind`, `Attempt.Runs.mapM`: attempts that are put together.
* `Attempt.Keeps.runs_nil`: an attempt that does no work runs none.
-/

namespace TableExchange

/-- The statement that is run. -/
def Action.statement? : Action → Option String
  | .executed _ sql _ => some sql
  | _ => none

namespace Trace

variable {t : Trace} {o o' : Option Handle}

/-- The statements that are run, in order. -/
def statements (t : Trace) : List String := t.filterMap Action.statement?

theorem statements_append (t u : Trace) : statements (t ++ u) = t.statements ++ u.statements :=
  List.filterMap_append

theorem statements_eq_nil (h : ∀ conn sql fetchSize, .executed conn sql fetchSize ∉ t) :
    t.statements = [] := by
  refine List.filterMap_eq_nil_iff.2 fun a ha => ?_
  cases a with
  | executed conn sql fetchSize => exact absurd ha (h conn sql fetchSize)
  | _ => rfl

theorem Leads.statements_eq_nil (h : Leads False o t o') : t.statements = [] :=
  Trace.statements_eq_nil fun _ => h.not_executed

end Trace

namespace Attempt

variable {ε ε' α β : Type} {x : Attempt ε α} {f : α → Attempt ε β} {sqls more : List String}

/-- Whatever the database answers, an attempt runs statements of a list from the first one on, and
all of them if it succeeds. -/
def Runs (x : Attempt ε α) (sqls : List String) : Prop :=
  ∀ r t, x.Ends r t → t.statements <+: sqls ∧ ∀ a, r = .ok a → t.statements = sqls

theorem Keeps.runs_nil {o : Option Handle} (h : x.Keeps False o) : x.Runs [] := by
  intro r t ht
  have hnil := (h r t ht).statements_eq_nil
  exact ⟨hnil ▸ List.nil_prefix, fun _ _ => hnil⟩

theorem runs_pure (a : α) : Runs (pure a : Attempt ε α) [] := (keeps_pure (o := none) a).runs_nil

theorem runs_emit (e : Event) : Runs (liftM (Program.emit e) : Attempt ε Unit) [] :=
  (keeps_emit (o := none) e).runs_nil

/-- An attempt that fails owes no statement. -/
theorem runs_throw (e : ε) : Runs (throw e : Attempt ε α) sqls := by
  intro r t h
  obtain ⟨rfl, rfl⟩ := ends_throw_iff.1 h
  exact ⟨List.nil_prefix, fun a ha => by cases ha⟩

theorem runs_connect (url : String) (credentials : Credentials) :
    Runs (liftM (Program.connect url credentials) : Attempt ε (Except DriverError Handle)) [] := by
  intro r t h
  obtain ⟨_, rfl, h⟩ := ends_liftM_iff.1 h
  obtain _ | ⟨⟨⟩⟩ | ⟨⟨⟩⟩ := h <;> exact ⟨List.nil_prefix, fun _ _ => rfl⟩

theorem runs_execute (conn : Handle) (sql : String) (fetchSize : Int) :
    Runs (liftM (Program.execute conn sql fetchSize) : Attempt ε (Except DriverError ResultSet))
      [sql] := by
  intro r t h
  obtain ⟨_, rfl, h⟩ := ends_liftM_iff.1 h
  obtain _ | _ | _ | ⟨⟨⟩⟩ := h
  exact ⟨List.prefix_refl [sql], fun _ _ => rfl⟩

/-- The statements of one part and then those of the other, which may depend on what the first part
has come to. -/
theorem Runs.bind (hx : x.Runs sqls) (hf : ∀ a t, x.Ends (.ok a) t → (f a).Runs more) :
    Runs (x >>= f) (sqls ++ more) := by
  intro r t h
  rcases ends_bind_iff.1 h with ⟨a, u, v, hu, hv, rfl⟩ | ⟨e, rfl, ht⟩
  · obtain ⟨hpart, hall⟩ := hf a u hu r v hv
    rw [Trace.statements_append, (hx _ u hu).2 a rfl]
    exact ⟨(List.prefix_append_right_inj sqls).2 hpart, fun b hb => by rw [hall b hb]⟩
  · exact ⟨(hx _ t ht).1.trans (List.prefix_append sqls more), fun b hb => by cases hb⟩

/-- Nothing is run behind the statements. -/
theorem Runs.bind_nil (hx : x.Runs sqls) (hf : ∀ a, (f a).Runs []) : Runs (x >>= f) sqls := by
  have h := hx.bind fun a _ _ => hf a
  rwa [List.append_nil] at h

/-- Nothing is run before the statements. -/
theorem Runs.nil_bind (hx : x.Runs []) (hf : ∀ a, (f a).Runs sqls) : Runs (x >>= f) sqls :=
  hx.bind fun a _ _ => hf a

theorem Runs.adapt (hx : x.Runs sqls) (g : ε → ε') : Runs (ExceptT.adapt g x) sqls := by
  intro r t h
  obtain ⟨r, rfl, ht⟩ := ends_adapt_iff.1 h
  refine ⟨(hx r t ht).1, fun a ha => ?_⟩
  cases r with
  | ok b => exact (hx _ t ht).2 b rfl
  | error e => cases ha

theorem Runs.withConnection (hx : x.Runs sqls) (conn : Handle) :
    Runs (ExceptT.mk (Program.withConnection conn x)) sqls := by
  intro r t h
  obtain ⟨u, v, hu, hclose, rfl⟩ := Program.ends_withConnection h
  have hquiet : Trace.Leads False (some conn) v none := Program.leads_closeQuietly () v hclose
  rw [Trace.statements_append, hquiet.statements_eq_nil, List.append_nil]
  exact hx r u hu

/-- The statements of a step for each element of a list. -/
theorem Runs.mapM {as : List α} {g : α → List String} (hf : ∀ a ∈ as, (f a).Runs (g a)) :
    Runs (as.mapM f) (as.flatMap g) := by
  induction as with
  | nil => exact runs_pure []
  | cons a as ih =>
    obtain ⟨ha, has⟩ := List.forall_mem_cons.1 hf
    rw [List.mapM_cons, List.flatMap_cons]
    exact ha.bind fun b _ _ => (ih has).bind_nil fun bs => runs_pure (b :: bs)

end Attempt

end TableExchange
