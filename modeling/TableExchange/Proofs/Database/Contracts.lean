import Mathlib.Data.List.Forall2
import TableExchange.Proofs.Database.Endings

/-!
# Contracts of programs

What a program tells of and what it comes to, whatever the database answers. A program keeps to its
contract if its parts keep to theirs.

* `Program.Meets`, `Attempt.Meets`: a program keeps to a contract.
* `Program.Meets.bind`, `Attempt.Meets.bind`: one part after the other.
* `Attempt.Meets.mapM`: one step for each element of a list.
* `Attempt.Meets.withConnection`: the use of a connection.
-/

namespace TableExchange

/-! ## Results -/

/-- A result is a certain value or a certain failure. -/
def Yields {ε α : Type} (gives : α → Prop) (fails : ε → Prop) : Except ε α → Prop
  | .ok a => gives a
  | .error e => fails e

section

variable {ε ε' α β : Type} {r : Except ε α} {f : α → Except ε β} {gives mid : α → Prop}
  {gives' : β → Prop} {fails : ε → Prop} {fails' : ε' → Prop}

theorem Yields.bind (hr : Yields mid fails r) (hf : ∀ a, mid a → Yields gives' fails (f a)) :
    Yields gives' fails (r >>= f) := by
  cases r with
  | ok a => exact hf a hr
  | error e => exact hr

theorem Yields.mono {given : α → Prop} {failed : ε → Prop} (hr : Yields gives fails r)
    (hgives : ∀ a, gives a → given a) (hfails : ∀ e, fails e → failed e) :
    Yields given failed r := by
  cases r with
  | ok a => exact hgives a hr
  | error e => exact hfails e hr

theorem Yields.mapError {g : ε → ε'} (hr : Yields gives fails r)
    (hg : ∀ e, fails e → fails' (g e)) : Yields gives fails' (r.mapError g) := by
  cases r with
  | ok a => exact hr
  | error e => exact hg e hr

theorem Yields.mapM {as : List α} (hf : ∀ a, Yields gives' fails (f a)) :
    Yields (fun _ => True) fails (as.mapM f) := by
  induction as with
  | nil => exact trivial
  | cons a as ih =>
    rw [List.mapM_cons]
    exact (hf a).bind fun b _ => ih.bind fun bs _ => trivial

end

/-! ## Programs -/

namespace Program

variable {α β : Type} {p : Program α} {f : α → Program β} {tells tells' : Event → Prop}
  {gives gives' mid : α → Prop} {result : β → Prop}

/-- Whatever the database answers, a program tells of certain events only, and ends with a certain
result. -/
def Meets (p : Program α) (tells : Event → Prop) (gives : α → Prop) : Prop :=
  ∀ a t, p.Ends a t → (∀ e ∈ t.events, tells e) ∧ gives a

theorem meets_done {a : α} (h : gives a) : (done a).Meets tells gives := by
  rintro _ _ ⟨⟩
  exact ⟨List.forall_mem_nil tells, h⟩

theorem Meets.bind (hp : p.Meets tells mid) (hf : ∀ a, mid a → (f a).Meets tells result) :
    (p.bind f).Meets tells result := by
  intro b t h
  obtain ⟨a, u, v, hu, hv, rfl⟩ := ends_bind_iff.1 h
  obtain ⟨hbefore, hmid⟩ := hp a u hu
  obtain ⟨hafter, hresult⟩ := hf a hmid b v hv
  rw [Trace.events_append]
  exact ⟨List.forall_mem_append.2 ⟨hbefore, hafter⟩, hresult⟩

theorem Meets.mono (hp : p.Meets tells gives) (htells : ∀ e, tells e → tells' e)
    (hgives : ∀ a, gives a → gives' a) : p.Meets tells' gives' := by
  intro a t h
  obtain ⟨htold, hgiven⟩ := hp a t h
  exact ⟨fun e he => htells e (htold e he), hgives a hgiven⟩

theorem meets_connect (url : String) (credentials : Credentials) :
    (connect url credentials).Meets tells fun _ => True := by
  rintro _ _ (_ | ⟨⟨⟩⟩ | ⟨⟨⟩⟩) <;> exact ⟨List.forall_mem_nil tells, trivial⟩

theorem meets_execute (conn : Handle) (sql : String) (fetchSize : Int) :
    (execute conn sql fetchSize).Meets tells fun _ => True := by
  rintro _ _ (_ | _ | _ | ⟨⟨⟩⟩)
  exact ⟨List.forall_mem_nil tells, trivial⟩

theorem meets_emit {event : Event} (h : tells event) :
    (emit event).Meets tells fun _ => True := by
  rintro _ _ (_ | _ | _ | _ | _ | ⟨⟨⟩⟩)
  exact ⟨List.forall_mem_singleton.2 h, trivial⟩

theorem meets_log (entry : LogEntry) : (log entry).Meets tells fun _ => True := by
  rintro _ _ (_ | _ | _ | _ | _ | ⟨⟨⟩⟩)
  exact ⟨List.forall_mem_nil tells, trivial⟩

theorem meets_closeQuietly (conn : Handle) : (closeQuietly conn).Meets tells fun _ => True := by
  intro _ t h
  rw [events_of_ends_closeQuietly h]
  exact ⟨List.forall_mem_nil tells, trivial⟩

theorem Meets.withConnection (hp : p.Meets tells gives) (conn : Handle) :
    (withConnection conn p).Meets tells gives := by
  intro a t h
  obtain ⟨u, v, hu, hclose, rfl⟩ := ends_withConnection h
  rw [Trace.events_append, events_of_ends_closeQuietly hclose, List.append_nil]
  exact hp a u hu

end Program

/-! ## Attempts -/

namespace Attempt

variable {ε ε' α β : Type} {x : Attempt ε α} {f : α → Attempt ε β} {tells tells' : Event → Prop}
  {gives gives' mid : α → Prop} {result : β → Prop} {fails fails' : ε → Prop}

/-- Whatever the database answers, an attempt tells of certain events only, and ends with a certain
value or a certain failure. -/
def Meets (x : Attempt ε α) (tells : Event → Prop) (gives : α → Prop) (fails : ε → Prop) : Prop :=
  Program.Meets x.run tells (Yields gives fails)

theorem Meets.told (hx : x.Meets tells gives fails) {r : Except ε α} {t : Trace} (h : x.Ends r t) :
    ∀ e ∈ t.events, tells e :=
  (hx r t h).1

theorem Meets.given (hx : x.Meets tells gives fails) {a : α} {t : Trace} (h : x.Ends (.ok a) t) :
    gives a :=
  (hx (.ok a) t h).2

theorem Meets.failed (hx : x.Meets tells gives fails) {e : ε} {t : Trace}
    (h : x.Ends (.error e) t) : fails e :=
  (hx (.error e) t h).2

theorem meets_of_except {r : Except ε α} (h : Yields gives fails r) :
    Meets (liftM r) tells gives fails :=
  Program.meets_done h

theorem meets_pure {a : α} (h : gives a) : Meets (pure a) tells gives fails :=
  Program.meets_done h

theorem meets_throw {e : ε} (h : fails e) : Meets (throw e) tells gives fails :=
  Program.meets_done h

theorem Meets.bind (hx : x.Meets tells mid fails)
    (hf : ∀ a, mid a → (f a).Meets tells result fails) :
    Meets (x >>= f) tells result fails := by
  refine Program.Meets.bind hx fun r hr => ?_
  cases r with
  | ok a => exact hf a hr
  | error e => exact Program.meets_done hr

theorem Meets.mono (hx : x.Meets tells gives fails) (htells : ∀ e, tells e → tells' e)
    (hgives : ∀ a, gives a → gives' a) (hfails : ∀ e, fails e → fails' e) :
    x.Meets tells' gives' fails' :=
  Program.Meets.mono hx htells fun _ hr => hr.mono hgives hfails

theorem Meets.mono_fails (hx : x.Meets tells gives fails) (hfails : ∀ e, fails e → fails' e) :
    x.Meets tells gives fails' :=
  hx.mono (fun _ h => h) (fun _ h => h) hfails

theorem meets_lift {p : Program α} (hp : p.Meets tells gives) :
    Meets (liftM p) tells gives fails :=
  Program.Meets.bind hp fun _ ha => Program.meets_done ha

theorem Meets.adapt {g : ε → ε'} {reported : ε' → Prop} (hx : x.Meets tells gives fails)
    (hg : ∀ e, fails e → reported (g e)) : Meets (ExceptT.adapt g x) tells gives reported :=
  Program.Meets.bind hx fun _ hr => Program.meets_done (Yields.mapError hr hg)

theorem Meets.withConnection (hx : x.Meets tells gives fails) (conn : Handle) :
    Meets (ExceptT.mk (Program.withConnection conn x)) tells gives fails :=
  Program.Meets.withConnection hx conn

/-- A step for each element of a list gives a result for each. -/
theorem Meets.mapM {as : List α} {R : α → β → Prop}
    (hf : ∀ a ∈ as, (f a).Meets tells (R a) fails) :
    Meets (as.mapM f) tells (List.Forall₂ R as) fails := by
  induction as with
  | nil => exact meets_pure .nil
  | cons a as ih =>
    obtain ⟨ha, has⟩ := List.forall_mem_cons.1 hf
    rw [List.mapM_cons]
    exact ha.bind fun b hb => (ih has).bind fun bs hbs => meets_pure (.cons hb hbs)

end Attempt

end TableExchange
