import Mathlib.Data.List.Nodup
import TableExchange.Proofs.Database.Turns

/-!
# Sessions

A connection is made, statements are run on it, and it is closed. A program that has at most one
connection at a time leads from one state of that connection to another, and a program put together
of such programs does so as well.

* `Trace.Balanced`: every connection has one whole session.
* `Trace.OneAtATime`: never are two connections open.
* `Trace.Leads`: what a trace makes of the only connection, if there is one.
* `Trace.balanced_of_leads`, `Trace.oneAtATime_of_leads`: what follows if there is none in the end.
* `Trace.balanced_of_interleaves`: traces that take turns.
* `Program.connections_run`: a run numbers its connections.
* `Program.Leads`, `Attempt.Keeps`: programs, and how they are put together.
-/

namespace TableExchange

/-- The connection that something is done with. -/
def Action.handle? : Action → Option Handle
  | .connected conn _ _ | .executed conn _ _ | .closed conn => some conn
  | .refused .. | .noted _ => none

/-- The connection that is made. -/
def Action.made? : Action → Option Handle
  | .connected conn _ _ => some conn
  | _ => none

namespace Trace

variable {t u : Trace} {o o' o'' : Option Handle} {conn : Handle} {work : Prop}

/-- What is done with a connection. -/
def on (t : Trace) (conn : Handle) : Trace := t.filter (·.handle? = some conn)

/-- The connections that are made, in order. -/
def connections (t : Trace) : List Handle := t.filterMap Action.made?

theorem on_cons_self {a : Action} (h : a.handle? = some conn) : on (a :: t) conn = a :: t.on conn :=
  List.filter_cons_of_pos (decide_eq_true h)

theorem on_cons_other {a : Action} (h : a.handle? ≠ some conn) : on (a :: t) conn = t.on conn :=
  List.filter_cons_of_neg (by simpa using h)

theorem connections_append (t u : Trace) :
    connections (t ++ u) = t.connections ++ u.connections :=
  List.filterMap_append

/-- Statements are run on a connection, and then it is closed. -/
inductive IsUse (conn : Handle) : Trace → Prop
  | closed : IsUse conn [.closed conn]
  | executed {sql : String} {fetchSize : Int} {t : Trace} (h : IsUse conn t) :
      IsUse conn (.executed conn sql fetchSize :: t)

/-- A connection is made, used and closed, once each. -/
def IsSession (conn : Handle) (t : Trace) : Prop :=
  ∃ url credentials use, t = .connected conn url credentials :: use ∧ IsUse conn use

/-- Whatever is done with a connection is one whole session. -/
def Balanced (t : Trace) : Prop := ∀ conn, t.on conn = [] ∨ IsSession conn (t.on conn)

/-- A connection is made and not closed. -/
def IsOpen (t : Trace) (conn : Handle) : Prop := conn ∈ t.connections ∧ .closed conn ∉ t

/-- Never are two connections open. -/
def OneAtATime (t : Trace) : Prop :=
  ∀ u, u <+: t → ∀ conn conn', IsOpen u conn → IsOpen u conn' → conn = conn'

/-! ## The only connection -/

/-- A trace leads from one state to another, each of which is an open connection or none. There is
never a second one. Statements are run on the open one, and only if `work` holds. -/
inductive Leads (work : Prop) : Option Handle → Trace → Option Handle → Prop
  | nil (o : Option Handle) : Leads work o [] o
  | connected {conn : Handle} {url : String} {credentials : Credentials} {t : Trace}
      {o : Option Handle} (h : Leads work (some conn) t o) :
      Leads work none (.connected conn url credentials :: t) o
  | refused {url : String} {credentials : Credentials} {e : DriverError} {t : Trace}
      {o o' : Option Handle} (h : Leads work o t o') :
      Leads work o (.refused url credentials e :: t) o'
  | executed {conn : Handle} {sql : String} {fetchSize : Int} {t : Trace} {o : Option Handle}
      (hwork : work) (h : Leads work (some conn) t o) :
      Leads work (some conn) (.executed conn sql fetchSize :: t) o
  | closed {conn : Handle} {t : Trace} {o : Option Handle} (h : Leads work none t o) :
      Leads work (some conn) (.closed conn :: t) o
  | noted {note : Note} {t : Trace} {o o' : Option Handle} (h : Leads work o t o') :
      Leads work o (.noted note :: t) o'

theorem Leads.not_executed (h : Leads False o t o') (sql : String) (fetchSize : Int) :
    .executed conn sql fetchSize ∉ t := by
  induction h with
  | nil o => exact List.not_mem_nil
  | executed hwork _ _ => exact hwork.elim
  | connected _ ih | refused _ ih | closed _ ih | noted _ ih => simpa using ih

theorem Leads.append (h : Leads work o t o') (h' : Leads work o' u o'') :
    Leads work o (t ++ u) o'' := by
  induction h with
  | nil o => exact h'
  | connected _ ih => exact .connected (ih h')
  | refused _ ih => exact .refused (ih h')
  | executed hwork _ ih => exact .executed hwork (ih h')
  | closed _ ih => exact .closed (ih h')
  | noted _ ih => exact .noted (ih h')

theorem Leads.of_append (h : Leads work o (t ++ u) o'') :
    ∃ o', Leads work o t o' ∧ Leads work o' u o'' := by
  induction t generalizing o with
  | nil => exact ⟨o, .nil o, h⟩
  | cons a t ih =>
    cases h with
    | connected h => exact (ih h).imp fun _ => .imp_left .connected
    | refused h => exact (ih h).imp fun _ => .imp_left .refused
    | executed hwork h => exact (ih h).imp fun _ => .imp_left (.executed hwork)
    | closed h => exact (ih h).imp fun _ => .imp_left .closed
    | noted h => exact (ih h).imp fun _ => .imp_left .noted

/-- Nothing is done with a connection that is not there. -/
theorem Leads.on_eq_nil (h : Leads work o t o') (ho : o ≠ some conn) (ht : conn ∉ t.connections) :
    t.on conn = [] := by
  induction h with
  | nil o => rfl
  | @connected made _ _ _ _ _ ih =>
    obtain ⟨hmade, hrest⟩ := List.ne_and_not_mem_of_not_mem_cons ht
    have hne : some made ≠ some conn := fun heq => hmade (Option.some.inj heq).symm
    rw [on_cons_other (by exact hne), ih hne hrest]
  | refused _ ih => exact ih ho ht
  | executed _ _ ih => rw [on_cons_other (by exact ho), ih ho ht]
  | closed _ ih => rw [on_cons_other (by exact ho), ih nofun ht]
  | noted _ ih => exact ih ho ht

/-- The connection that is open at first is used until it is closed. -/
theorem Leads.isUse_on (h : Leads work o t o') (ho : o = some conn) (ho' : o' = none)
    (ht : conn ∉ t.connections) : IsUse conn (t.on conn) := by
  induction h with
  | nil o => exact absurd (ho.symm.trans ho') nofun
  | connected _ _ => cases ho
  | refused _ ih => exact ih ho ho' ht
  | executed _ _ ih =>
    cases ho
    rw [on_cons_self rfl]
    exact .executed (ih rfl ho' ht)
  | closed h _ =>
    cases ho
    rw [on_cons_self rfl, h.on_eq_nil nofun ht]
    exact .closed
  | noted _ ih => exact ih ho ho' ht

/-- A connection that is made on the way has a session. The induction is on the trace up to the
step that makes it; from there on it is the one in use. -/
theorem Leads.isSession_on (h : Leads work o t o') (ho : o ≠ some conn) (ho' : o' = none)
    (ht : conn ∈ t.connections) (hnodup : t.connections.Nodup) : IsSession conn (t.on conn) := by
  induction h with
  | nil o => exact absurd ht List.not_mem_nil
  | @connected made url credentials t _ h ih =>
    obtain ⟨hfresh, hnodup⟩ := List.nodup_cons.1 hnodup
    by_cases hmade : made = conn
    · subst hmade
      exact ⟨url, credentials, t.on made, on_cons_self rfl, h.isUse_on rfl ho' hfresh⟩
    · have hne : some made ≠ some conn := fun heq => hmade (Option.some.inj heq)
      rw [on_cons_other (by exact hne)]
      exact ih hne ho' (List.mem_of_ne_of_mem (Ne.symm hmade) ht) hnodup
  | refused _ ih => exact ih ho ho' ht hnodup
  | executed _ _ ih =>
    rw [on_cons_other (by exact ho)]
    exact ih ho ho' ht hnodup
  | closed _ ih =>
    rw [on_cons_other (by exact ho)]
    exact ih nofun ho' ht hnodup
  | noted _ ih => exact ih ho ho' ht hnodup

theorem balanced_of_leads (h : Leads work none t none) (hnodup : t.connections.Nodup) :
    t.Balanced := by
  intro conn
  by_cases hconn : conn ∈ t.connections
  · exact .inr (h.isSession_on nofun rfl hconn hnodup)
  · exact .inl (h.on_eq_nil nofun hconn)

/-- A connection that is not closed is the one that is there in the end. -/
theorem Leads.eq_some_of_not_closed (h : Leads work o t o')
    (hconn : o = some conn ∨ conn ∈ t.connections) (hclosed : .closed conn ∉ t) :
    o' = some conn := by
  induction h with
  | nil o => exact hconn.resolve_right List.not_mem_nil
  | connected _ ih =>
    obtain ⟨-, hrest⟩ := List.ne_and_not_mem_of_not_mem_cons hclosed
    rcases List.mem_cons.1 (hconn.resolve_left nofun) with rfl | hmem
    · exact ih (.inl rfl) hrest
    · exact ih (.inr hmem) hrest
  | refused _ ih => exact ih hconn (List.ne_and_not_mem_of_not_mem_cons hclosed).2
  | executed _ _ ih => exact ih hconn (List.ne_and_not_mem_of_not_mem_cons hclosed).2
  | closed _ ih =>
    obtain ⟨hother, hrest⟩ := List.ne_and_not_mem_of_not_mem_cons hclosed
    rcases hconn with heq | hmem
    · cases heq
      exact absurd rfl hother
    · exact ih (.inr hmem) hrest
  | noted _ ih => exact ih hconn (List.ne_and_not_mem_of_not_mem_cons hclosed).2

theorem oneAtATime_of_leads (h : Leads work none t o) : t.OneAtATime := by
  rintro u ⟨v, rfl⟩ conn conn' ⟨hmade, hopen⟩ ⟨hmade', hopen'⟩
  obtain ⟨o', hu, -⟩ := h.of_append
  have hconn := hu.eq_some_of_not_closed (.inr hmade) hopen
  have hconn' := hu.eq_some_of_not_closed (.inr hmade') hopen'
  exact Option.some.inj (hconn.symm.trans hconn')

/-! ## Traces that take turns -/

theorem IsSession.mem_connections (h : IsSession conn (t.on conn)) : conn ∈ t.connections := by
  obtain ⟨url, credentials, use, heq, -⟩ := h
  have hmem : .connected conn url credentials ∈ t :=
    (List.mem_filter.1 (heq ▸ List.mem_cons_self : _ ∈ t.on conn)).1
  exact List.mem_filterMap.2 ⟨_, hmem, rfl⟩

theorem disjoint_of_ne {α : Type} {ls : List (List α)} {l l' : List α} {j k : Nat}
    (h : ls.flatten.Nodup) (hj : ls[j]? = some l) (hk : ls[k]? = some l') (hne : j ≠ k) :
    l.Disjoint l' := by
  have hpairs := List.pairwise_iff_getElem.1 (List.nodup_flatten.1 h).2
  obtain ⟨hjlt, rfl⟩ := List.getElem?_eq_some_iff.1 hj
  obtain ⟨hklt, rfl⟩ := List.getElem?_eq_some_iff.1 hk
  rcases Nat.lt_or_gt_of_ne hne with hlt | hlt
  · exact hpairs j k hjlt hklt hlt
  · exact fun _ ha ha' => hpairs k j hklt hjlt hlt ha' ha

/-- Traces that take turns are balanced all together if each of them has one connection at a time
and leaves none open, and if no connection is made twice. -/
theorem balanced_of_interleaves {ls : List Trace} (h : Interleaves ls t)
    (hls : ∀ l ∈ ls, Leads work none l none) (hnodup : t.connections.Nodup) : t.Balanced := by
  have hflat : (ls.map connections).flatten.Nodup :=
    (h.filterMap Action.made?).perm_flatten.nodup_iff.1 hnodup
  have hbalanced (l : Trace) (hl : l ∈ ls) : l.Balanced :=
    balanced_of_leads (hls l hl) ((List.nodup_flatten.1 hflat).1 _ (List.mem_map_of_mem hl))
  intro conn
  have hon : Interleaves (ls.map (·.on conn)) (t.on conn) := h.filter _
  by_cases hnone : ∀ l ∈ ls, l.on conn = []
  · left
    rw [← List.perm_nil, ← List.flatten_eq_nil_iff.2 (List.forall_mem_map.2 hnone)]
    exact hon.perm_flatten
  · push Not at hnone
    obtain ⟨l, hl, hne⟩ := hnone
    obtain ⟨k, hk⟩ := List.mem_iff_getElem?.1 hl
    have hsession := (hbalanced l hl conn).resolve_left hne
    -- the others cannot make this connection, so they do nothing with it
    have hothers (j : Nat) (l' : Trace) (hj : (ls.map (·.on conn))[j]? = some l') (hjk : j ≠ k) :
        l' = [] := by
      rw [List.getElem?_map, Option.map_eq_some_iff] at hj
      obtain ⟨other, hj, rfl⟩ := hj
      refine (hbalanced other (List.mem_of_getElem? hj) conn).resolve_right fun hsession' => ?_
      have hdisjoint : other.connections.Disjoint l.connections :=
        disjoint_of_ne hflat (by rw [List.getElem?_map, hj, Option.map_some])
          (by rw [List.getElem?_map, hk, Option.map_some]) hjk
      exact hdisjoint hsession'.mem_connections hsession.mem_connections
    rw [hon.eq_of_others_nil (by rw [List.getElem?_map, hk, Option.map_some]) hothers]
    exact .inr hsession

end Trace

/-! ## Programs -/

namespace Program

variable {α β σ : Type} {p : Program α} {f : α → Program β} {o o' o'' : Option Handle}
  {work : Prop}

/-- A run numbers its connections one after the other. -/
theorem connections_run (server : Server σ) (p : Program α) (s : σ) (next : Handle) :
    ∃ k, (p.run server s next).trace.connections = List.range' next k := by
  induction p generalizing s next with
  | done a => exact ⟨0, rfl⟩
  | asking url credentials k ih =>
    rw [run]
    split
    · obtain ⟨n, hn⟩ := ih (.ok next) _ (next + 1)
      exact ⟨n + 1, by rw [List.range'_succ, ← hn]; rfl⟩
    · exact ih _ _ _
  | executing conn sql fetchSize k ih => exact ih _ _ _
  | closing conn k ih => exact ih _ _ _
  | noting note k ih => exact ih _ _

/-- No run makes a connection twice. -/
theorem nodup_connections_run (server : Server σ) (p : Program α) (s : σ) (next : Handle) :
    (p.run server s next).trace.connections.Nodup := by
  obtain ⟨k, hk⟩ := connections_run server p s next
  rw [hk]
  exact List.nodup_range'

/-- Whatever the database answers, a program leads from one state of its only connection to
another. -/
def Leads (work : Prop) (o : Option Handle) (p : Program α) (o' : Option Handle) : Prop :=
  ∀ a t, p.Ends a t → Trace.Leads work o t o'

theorem leads_done (o : Option Handle) (a : α) : Leads work o (done a) o := by
  rintro _ _ ⟨⟩
  exact .nil o

theorem Leads.bind (hp : Leads work o p o') (hf : ∀ a, Leads work o' (f a) o'') :
    Leads work o (p.bind f) o'' := by
  intro b t h
  obtain ⟨a, u, v, hu, hv, rfl⟩ := ends_bind_iff.1 h
  exact (hp a u hu).append (hf a b v hv)

theorem leads_noting {note : Note} (hp : Leads work o p o') :
    Leads work o (.noting note p) o' := by
  rintro a _ (_ | _ | _ | _ | _ | h)
  exact .noted (hp a _ h)

theorem leads_execute {conn : Handle} {sql : String} {fetchSize : Int} :
    Leads True (some conn) (execute conn sql fetchSize) (some conn) := by
  rintro _ _ (_ | _ | _ | ⟨⟨⟩⟩)
  exact .executed trivial (.nil _)

theorem leads_closeQuietly {conn : Handle} : Leads work (some conn) (closeQuietly conn) none := by
  rintro _ _ (_ | _ | _ | _ | @⟨_, _, answer, _, _, h⟩)
  refine .closed ?_
  cases answer with
  | ok _ => exact leads_done none () _ _ h
  | error e => exact leads_noting (leads_done none ()) _ _ h

theorem leads_withConnection {conn : Handle} (hp : Leads work (some conn) p (some conn)) :
    Leads work (some conn) (withConnection conn p) none :=
  hp.bind fun a => leads_closeQuietly.bind fun _ => leads_done none a

/-- A connection is made and taken over, or it is not made. -/
theorem leads_asking {url : String} {credentials : Credentials}
    {k : Except DriverError Handle → Program α}
    (hok : ∀ conn, Leads work (some conn) (k (.ok conn)) o)
    (herror : ∀ e, Leads work none (k (.error e)) o) :
    Leads work none (.asking url credentials k) o := by
  rintro a _ (_ | h | h)
  · exact .connected (hok _ a _ h)
  · exact .refused (herror _ a _ h)

end Program

/-! ## Attempts -/

namespace Attempt

variable {ε ε' α β : Type} {x : Attempt ε α} {f : α → Attempt ε β} {o : Option Handle}
  {work : Prop}

/-- An attempt leaves the state of the only connection as it is: none stays none, and an open one
stays open and is the only one that is used. -/
def Keeps (work : Prop) (o : Option Handle) (x : Attempt ε α) : Prop :=
  Program.Leads work o x.run o

theorem keeps_pure (a : α) : Keeps work o (pure a : Attempt ε α) := Program.leads_done o _

theorem keeps_throw (e : ε) : Keeps work o (throw e : Attempt ε α) := Program.leads_done o _

theorem keeps_of_except (r : Except ε α) : Keeps work o (liftM r : Attempt ε α) :=
  Program.leads_done o _

theorem Keeps.bind (hx : x.Keeps work o) (hf : ∀ a, (f a).Keeps work o) :
    Keeps work o (x >>= f) := by
  refine Program.Leads.bind hx fun r => ?_
  cases r with
  | ok a => exact hf a
  | error e => exact Program.leads_done o _

theorem keeps_lift {p : Program α} (hp : Program.Leads work o p o) :
    Keeps work o (liftM p : Attempt ε α) :=
  Program.Leads.bind hp fun _ => Program.leads_done o _

theorem keeps_emit (e : Event) : Keeps work o (liftM (Program.emit e) : Attempt ε Unit) :=
  keeps_lift (Program.leads_noting (Program.leads_done o ()))

theorem Keeps.adapt (hx : x.Keeps work o) (g : ε → ε') : Keeps work o (ExceptT.adapt g x) :=
  Program.Leads.bind hx fun _ => Program.leads_done o _

theorem Keeps.mapM {as : List α} (hf : ∀ a, (f a).Keeps work o) :
    Keeps work o (as.mapM f) := by
  induction as with
  | nil => exact keeps_pure []
  | cons a as ih =>
    rw [List.mapM_cons]
    exact (hf a).bind fun b => ih.bind fun bs => keeps_pure (b :: bs)

end Attempt

end TableExchange
