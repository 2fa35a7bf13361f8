import TableExchange.Database.Run

/-!
# How programs can end

With which result and which trace a program ends depends on what the database answers. What all of
its endings have in common is read off the program: a composed one ends as its parts do, one after
the other.

* `Program.Ends`: a program ends with a result and a trace, for some answers.
* `Program.ends_run`: every run of a program is such an ending.
* `Program.ends_bind_iff`: the endings of a composed program.
* `ClosesOnce`, `Program.ends_closeQuietly_iff`: how a connection is closed.
* `Attempt.ends_bind_iff`: of one that may fail.
-/

namespace TableExchange

/-! ## Programs -/

/-- A program ends with a result and a trace, if the database gives the right answers. -/
inductive Program.Ends {α : Type} : Program α → α → Trace → Prop
  | done (a : α) : Ends (.done a) a []
  | connected {url : String} {credentials : Credentials}
      {k : Except DriverError Handle → Program α} {conn : Handle} {a : α} {trace : Trace}
      (h : Ends (k (.ok conn)) a trace) :
      Ends (.asking url credentials k) a (.connected conn url credentials :: trace)
  | refused {url : String} {credentials : Credentials}
      {k : Except DriverError Handle → Program α} {e : DriverError} {a : α} {trace : Trace}
      (h : Ends (k (.error e)) a trace) :
      Ends (.asking url credentials k) a (.refused url credentials e :: trace)
  | executed {conn : Handle} {sql : String} {fetchSize : Int}
      {k : Except DriverError ResultSet → Program α} {answer : Except DriverError ResultSet}
      {a : α} {trace : Trace} (h : Ends (k answer) a trace) :
      Ends (.executing conn sql fetchSize k) a (.executed conn sql fetchSize :: trace)
  | closed {conn : Handle} {k : Except DriverError Unit → Program α}
      {answer : Except DriverError Unit} {a : α} {trace : Trace} (h : Ends (k answer) a trace) :
      Ends (.closing conn k) a (.closed conn :: trace)
  | noted {note : Note} {k : Program α} {a : α} {trace : Trace} (h : Ends k a trace) :
      Ends (.noting note k) a (.noted note :: trace)

/-- A connection is closed once. Where this fails, it is logged. -/
inductive ClosesOnce (conn : Handle) : Trace → Prop
  | quietly : ClosesOnce conn [.closed conn]
  | failing (e : DriverError) : ClosesOnce conn [.closed conn,
      .noted (.log ⟨.warn, "failed to close connection", [("error", e.message)]⟩)]

namespace Program

variable {α β σ : Type} {a : α} {b : β} {t : Trace}

instance : LawfulMonad Program := .mk' Program bind_done (fun _ _ => rfl) bind_assoc

/-- Every run is an ending. -/
theorem ends_run (server : Server σ) (p : Program α) (s : σ) (next : Handle) :
    p.Ends (p.run server s next).result (p.run server s next).trace := by
  induction p generalizing s next with
  | done a => exact .done a
  | asking url credentials k ih =>
    rw [run]
    split
    · exact .connected (ih _ _ _)
    · exact .refused (ih _ _ _)
  | executing conn sql fetchSize k ih => exact .executed (ih _ _ _)
  | closing conn k ih => exact .closed (ih _ _ _)
  | noting note k ih => exact .noted (ih _ _)

theorem ends_done_iff {a' : α} : (done a).Ends a' t ↔ a' = a ∧ t = [] := by
  constructor
  · rintro ⟨⟩
    exact ⟨rfl, rfl⟩
  · rintro ⟨rfl, rfl⟩
    exact .done a'

theorem Ends.bind {p : Program α} {f : α → Program β} {t u : Trace} (h : p.Ends a t)
    (hf : (f a).Ends b u) : (p.bind f).Ends b (t ++ u) := by
  induction h with
  | done a => exact hf
  | connected _ ih => exact .connected (ih hf)
  | refused _ ih => exact .refused (ih hf)
  | executed _ ih => exact .executed (ih hf)
  | closed _ ih => exact .closed (ih hf)
  | noted _ ih => exact .noted (ih hf)

/-- A composed program ends as its parts do, one after the other. -/
theorem ends_bind_iff {p : Program α} {f : α → Program β} :
    (p.bind f).Ends b t ↔ ∃ a u v, p.Ends a u ∧ (f a).Ends b v ∧ t = u ++ v := by
  constructor
  · intro h
    induction p generalizing t with
    | done a => exact ⟨a, [], t, .done a, h, rfl⟩
    | asking url credentials k ih =>
      cases h with
      | connected h =>
        obtain ⟨a, u, v, hp, hf, rfl⟩ := ih _ h
        exact ⟨a, _, v, .connected hp, hf, rfl⟩
      | refused h =>
        obtain ⟨a, u, v, hp, hf, rfl⟩ := ih _ h
        exact ⟨a, _, v, .refused hp, hf, rfl⟩
    | executing conn sql fetchSize k ih =>
      cases h with
      | executed h =>
        obtain ⟨a, u, v, hp, hf, rfl⟩ := ih _ h
        exact ⟨a, _, v, .executed hp, hf, rfl⟩
    | closing conn k ih =>
      cases h with
      | closed h =>
        obtain ⟨a, u, v, hp, hf, rfl⟩ := ih _ h
        exact ⟨a, _, v, .closed hp, hf, rfl⟩
    | noting note k ih =>
      cases h with
      | noted h =>
        obtain ⟨a, u, v, hp, hf, rfl⟩ := ih h
        exact ⟨a, _, v, .noted hp, hf, rfl⟩
  · rintro ⟨a, u, v, hp, hf, rfl⟩
    exact hp.bind hf

theorem ends_closeQuietly_iff {conn : Handle} {u : Unit} :
    (closeQuietly conn).Ends u t ↔ ClosesOnce conn t := by
  constructor
  · intro h
    cases h with
    | @closed _ _ answer _ _ h =>
      cases answer with
      | ok _ =>
        cases h
        exact .quietly
      | error e =>
        cases h with
        | noted h =>
          cases h
          exact .failing e
  · intro h
    cases h with
    | quietly => exact @Ends.closed _ conn _ (.ok ()) _ _ (.done ())
    | failing e => exact @Ends.closed _ conn _ (.error e) _ _ (.noted (.done ()))

/-- Closing a connection tells of no event. -/
theorem events_of_ends_closeQuietly {conn : Handle} {u : Unit}
    (h : (closeQuietly conn).Ends u t) : t.events = [] := by
  cases ends_closeQuietly_iff.1 h with
  | quietly => rfl
  | failing e => rfl

/-- The use of a connection is followed by closing it. -/
theorem ends_withConnection {conn : Handle} {body : Program α}
    (h : (withConnection conn body).Ends a t) :
    ∃ u v, body.Ends a u ∧ (closeQuietly conn).Ends () v ∧ t = u ++ v := by
  obtain ⟨result, u, _, hbody, hrest, rfl⟩ := ends_bind_iff.1 h
  obtain ⟨_, v, _, hclose, hdone, rfl⟩ := ends_bind_iff.1 hrest
  obtain ⟨rfl, rfl⟩ := ends_done_iff.1 hdone
  exact ⟨u, v, hbody, hclose, by rw [List.append_nil]⟩

end Program

/-! ## Attempts -/

namespace Attempt

variable {ε ε' α β : Type} {x : Attempt ε α} {f : α → Attempt ε β} {r : Except ε β} {a : α} {b : β}
  {e : ε} {t : Trace}

/-- An attempt ends with a value or a failure and a trace, if the database gives the right
answers. -/
def Ends (x : Attempt ε α) (r : Except ε α) (t : Trace) : Prop := x.run.Ends r t

theorem ends_bind_iff :
    Ends (x >>= f) r t ↔
      (∃ a u v, x.Ends (.ok a) u ∧ (f a).Ends r v ∧ t = u ++ v) ∨
        ∃ e, r = .error e ∧ x.Ends (.error e) t := by
  show (Program.bind x.run _).Ends r t ↔ _
  rw [Program.ends_bind_iff]
  constructor
  · rintro ⟨a | a, u, v, hx, hf, rfl⟩
    · obtain ⟨rfl, rfl⟩ := Program.ends_done_iff.1 hf
      exact .inr ⟨a, rfl, by rwa [List.append_nil]⟩
    · exact .inl ⟨a, u, v, hx, hf, rfl⟩
  · rintro (⟨a, u, v, hx, hf, rfl⟩ | ⟨e, rfl, hx⟩)
    · exact ⟨.ok a, u, v, hx, hf, rfl⟩
    · exact ⟨.error e, t, [], hx, .done _, (List.append_nil t).symm⟩

theorem ends_bind_ok :
    Ends (x >>= f) (.ok b) t ↔ ∃ a u v, x.Ends (.ok a) u ∧ (f a).Ends (.ok b) v ∧ t = u ++ v := by
  simp [ends_bind_iff]

theorem ends_pure_iff {r : Except ε α} : Ends (pure a) r t ↔ r = .ok a ∧ t = [] :=
  Program.ends_done_iff

theorem ends_throw_iff {r : Except ε α} : Ends (throw e) r t ↔ r = .error e ∧ t = [] :=
  Program.ends_done_iff

theorem ends_liftM_iff {p : Program α} {r : Except ε α} :
    Ends (liftM p) r t ↔ ∃ a, r = .ok a ∧ p.Ends a t := by
  show (Program.bind p _).Ends r t ↔ _
  rw [Program.ends_bind_iff]
  constructor
  · rintro ⟨a, u, v, hp, h, rfl⟩
    obtain ⟨rfl, rfl⟩ := Program.ends_done_iff.1 h
    exact ⟨a, rfl, by rwa [List.append_nil]⟩
  · rintro ⟨a, rfl, hp⟩
    exact ⟨a, t, [], hp, .done _, (List.append_nil t).symm⟩

theorem ends_emit_iff {event : Event} {r : Except ε Unit} :
    Ends (liftM (Program.emit event)) r t ↔ r = .ok () ∧ t = [.noted (.event event)] := by
  rw [ends_liftM_iff]
  constructor
  · rintro ⟨_, rfl, h⟩
    cases h with
    | noted h =>
      cases h
      exact ⟨rfl, rfl⟩
  · rintro ⟨rfl, rfl⟩
    exact ⟨(), rfl, .noted (.done ())⟩

/-- The failures of an attempt, reported as others. -/
theorem ends_adapt_iff {g : ε → ε'} {r : Except ε' α} :
    Ends (ExceptT.adapt g x) r t ↔ ∃ r', r = r'.mapError g ∧ x.Ends r' t := by
  show (Program.bind x.run _).Ends r t ↔ _
  rw [Program.ends_bind_iff]
  constructor
  · rintro ⟨r', u, v, hx, h, rfl⟩
    obtain ⟨rfl, rfl⟩ := Program.ends_done_iff.1 h
    exact ⟨r', rfl, by rwa [List.append_nil]⟩
  · rintro ⟨r', rfl, hx⟩
    exact ⟨r', t, [], hx, .done _, (List.append_nil t).symm⟩

end Attempt

end TableExchange
