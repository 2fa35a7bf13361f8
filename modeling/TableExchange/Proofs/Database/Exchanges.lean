import TableExchange.Proofs.Database.Endings

/-!
# What programs and databases say to each other

A trace leaves out what the database answers to a statement. An exchange has the question and the
answer, and a talk of a program is a sequence of exchanges up to its end.

* `Program.Steps`, `Program.Talks`: one exchange of a program, and all of them.
* `Program.ends_iff_talks`: an ending is a talk, seen without the answers.
* `Program.talks_bind_iff`, `Program.talks_withConnection`: the talks of a composed program.
* `Replies.talks_run`: runs against a database that answers the same question always alike.
-/

namespace TableExchange

/-- A question to a database with its answer, or something that an observer is told. -/
inductive Exchange where
  | connect (url : String) (credentials : Credentials) (answer : Except DriverError Handle)
  | execute (conn : Handle) (sql : String) (fetchSize : Int)
      (answer : Except DriverError ResultSet)
  | close (conn : Handle) (answer : Except DriverError Unit)
  | tell (note : Note)

/-- What an exchange leaves in a trace. -/
def Exchange.action : Exchange → Action
  | .connect url credentials (.ok conn) => .connected conn url credentials
  | .connect url credentials (.error e) => .refused url credentials e
  | .execute conn sql fetchSize _ => .executed conn sql fetchSize
  | .close conn _ => .closed conn
  | .tell note => .noted note

namespace Program

variable {α β : Type} {a : α} {b : β} {p p' : Program α} {x : Exchange} {log : List Exchange}

/-- The next exchange of a program, and what is left of the program behind it. -/
inductive Steps : Program α → Exchange → Program α → Prop
  | asking {url : String} {credentials : Credentials} {k : Except DriverError Handle → Program α}
      (answer : Except DriverError Handle) :
      Steps (.asking url credentials k) (.connect url credentials answer) (k answer)
  | executing {conn : Handle} {sql : String} {fetchSize : Int}
      {k : Except DriverError ResultSet → Program α} (answer : Except DriverError ResultSet) :
      Steps (.executing conn sql fetchSize k) (.execute conn sql fetchSize answer) (k answer)
  | closing {conn : Handle} {k : Except DriverError Unit → Program α}
      (answer : Except DriverError Unit) :
      Steps (.closing conn k) (.close conn answer) (k answer)
  | noting {note : Note} {k : Program α} : Steps (.noting note k) (.tell note) k

/-- The exchanges of a program up to its end, and its result. -/
inductive Talks : Program α → List Exchange → α → Prop
  | done (a : α) : Talks (.done a) [] a
  | step {p p' : Program α} {x : Exchange} {log : List Exchange} {a : α} (h : p.Steps x p')
      (ht : Talks p' log a) : Talks p (x :: log) a

theorem talks_done_iff {a' : α} : (done a).Talks log a' ↔ log = [] ∧ a' = a := by
  constructor
  · rintro (_ | ⟨⟨⟩, _⟩)
    exact ⟨rfl, rfl⟩
  · rintro ⟨rfl, rfl⟩
    exact .done a'

/-- An ending is a talk without the answers. -/
theorem ends_iff_talks {t : Trace} :
    p.Ends a t ↔ ∃ log, p.Talks log a ∧ t = log.map Exchange.action := by
  constructor
  · intro h
    induction h with
    | done a => exact ⟨[], .done a, rfl⟩
    | @connected _ _ _ conn _ _ _ ih =>
      obtain ⟨log, hlog, rfl⟩ := ih
      exact ⟨_, .step (.asking (.ok conn)) hlog, rfl⟩
    | @refused _ _ _ e _ _ _ ih =>
      obtain ⟨log, hlog, rfl⟩ := ih
      exact ⟨_, .step (.asking (.error e)) hlog, rfl⟩
    | @executed _ _ _ _ answer _ _ _ ih =>
      obtain ⟨log, hlog, rfl⟩ := ih
      exact ⟨_, .step (.executing answer) hlog, rfl⟩
    | @closed _ _ answer _ _ _ ih =>
      obtain ⟨log, hlog, rfl⟩ := ih
      exact ⟨_, .step (.closing answer) hlog, rfl⟩
    | noted _ ih =>
      obtain ⟨log, hlog, rfl⟩ := ih
      exact ⟨_, .step .noting hlog, rfl⟩
  · rintro ⟨log, h, rfl⟩
    induction h with
    | done a => exact .done a
    | step h _ ih =>
      cases h with
      | asking answer =>
        cases answer with
        | ok conn => exact .connected ih
        | error e => exact .refused ih
      | executing answer => exact .executed ih
      | closing answer => exact .closed ih
      | noting => exact .noted ih

/-! ## Composed programs -/

theorem Steps.bind (h : p.Steps x p') (f : α → Program β) : (p.bind f).Steps x (p'.bind f) := by
  cases h with
  | asking answer => exact .asking answer
  | executing answer => exact .executing answer
  | closing answer => exact .closing answer
  | noting => exact .noting

/-- A composed program goes on with its second part when the first is done. -/
theorem steps_bind_iff {f : α → Program β} {q : Program β} :
    (p.bind f).Steps x q ↔
      (∃ a, p = .done a ∧ (f a).Steps x q) ∨ ∃ p', p.Steps x p' ∧ q = p'.bind f := by
  constructor
  · intro h
    cases p with
    | done a => exact .inl ⟨a, rfl, h⟩
    | asking url credentials k =>
      cases h with
      | asking answer => exact .inr ⟨_, .asking answer, rfl⟩
    | executing conn sql fetchSize k =>
      cases h with
      | executing answer => exact .inr ⟨_, .executing answer, rfl⟩
    | closing conn k =>
      cases h with
      | closing answer => exact .inr ⟨_, .closing answer, rfl⟩
    | noting note k =>
      cases h with
      | noting => exact .inr ⟨_, .noting, rfl⟩
  · rintro (⟨a, rfl, h⟩ | ⟨p', h, rfl⟩)
    · exact h
    · exact h.bind f

theorem Talks.bind {f : α → Program β} {u v : List Exchange} (h : p.Talks u a)
    (hf : (f a).Talks v b) : (p.bind f).Talks (u ++ v) b := by
  induction h with
  | done a => exact hf
  | step h _ ih => exact .step (h.bind f) (ih hf)

theorem talks_bind_iff {f : α → Program β} :
    (p.bind f).Talks log b ↔ ∃ a u v, p.Talks u a ∧ (f a).Talks v b ∧ log = u ++ v := by
  constructor
  · intro h
    generalize hq : p.bind f = q at h
    induction h generalizing p with
    | done b =>
      cases p with
      | done a => exact ⟨a, [], [], .done a, by rw [← done_bind a f, hq]; exact .done b, rfl⟩
      | _ => cases hq
    | @step q q' x log b hstep htalk ih =>
      subst hq
      rcases steps_bind_iff.1 hstep with ⟨a, rfl, hf⟩ | ⟨p', hp, rfl⟩
      · exact ⟨a, [], x :: log, .done a, .step hf htalk, rfl⟩
      · obtain ⟨a, u, v, hu, hv, rfl⟩ := ih rfl
        exact ⟨a, x :: u, v, .step hp hu, hv, rfl⟩
  · rintro ⟨a, u, v, hu, hv, rfl⟩
    exact hu.bind hv

/-- The use of a connection is followed by closing it, and by a log entry if that fails. -/
theorem talks_withConnection {conn : Handle} {body : Program α}
    (h : (withConnection conn body).Talks log a) :
    ∃ (said : List Exchange) (answer : Except DriverError Unit) (logged : List LogEntry),
      body.Talks said a ∧
        log = said ++ .close conn answer :: logged.map fun entry => .tell (.log entry) := by
  obtain ⟨result, said, _, hbody, hrest, rfl⟩ := talks_bind_iff.1 h
  obtain ⟨_, closing, _, hclose, hdone, rfl⟩ := talks_bind_iff.1 hrest
  obtain ⟨rfl, rfl⟩ := talks_done_iff.1 hdone
  rw [List.append_nil]
  obtain _ | ⟨_ | _ | answer, hlog⟩ := hclose
  cases answer with
  | ok _ =>
    obtain ⟨rfl, -⟩ := talks_done_iff.1 hlog
    exact ⟨said, .ok (), [], hbody, rfl⟩
  | error e =>
    obtain _ | ⟨_ | _ | _ | _, hdone⟩ := hlog
    obtain ⟨rfl, -⟩ := talks_done_iff.1 hdone
    exact ⟨said, .error e, [_], hbody, rfl⟩

end Program

/-! ## Databases that always answer alike -/

/-- What a database answers: to the wish for a connection by its URL and credentials, and to a
statement by the URL of the connection, the text and the fetch size. -/
structure Replies where
  connect : String → Credentials → Except DriverError Unit
  execute : (url sql : String) → (fetchSize : Int) → Except DriverError ResultSet
  close : Handle → Except DriverError Unit

namespace Replies

variable {r : Replies} {urls : List String} {log sub : List Exchange}

/-- The database that gives the replies. It remembers the URLs of its connections. -/
def server (r : Replies) : Server (List String) where
  connect urls url credentials :=
    match r.connect url credentials with
    | .ok () => (.ok (), urls ++ [url])
    | .error e => (.error e, urls)
  execute urls conn sql fetchSize :=
    match urls[conn]? with
    | some url => (r.execute url sql fetchSize, urls)
    | none => (.error .closed, urls)
  close urls conn := (r.close conn, urls)

/-- The second exchange, if it is a statement on the connection that the first has made, has the
answer of the replies. -/
def Answers (r : Replies) (x y : Exchange) : Prop :=
  ∀ url credentials conn sql fetchSize answer, x = .connect url credentials (.ok conn) →
    y = .execute conn sql fetchSize answer → answer = r.execute url sql fetchSize

/-- The answers in a talk are those of the replies. -/
structure Gave (r : Replies) (log : List Exchange) : Prop where
  connects : ∀ url credentials answer, .connect url credentials answer ∈ log →
    answer.map (fun _ => ()) = r.connect url credentials
  answers : log.Pairwise r.Answers

/-- The statements on connections that are there already have the answers of the replies, too. -/
def Knows (r : Replies) (urls : List String) (log : List Exchange) : Prop :=
  ∀ conn sql fetchSize answer, .execute conn sql fetchSize answer ∈ log →
    ∀ url, urls[conn]? = some url → answer = r.execute url sql fetchSize

theorem Gave.sublist (h : r.Gave log) (hsub : sub.Sublist log) : r.Gave sub where
  connects url credentials answer hmem := h.connects url credentials answer (hsub.subset hmem)
  answers := h.answers.sublist hsub

theorem Gave.cons_connect {url : String} {credentials : Credentials}
    {answer : Except DriverError Handle}
    (hconnect : answer.map (fun _ => ()) = r.connect url credentials)
    (hanswers : ∀ y ∈ log, r.Answers (.connect url credentials answer) y) (h : r.Gave log) :
    r.Gave (.connect url credentials answer :: log) where
  connects url' credentials' answer' hmem := by
    rcases List.mem_cons.1 hmem with heq | hmem
    · cases heq
      exact hconnect
    · exact h.connects url' credentials' answer' hmem
  answers := List.pairwise_cons.2 ⟨hanswers, h.answers⟩

/-- What is said on a new connection has the answers of the replies, since these are known. -/
theorem Gave.cons_connected {url : String} {credentials : Credentials}
    (hconnect : r.connect url credentials = .ok ()) (h : r.Gave log)
    (hknows : r.Knows (urls ++ [url]) log) :
    r.Gave (.connect url credentials (.ok urls.length) :: log) := by
  refine h.cons_connect hconnect.symm fun y hy => ?_
  rintro url' credentials' conn sql fetchSize answer hx rfl
  cases hx
  exact hknows _ _ _ _ hy url (by simp)

theorem Gave.cons_refused {url : String} {credentials : Credentials} {e : DriverError}
    (hconnect : r.connect url credentials = .error e) (h : r.Gave log) :
    r.Gave (.connect url credentials (.error e) :: log) := by
  refine h.cons_connect hconnect.symm fun y hy => ?_
  intro url' credentials' conn sql fetchSize answer hx
  cases hx

/-- An exchange that makes no connection says nothing of those that follow. -/
theorem Gave.cons_other {x : Exchange}
    (hx : ∀ url credentials answer, x ≠ .connect url credentials answer) (h : r.Gave log) :
    r.Gave (x :: log) where
  connects url credentials answer hmem := by
    rcases List.mem_cons.1 hmem with heq | hmem
    · exact absurd heq.symm (hx url credentials answer)
    · exact h.connects url credentials answer hmem
  answers := List.pairwise_cons.2 ⟨fun _ _ _ _ _ _ _ _ heq => absurd heq (hx _ _ _), h.answers⟩

/-- With fewer connections, fewer statements are on them. -/
theorem Knows.of_append {url : String} (h : r.Knows (urls ++ [url]) log) : r.Knows urls log := by
  intro conn sql fetchSize answer hmem url' hurl
  refine h conn sql fetchSize answer hmem url' ?_
  rwa [List.getElem?_append_left (List.getElem?_eq_some_iff.1 hurl).1]

theorem Knows.cons_execute {conn : Handle} {sql : String} {fetchSize : Int}
    {answer : Except DriverError ResultSet}
    (hreply : ∀ url, urls[conn]? = some url → answer = r.execute url sql fetchSize)
    (h : r.Knows urls log) : r.Knows urls (.execute conn sql fetchSize answer :: log) := by
  intro conn' sql' fetchSize' answer' hmem url hurl
  rcases List.mem_cons.1 hmem with heq | hmem
  · cases heq
    exact hreply url hurl
  · exact h conn' sql' fetchSize' answer' hmem url hurl

theorem Knows.cons_other {x : Exchange}
    (hx : ∀ conn sql fetchSize answer, x ≠ .execute conn sql fetchSize answer)
    (h : r.Knows urls log) : r.Knows urls (x :: log) := by
  intro conn sql fetchSize answer hmem
  rcases List.mem_cons.1 hmem with heq | hmem
  · exact absurd heq.symm (hx conn sql fetchSize answer)
  · exact h conn sql fetchSize answer hmem

/-- The database remembers its connections, and answers on them as the replies do. -/
theorem execute_server (r : Replies) (urls : List String) (conn : Handle) (sql : String)
    (fetchSize : Int) :
    ∃ answer, r.server.execute urls conn sql fetchSize = (answer, urls) ∧
      ∀ url, urls[conn]? = some url → answer = r.execute url sql fetchSize := by
  cases hurl : urls[conn]? with
  | none => exact ⟨.error .closed, by simp only [server, hurl], by simp⟩
  | some url => exact ⟨r.execute url sql fetchSize, by simp only [server, hurl], by simp⟩

/-- A talk of a program that leads to an outcome, with the answers of the replies. -/
structure Spoken {α : Type} (r : Replies) (urls : List String) (p : Program α)
    (log : List Exchange) (o : Outcome (List String) α) : Prop where
  talks : p.Talks log o.result
  trace : o.trace = log.map Exchange.action
  gave : r.Gave log
  knows : r.Knows urls log

theorem Spoken.step {α : Type} {p p' : Program α} {x : Exchange} {known : List String}
    {o : Outcome (List String) α} (h : r.Spoken known p' log o) (hstep : p.Steps x p')
    (hgave : r.Gave (x :: log)) (hknows : r.Knows urls (x :: log)) :
    r.Spoken urls p (x :: log) (o.after [x.action]) where
  talks := .step hstep h.talks
  trace := congrArg (x.action :: ·) h.trace
  gave := hgave
  knows := hknows

/-- Every run is a talk with the answers of the replies. -/
theorem talks_run {α : Type} (r : Replies) (p : Program α) (urls : List String) :
    ∃ log, r.Spoken urls p log (p.run r.server urls urls.length) := by
  induction p generalizing urls with
  | done a => exact ⟨[], .done a, rfl, ⟨by simp, .nil⟩, by simp [Knows]⟩
  | asking url credentials k ih =>
    cases hconnect : r.connect url credentials with
    | ok made =>
      have hrun : (Program.asking url credentials k).run r.server urls urls.length =
          ((k (.ok urls.length)).run r.server (urls ++ [url]) (urls.length + 1)).after
            [.connected urls.length url credentials] := by
        simp only [Program.run, server, hconnect]
      obtain ⟨log, h⟩ := ih (.ok urls.length) (urls ++ [url])
      rw [List.length_append, List.length_singleton] at h
      rw [hrun]
      exact ⟨_, h.step (.asking (.ok urls.length)) (h.gave.cons_connected hconnect h.knows)
        (h.knows.of_append.cons_other (by simp))⟩
    | error e =>
      have hrun : (Program.asking url credentials k).run r.server urls urls.length =
          ((k (.error e)).run r.server urls urls.length).after [.refused url credentials e] := by
        simp only [Program.run, server, hconnect]
      obtain ⟨log, h⟩ := ih (.error e) urls
      rw [hrun]
      exact ⟨_, h.step (.asking (.error e)) (h.gave.cons_refused hconnect)
        (h.knows.cons_other (by simp))⟩
  | executing conn sql fetchSize k ih =>
    obtain ⟨answer, hanswer, hreply⟩ := r.execute_server urls conn sql fetchSize
    obtain ⟨log, h⟩ := ih answer urls
    rw [Program.run_executing, hanswer]
    exact ⟨_, h.step (.executing answer) (h.gave.cons_other (by simp))
      (h.knows.cons_execute hreply)⟩
  | closing conn k ih =>
    obtain ⟨log, h⟩ := ih (r.close conn) urls
    exact ⟨_, h.step (.closing (r.close conn)) (h.gave.cons_other (by simp))
      (h.knows.cons_other (by simp))⟩
  | noting note k ih =>
    obtain ⟨log, h⟩ := ih urls
    exact ⟨_, h.step .noting (h.gave.cons_other (by simp)) (h.knows.cons_other (by simp))⟩

end Replies

end TableExchange
