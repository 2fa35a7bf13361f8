import TableExchange.Database.Program

/-!
# Running programs

Running a program against a `Server` gives its result together with a trace of everything it did.

* `Program.run`: the result, the server's state and the trace of a program.
* `Program.run_bind`: a composed program runs its parts one after the other.
* `Trace.notes`, `Trace.events`: what an observer of a trace was told.
-/

namespace TableExchange

/-- How a database answers, with a state of its own. It may answer in any way. -/
structure Server (σ : Type) where
  connect : σ → String → Credentials → Except DriverError Unit × σ
  execute : σ → Handle → String → Int → Except DriverError ResultSet × σ
  close : σ → Handle → Except DriverError Unit × σ

inductive Action where
  | connected (conn : Handle) (url : String) (credentials : Credentials)
  | refused (url : String) (credentials : Credentials) (error : DriverError)
  | executed (conn : Handle) (sql : String) (fetchSize : Int)
  | closed (conn : Handle)
  | noted (note : Note)
  deriving DecidableEq

/-- Everything that a program did, in order. -/
abbrev Trace := List Action

/-- What a run comes to: the result, the server's state, the number of the next connection, and
everything that was done. -/
structure Outcome (σ α : Type) where
  result : α
  state : σ
  next : Handle
  trace : Trace

/-- The outcome with actions before all others. -/
def Outcome.after {σ α : Type} (before : Trace) (o : Outcome σ α) : Outcome σ α :=
  { o with trace := before ++ o.trace }

namespace Program

variable {σ α β : Type}

/-- Runs a program. Connections are numbered from `next` on. -/
def run (server : Server σ) : Program α → σ → Handle → Outcome σ α
  | .done a, s, next => ⟨a, s, next, []⟩
  | .asking url credentials k, s, next =>
    match server.connect s url credentials with
    | (.ok (), s) =>
      ((k (.ok next)).run server s (next + 1)).after [.connected next url credentials]
    | (.error e, s) => ((k (.error e)).run server s next).after [.refused url credentials e]
  | .executing conn sql fetchSize k, s, next =>
    let (answer, s) := server.execute s conn sql fetchSize
    ((k answer).run server s next).after [.executed conn sql fetchSize]
  | .closing conn k, s, next =>
    let (answer, s) := server.close s conn
    ((k answer).run server s next).after [.closed conn]
  | .noting note k, s, next => (k.run server s next).after [.noted note]

theorem run_done (server : Server σ) (a : α) (s : σ) (next : Handle) :
    (done a).run server s next = ⟨a, s, next, []⟩ := rfl

theorem run_executing (server : Server σ) (conn : Handle) (sql : String) (fetchSize : Int)
    (k : Except DriverError ResultSet → Program α) (s : σ) (next : Handle) :
    (executing conn sql fetchSize k).run server s next =
      let answer := server.execute s conn sql fetchSize
      ((k answer.1).run server answer.2 next).after [.executed conn sql fetchSize] := rfl

theorem run_bind (server : Server σ) (p : Program α) (f : α → Program β) (s : σ) (next : Handle) :
    (p.bind f).run server s next =
      let o := p.run server s next
      ((f o.result).run server o.state o.next).after o.trace := by
  induction p generalizing s next with
  | done a => rfl
  | asking url credentials k ih =>
    simp only [bind, run]
    rcases server.connect s url credentials with ⟨_ | _, s'⟩ <;>
      simp only [ih, Outcome.after, List.append_assoc]
  | executing conn sql fetchSize k ih =>
    simp only [bind, run, ih, Outcome.after, List.append_assoc]
  | closing conn k ih => simp only [bind, run, ih, Outcome.after, List.append_assoc]
  | noting note k ih => simp only [bind, run, ih, Outcome.after, List.append_assoc]

end Program

/-! ## Views of a trace -/

namespace Trace

def note? : Action → Option Note
  | .noted n => some n
  | _ => none

def event? : Note → Option Event
  | .event e => some e
  | _ => none

/-- Everything that an observer was told. -/
def notes (trace : Trace) : List Note := trace.filterMap note?

def events (trace : Trace) : List Event := trace.notes.filterMap event?

theorem notes_append (s t : Trace) : notes (s ++ t) = notes s ++ notes t :=
  List.filterMap_append

theorem events_append (s t : Trace) : events (s ++ t) = events s ++ events t := by
  simp [events, notes_append]

end Trace

end TableExchange
