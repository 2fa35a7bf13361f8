import TableExchange.Event
import TableExchange.Row.Materialize

/-!
# Programs over a database

A `Program` says what to ask of a database and how to go on with each answer. It is plain data, so
that it can be run against any database, and several programs can be run in turns.

* `Program.connect`, `Program.execute`, `Program.close`: the three questions.
* `Program.emit`, `Program.log`, `Program.deliver`, `Program.reject`: what an observer is told.
* `Program.withConnection`: closes a connection however its use ends.
* `Program.bind_assoc`, `Program.bind_done`: programs compose like functions.
-/

namespace TableExchange

abbrev Handle := Nat

/-- What an observer is told. -/
inductive Note where
  | event (e : Event)
  | log (entry : LogEntry)
  /-- A record that goes to the consumer of a scan. -/
  | record (r : Record)
  /-- A row that became no record, as the driver gave it. -/
  | dirty (row : DriverRow) (reason : CellError)
  deriving DecidableEq

/-- What to ask of a database, and how to go on with each answer. -/
inductive Program (α : Type) where
  | done (result : α)
  | asking (url : String) (credentials : Credentials)
      (next : Except DriverError Handle → Program α)
  | executing (conn : Handle) (sql : String) (fetchSize : Int)
      (next : Except DriverError ResultSet → Program α)
  | closing (conn : Handle) (next : Except DriverError Unit → Program α)
  | noting (note : Note) (next : Program α)

namespace Program

variable {α β γ : Type}

/-- Goes on with another program when one is done. -/
def bind : Program α → (α → Program β) → Program β
  | .done a, f => f a
  | .asking url credentials next, f => .asking url credentials fun r => (next r).bind f
  | .executing conn sql fetchSize next, f => .executing conn sql fetchSize fun r => (next r).bind f
  | .closing conn next, f => .closing conn fun r => (next r).bind f
  | .noting note next, f => .noting note (next.bind f)

instance : Monad Program where
  pure := .done
  bind := .bind

theorem done_bind (a : α) (f : α → Program β) : (done a).bind f = f a := rfl

theorem bind_done (p : Program α) : p.bind .done = p := by
  induction p with
  | done a => rfl
  | asking url credentials next ih => simp only [bind, ih]
  | executing conn sql fetchSize next ih => simp only [bind, ih]
  | closing conn next ih => simp only [bind, ih]
  | noting note next ih => simp only [bind, ih]

theorem bind_assoc (p : Program α) (f : α → Program β) (g : β → Program γ) :
    (p.bind f).bind g = p.bind fun a => (f a).bind g := by
  induction p with
  | done a => rfl
  | asking url credentials next ih => simp only [bind, ih]
  | executing conn sql fetchSize next ih => simp only [bind, ih]
  | closing conn next ih => simp only [bind, ih]
  | noting note next ih => simp only [bind, ih]

/-! ## Single steps -/

def connect (url : String) (credentials : Credentials) : Program (Except DriverError Handle) :=
  .asking url credentials .done

/-- Runs a statement, asking the driver to buffer `fetchSize` rows at a time. -/
def execute (conn : Handle) (sql : String) (fetchSize : Int) :
    Program (Except DriverError ResultSet) :=
  .executing conn sql fetchSize .done

def close (conn : Handle) : Program (Except DriverError Unit) := .closing conn .done

def emit (e : Event) : Program Unit := .noting (.event e) (.done ())

def log (entry : LogEntry) : Program Unit := .noting (.log entry) (.done ())

def deliver (r : Record) : Program Unit := .noting (.record r) (.done ())

/-- Hands over a row that became no record. -/
def reject (row : DriverRow) (reason : CellError) : Program Unit :=
  .noting (.dirty row reason) (.done ())

/-- Closes a connection; a failure to do so is only logged. -/
def closeQuietly (conn : Handle) : Program Unit := do
  match ← close conn with
  | .ok () => return ()
  | .error e => log ⟨.warn, "failed to close connection", [("error", e.message)]⟩

/-- Uses a connection and closes it, whatever the result is. -/
def withConnection (conn : Handle) (body : Program α) : Program α := do
  let result ← body
  closeQuietly conn
  return result

end Program

/-- A program that may fail. -/
abbrev Attempt (ε α : Type) := ExceptT ε Program α

end TableExchange
