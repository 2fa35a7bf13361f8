import TableExchange.Database.Program

/-!
# Taking turns

Several programs, each of a worker of its own, are run step by step in turns. The result is again
one program, so every order of the steps has its own trace.

* `Program.interleave`: runs workers in the order of a schedule, so many at a time at most.
* `Program.inSequence`: runs programs one after the other.
-/

namespace TableExchange

/-- A program of several that take turns, and whether it has begun. -/
structure Worker (α : Type) where
  begun : Bool
  rest : Program α

namespace Worker

def fresh {α : Type} (p : Program α) : Worker α := ⟨false, p⟩

/-- Whether a worker is at work: begun, and not done. -/
def isActive {α : Type} (w : Worker α) : Bool :=
  match w.rest with
  | .done _ => false
  | _ => w.begun

end Worker

namespace Program

variable {α β : Type}

/-- The rest of a program after its next step, as far as the answer to that step. -/
def afterStep (p : Program α) (resume : Program α → Program β) : Program β :=
  match p with
  | .done a => resume (.done a)
  | .asking url credentials next => .asking url credentials fun r => resume (next r)
  | .executing conn sql fetchSize next => .executing conn sql fetchSize fun r => resume (next r)
  | .closing conn next => .closing conn fun r => resume (next r)
  | .noting note next => .noting note (resume next)

def inSequence : List (Program α) → Program (List α)
  | [] => .done []
  | p :: rest => p.bind fun a => (inSequence rest).bind fun as => .done (a :: as)

/-- Runs workers in turns: each entry of the schedule names the worker that takes the next step. A
worker that has not begun is passed over while `limit` others are at work. After the schedule, the
workers finish one after the other. -/
def interleave (limit : Nat) : (schedule : List Nat) → List (Worker α) → Program (List α)
  | [], workers => inSequence (workers.map (·.rest))
  | i :: schedule, workers =>
    match workers[i]? with
    | none => interleave limit schedule workers
    | some w =>
      if w.begun || decide (workers.countP (·.isActive) < limit) then
        w.rest.afterStep fun rest => interleave limit schedule (workers.set i ⟨true, rest⟩)
      else interleave limit schedule workers

end Program

end TableExchange