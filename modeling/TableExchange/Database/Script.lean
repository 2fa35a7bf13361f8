import TableExchange.Database.Run

/-!
# Scripted databases

A `Script` answers statements from a table, so that programs can be run without a database.

* `Script.server`: the script as a server. Its state counts the connections made to each URL.
-/

namespace TableExchange

abbrev Answer := Except DriverError ResultSet

/-- Answers to statements, and which connections succeed. -/
structure Script where
  /-- Answers by statement or by a part of one. -/
  answers : List (String × Answer) := []
  unreachable : List String := []
  /-- URLs that connect only so many times. -/
  limited : List (String × Nat) := []
  closeFails : Bool := false

namespace Script

def occursIn (part : List Char) : List Char → Bool
  | [] => part.isEmpty
  | c :: rest => part.isPrefixOf (c :: rest) || occursIn part rest

/-- The answer to a statement: the first for exactly this text, or else for a part of it. -/
def answer (s : Script) (sql : String) : Answer :=
  let exact := s.answers.find? (·.1 = sql)
  match exact.or (s.answers.find? fun a => occursIn a.1.toList sql.toList) with
  | some (_, answer) => answer
  | none => .error (.query ("no scripted response for: " ++ sql))

/-- Whether a URL still connects after so many connections. -/
def accepts (s : Script) (url : String) (made : Nat) : Bool :=
  !s.unreachable.contains url && s.limited.all fun l => l.1 != url || made < l.2

/-- The script as a server, whose state is the URLs connected to so far. -/
def server (s : Script) : Server (List String) where
  connect urls url _ :=
    if s.accepts url (urls.count url) then (.ok (), url :: urls)
    else (.error (.connect url "connection refused"), urls)
  execute urls _ sql _ := (s.answer sql, urls)
  close urls _ := (if s.closeFails then .error .closed else .ok (), urls)

end Script

end TableExchange
