import TableExchange.Number.Binary64

/-!
# Documents

A document is a tree of objects, lists and scalars. Whole numbers are kept exactly; all others are
binary64 numbers. The members of an object are sorted by key, each key once.

* `Json.insertMember`: adds a member or replaces the one of the same key.
* `Json.member?`, `Json.item?`: one step down into an object or a list.
-/

namespace TableExchange

inductive JsonNumber where
  | integer (n : Int)
  | float (x : Binary64)
  deriving DecidableEq, Repr

/-- A document. -/
inductive Json where
  | null
  | bool (b : Bool)
  | number (n : JsonNumber)
  | string (s : String)
  | array (items : List Json)
  | object (members : List (String × Json))
  deriving Repr

namespace Json

/-- Adds a member in the order of keys; a member of the same key is replaced. -/
def insertMember (key : String) (value : Json) :
    List (String × Json) → List (String × Json)
  | [] => [(key, value)]
  | (k, v) :: rest =>
    if key < k then (key, value) :: (k, v) :: rest
    else if key = k then (key, value) :: rest
    else (k, v) :: insertMember key value rest

/-- The object with the given members; of two with one key the later counts. -/
def ofMembers (members : List (String × Json)) : Json :=
  .object (members.foldl (fun sorted m => insertMember m.1 m.2 sorted) [])

def member? (key : String) : Json → Option Json
  | .object members => (members.find? (·.1 = key)).map (·.2)
  | _ => none

def item? (index : Nat) : Json → Option Json
  | .array items => items[index]?
  | _ => none

def isNull : Json → Bool
  | .null => true
  | _ => false

def int (n : Int) : Json := .number (.integer n)

end Json

end TableExchange
