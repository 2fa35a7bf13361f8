import TableExchange.Json.Basic
import TableExchange.Text.Digits

/-!
# Paths into documents

A path names a place in a document: keys divided by points, each followed by any number of list
indexes in brackets, as in `job.content[0].reader`.

* `Path.read?`: reads a path; no part of it may be empty.
* `Path.follow`: the value at a path. A step that does not exist, or a null at the end, is nothing.
-/

namespace TableExchange

/-- A step down into a document. -/
inductive Step where
  | key (name : String)
  | index (i : Nat)
  deriving DecidableEq, Repr

/-- Steps from the root of a document, in order. -/
abbrev Path := List Step

namespace Path

def maxIndex : Nat := 18446744073709551615

/-- Reads an index: digits, with an optional plus sign before them. -/
def readIndex? (cs : List Char) : Option Nat :=
  let digits := match cs with
    | '+' :: rest => rest
    | rest => rest
  if Digits.isNumeral digits ∧ Digits.toNat digits ≤ maxIndex then some (Digits.toNat digits)
  else none

/-- Reads indexes in brackets up to the end of a text. Inside a bracket, `inside` holds what has
been read of the index, backwards. -/
def readIndexes : (inside : Option (List Char)) → List Char → Option Path
  | none, [] => some []
  | none, c :: rest => if c = '[' then readIndexes (some []) rest else none
  | some _, [] => none
  | some seen, c :: rest =>
    if c = ']' then do
      let i ← readIndex? seen.reverse
      return .index i :: (← readIndexes none rest)
    else readIndexes (some (c :: seen)) rest

/-- Reads what stands between two points: a key, indexes, or both. -/
def readPart (part : List Char) : Option Path :=
  let key := part.takeWhile (· != '[')
  if part.isEmpty then none
  else do
    let indexes ← readIndexes none (part.dropWhile (· != '['))
    return if key.isEmpty then indexes else .key (String.ofList key) :: indexes

def read? (text : String) : Option Path :=
  ((text.toList.splitOn '.').mapM readPart).map List.flatten

def stepInto (doc : Json) : Step → Option Json
  | .key name => doc.member? name
  | .index i => doc.item? i

def walk (doc : Json) : Path → Option Json
  | [] => some doc
  | step :: rest => (stepInto doc step).bind (walk · rest)

/-- The value that steps lead to, unless it is null. -/
def follow (doc : Json) (path : Path) : Option Json :=
  (walk doc path).filter (!·.isNull)

end Path

end TableExchange
