import TableExchange.Json.Number

/-!
# Reading documents

The usual grammar of documents: objects, lists, strings with escapes, numbers, and the words
`true`, `false` and `null`, with blanks between them. Refused are nesting beyond `maxDepth`,
control characters and halves of surrogate pairs in strings, and numbers beyond binary64.

* `Json.parse?`: reads a whole text.
-/

namespace TableExchange

/-- Takes a value off the front of a text; `none` if the text does not begin with one. -/
abbrev Reader (α : Type) := List Char → Option (α × List Char)

namespace Json

/-- How deep lists and objects may nest. -/
def maxDepth : Nat := 127

/-- The blanks between the parts of a document. -/
def isGap (c : Char) : Bool := c == ' ' || c == '\n' || c == '\t' || c == '\r'

/-- A text without the blanks at its front. -/
def skipGap (cs : List Char) : List Char := cs.dropWhile isGap

/-! ## Strings -/

/-- The value of a hexadecimal digit of either case. -/
def hexValue? (c : Char) : Option Nat :=
  if c.isDigit then some (c.toNat - '0'.toNat)
  else if 'a' ≤ c ∧ c ≤ 'f' then some (c.toNat - 'a'.toNat + 10)
  else if 'A' ≤ c ∧ c ≤ 'F' then some (c.toNat - 'A'.toNat + 10)
  else none

/-- The 16-bit unit that four hexadecimal digits denote. -/
def unit? (a b c d : Char) : Option Nat := do
  return 4096 * (← hexValue? a) + 256 * (← hexValue? b) + 16 * (← hexValue? c) + (← hexValue? d)

/-- Whether a unit is the first half of a surrogate pair. -/
def isHighSurrogate (u : Nat) : Bool := 0xD800 ≤ u && u < 0xDC00

/-- Whether a unit is the second half of a surrogate pair. -/
def isLowSurrogate (u : Nat) : Bool := 0xDC00 ≤ u && u < 0xE000

def pairChar (high low : Nat) : Char :=
  Char.ofNat (0x10000 + (high - 0xD800) * 0x400 + (low - 0xDC00))

/-- The character that a letter after a backslash denotes. -/
def shortEscape? : Char → Option Char
  | '"' => some '"'
  | '\\' => some '\\'
  | '/' => some '/'
  | 'b' => some (Char.ofNat 8)
  | 'f' => some (Char.ofNat 12)
  | 'n' => some '\n'
  | 'r' => some '\r'
  | 't' => some '\t'
  | _ => none

/-- Reads the rest of a string, up to its closing quote; `seen` holds what came before it,
backwards. -/
def readString (seen : List Char) : Reader String
  | '"' :: rest => some (String.ofList seen.reverse, rest)
  | '\\' :: 'u' :: a :: b :: c :: d :: rest =>
    match unit? a b c d with
    | none => none
    | some u =>
      if isLowSurrogate u then none
      else if isHighSurrogate u then
        match rest with
        | '\\' :: 'u' :: e :: f :: g :: h :: rest =>
          match unit? e f g h with
          | some v => if isLowSurrogate v then readString (pairChar u v :: seen) rest else none
          | none => none
        | _ => none
      else readString (Char.ofNat u :: seen) rest
  | '\\' :: c :: rest =>
    match shortEscape? c with
    | some e => readString (e :: seen) rest
    | none => none
  | c :: rest => if c.toNat < 32 ∨ c = '\\' then none else readString (c :: seen) rest
  | [] => none

/-! ## Lists and objects -/

/-- Reads elements up to the closing bracket, the first of them next; `seen` holds the earlier
ones, backwards. Each element takes at least one character, so `fuel` may be the text's length. -/
def readItems (item : Reader Json) (seen : List Json) : Nat → Reader Json
  | 0, _ => none
  | fuel + 1, cs => do
    let (value, rest) ← item cs
    match skipGap rest with
    | ',' :: rest => readItems item (value :: seen) fuel rest
    | ']' :: rest => some (.array (value :: seen).reverse, rest)
    | _ => none

/-- Reads the members of an object up to the closing brace, the first of them next. -/
def readMembers (item : Reader Json) (seen : List (String × Json)) : Nat → Reader Json
  | 0, _ => none
  | fuel + 1, cs => do
    let '"' :: rest := skipGap cs | none
    let (key, rest) ← readString [] rest
    let ':' :: rest := skipGap rest | none
    let (value, rest) ← item rest
    let members := insertMember key value seen
    match skipGap rest with
    | ',' :: rest => readMembers item members fuel rest
    | '\x7d' :: rest => some (.object members, rest)
    | _ => none

/-- Reads a value that is no list and no object. -/
def readScalar : Reader Json
  | '"' :: rest => (readString [] rest).map fun (s, rest) => (.string s, rest)
  | 'n' :: 'u' :: 'l' :: 'l' :: rest => some (.null, rest)
  | 't' :: 'r' :: 'u' :: 'e' :: rest => some (.bool true, rest)
  | 'f' :: 'a' :: 'l' :: 's' :: 'e' :: rest => some (.bool false, rest)
  | cs => (JsonNumber.read cs).map fun (n, rest) => (.number n, rest)

/-- Reads a value that nests at most `depth` deep. -/
def readValue : Nat → Reader Json
  | 0, cs =>
    readScalar (skipGap cs)
  | depth + 1, cs =>
    match skipGap cs with
    | '[' :: rest =>
      match skipGap rest with
      | ']' :: rest => some (.array [], rest)
      | rest => readItems (readValue depth) [] rest.length rest
    | '\x7b' :: rest =>
      match skipGap rest with
      | '\x7d' :: rest => some (.object [], rest)
      | rest => readMembers (readValue depth) [] rest.length rest
    | rest => readScalar rest

/-- Reads a whole text as one document that nests at most `depth` deep. -/
def parse? (text : String) (depth : Nat := maxDepth) : Option Json := do
  let (value, rest) ← readValue depth text.toList
  if (skipGap rest).isEmpty then some value else none

end Json

end TableExchange
