import TableExchange.Dialect

/-!
# Text literals

Text between single quotes. What would end the literal early is doubled, by the rule of the
dialect.

* `TextLiteral.escape`: the inside of a literal.
* `TextLiteral.write`: a literal.
* `TextLiteral.read`: takes a literal off the front of a text, by the same rule.
-/

namespace TableExchange

namespace TextLiteral

def quote : Char := '\x27'

def escapeChar (rule : EscapeRule) (c : Char) : List Char :=
  if c = quote then [quote, quote]
  else if c = '\\' ∧ rule = .quoteAndBackslash then ['\\', '\\']
  else [c]

def escapeChars (rule : EscapeRule) (cs : List Char) : List Char := cs.flatMap (escapeChar rule)

def escape (rule : EscapeRule) (text : String) : String :=
  String.ofList (escapeChars rule text.toList)

def write (rule : EscapeRule) (text : String) : String := "'" ++ escape rule text ++ "'"

/-- Takes the inside of a literal and its closing quote off the front of a text. A doubled quote
stands for one; where the backslash escapes, it stands for the character after it. -/
def readBody (rule : EscapeRule) : List Char → Option (List Char × List Char)
  | [] => none
  | [c] => if c = quote then some ([], []) else none
  | c :: d :: rest =>
    if c = quote then
      if d = quote then (readBody rule rest).map fun (body, left) => (quote :: body, left)
      else some ([], d :: rest)
    else if c = '\\' ∧ rule = .quoteAndBackslash then
      (readBody rule rest).map fun (body, left) => (d :: body, left)
    else (readBody rule (d :: rest)).map fun (body, left) => (c :: body, left)

/-- Takes a literal off the front of a text: what it denotes, and what follows it. -/
def read (rule : EscapeRule) : List Char → Option (List Char × List Char)
  | c :: rest => if c = quote then readBody rule rest else none
  | [] => none

end TextLiteral

end TableExchange
