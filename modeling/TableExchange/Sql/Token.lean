import TableExchange.Sql.Lexicon
import TableExchange.Sql.Literal
import TableExchange.Text.Blank

/-!
# Tokens

The words, literals and signs that a statement is made of. Blanks and comments stand between them
and are dropped.

* `Sql.Token`: the tokens, as far as a statement's form depends on them.
* `Sql.tokens?`: the tokens of a text.
-/

namespace TableExchange

namespace Sql

inductive Token where
  | word (text : String)
  /-- A name that is no word of the language: one between quotes, or one with a digit in front. -/
  | name
  | number
  | text
  /-- A value that is given when the statement is run. -/
  | parameter
  | comparison
  | sign
  /-- The sign of a quotient or of a remainder. -/
  | division
  | star
  | comma
  | dot
  | opening
  | closing
  | semicolon
  deriving DecidableEq, Repr

/-! ## Comments -/

/-- Whether a text begins with a comment that goes to the end of the line. -/
def Lexicon.beginsComment (lexicon : Lexicon) : List Char → Bool
  | '-' :: '-' :: ' ' :: _ => true
  | '-' :: '-' :: _ => !lexicon.spacedDashes
  | '#' :: _ => lexicon.hashComments
  | _ => false

def Lexicon.endsLine (lexicon : Lexicon) (c : Char) : Bool :=
  c == '\n' || (lexicon.returnEndsLine && c == '\r')

/-- Takes the rest of a block comment off the front; `depth` is how many comments it is inside, and
`last` the character before, unless it is part of a mark. -/
def skipBlock (nested : Bool) : Nat → Option Char → List Char → Option (List Char)
  | _, _, [] => none
  | depth, last, c :: rest =>
    if last = some '*' ∧ c = '/' then
      if depth = 0 then some rest else skipBlock nested (depth - 1) none rest
    else if nested ∧ last = some '/' ∧ c = '*' then skipBlock nested (depth + 1) none rest
    else skipBlock nested depth (some c) rest

/-! ## Names and numbers -/

/-- Takes what stands before a closing quote, and the quote, off the front. A doubled quote stands
for one, and where the backslash escapes, the character after it does not count. -/
def skipQuoted (rule : EscapeRule) (close : Char) : List Char → Option (List Char)
  | [] => none
  | c :: rest =>
    if c = close then
      match rest with
      | d :: left => if d = close then skipQuoted rule close left else some rest
      | [] => some []
    else if c = '\\' ∧ rule = .quoteAndBackslash then
      match rest with
      | _ :: left => skipQuoted rule close left
      | [] => none
    else skipQuoted rule close rest

/-- Takes the exponent of a number off the front. -/
def skipExponent : List Char → Option (List Char)
  | [] => none
  | c :: rest =>
    let digits := match rest with
      | '+' :: left => left
      | '-' :: left => left
      | left => left
    if (c = 'e' ∨ c = 'E') ∧ digits.head?.any Char.isDigit then
      some (digits.dropWhile Char.isDigit)
    else none

/-- Takes a number, or a name with digits in front, off the front of a text that begins with a
digit, or with a point and a digit. -/
def readNumber (lexicon : Lexicon) (cs : List Char) : Token × List Char :=
  let rest := match cs.dropWhile Char.isDigit with
    | '.' :: left => left.dropWhile Char.isDigit
    | left => left
  match skipExponent rest with
  | some left => (.number, left)
  | none =>
    if lexicon.digitNames ∧ rest.head?.any lexicon.isNamePart then
      (.name, rest.dropWhile lexicon.isNamePart)
    else (.number, rest)

/-- Whether a text begins with a mark that makes a word a parameter. -/
def beginsParameter : List Char → Bool
  | mark :: c :: _ =>
    (mark == '$' || mark == '@' || mark == ':') && (isLetter c || c.isDigit || c == '_')
  | _ => false

/-! ## Tokens -/

def sign? : Char → Option Token
  | ',' => some .comma
  | '.' => some .dot
  | '*' => some .star
  | '(' => some .opening
  | ')' => some .closing
  | ';' => some .semicolon
  | '=' => some .comparison
  | '<' => some .comparison
  | '>' => some .comparison
  | '+' => some .sign
  | '-' => some .sign
  | '/' => some .division
  | '%' => some .division
  | _ => none

/-- The next token of a text that begins with none of the longer signs. A double quote that
encloses no names encloses a text. -/
def readToken? (lexicon : Lexicon) : List Char → Option (Token × List Char)
  | [] => none
  | c :: rest =>
    if c = TextLiteral.quote then
      (TextLiteral.read lexicon.escape (c :: rest)).map fun (_, left) => (.text, left)
    else if let some close := lexicon.nameQuotes.lookup c then
      (skipQuoted .quoteOnly close rest).map fun left => (.name, left)
    else if c = '"' then
      (skipQuoted lexicon.escape '"' rest).map fun left => (.text, left)
    else if c.isDigit ∨ (c = '.' ∧ rest.head?.any Char.isDigit) then
      some (readNumber lexicon (c :: rest))
    else if lexicon.isNameStart c then
      some (.word (lowerCase (String.ofList (c :: rest.takeWhile lexicon.isNamePart))),
        rest.dropWhile lexicon.isNamePart)
    else if beginsParameter (c :: rest) then
      some (.parameter, rest.dropWhile fun d => isLetter d || d.isDigit || d == '_')
    else (sign? c).map (·, rest)

/-- The next token of a text that does not begin with a blank or a comment, and what follows. -/
def nextToken? (lexicon : Lexicon) : List Char → Option (Token × List Char)
  | '<' :: '=' :: rest => some (.comparison, rest)
  | '>' :: '=' :: rest => some (.comparison, rest)
  | '<' :: '>' :: rest => some (.comparison, rest)
  | '!' :: '=' :: rest => some (.comparison, rest)
  | '=' :: '=' :: rest => some (.comparison, rest)
  | cs => readToken? lexicon cs

/-- The tokens of a text; `none` if there is something else in it. Every step takes a character,
so `fuel` may be the length of the text and one more. -/
def tokens? (lexicon : Lexicon) : Nat → List Char → Option (List Token)
  | 0, _ => none
  | _, [] => some []
  | fuel + 1, c :: rest =>
    if isBlank c ∧ !lexicon.isNameStart c then tokens? lexicon fuel rest
    else if lexicon.beginsComment (c :: rest) then
      tokens? lexicon fuel (rest.dropWhile (!lexicon.endsLine ·))
    else
      match c, rest with
      | '/', '*' :: body =>
        (skipBlock lexicon.nestedComments 0 none body).bind (tokens? lexicon fuel)
      | _, _ => do
        let (token, left) ← nextToken? lexicon (c :: rest)
        return token :: (← tokens? lexicon fuel left)

end Sql

end TableExchange
