import TableExchange.Sql.Token

/-!
# Checking statements

A text holds statements between semicolons, and an empty statement counts for nothing. A statement
is

    select <item>, … [from <table>, …] [where <expression>]

An item is `*`, `<name>.*` or an expression with or without an alias; a table is a dotted name with
or without an alias. An expression is built from numbers, text literals, names and function calls
with arithmetic, comparisons, `and`, `or`, `not`, `is [not] null` and parentheses. Words are read
in any case, and a word that is not needed where it stands is a name.

* `Sql.countStatements?`: how many statements a text holds, if all of them are well formed.
-/

namespace TableExchange

namespace Sql

/-! ## Names -/

def Token.isName : Token → Bool
  | .word _ => true
  | .name => true
  | .text => true
  | _ => false

/-- The words that go on with a statement after an item or a table, and so are no aliases. -/
def clauseWords : List String :=
  ["with", "explain", "analyze", "select", "from", "where", "group", "sort", "having", "order",
    "top", "lateral", "view", "limit", "offset", "fetch", "union", "except", "intersect", "minus",
    "cluster", "distribute", "returning", "end"]

def joinWords : List String :=
  ["on", "join", "inner", "cross", "full", "left", "right", "outer", "natural", "using", "set",
    "qualify", "window", "pivot", "unpivot", "partition", "prewhere", "settings", "format",
    "start", "connect", "for", "global", "anti", "semi", "asof", "sample", "open"]

def itemWords : List String := ["into", "exclude"]

/-- Takes an alias, if there is one, off the front; the given words are none without `as`. -/
def skipAlias (words : List String) : List Token → Option (List Token)
  | .word "as" :: token :: rest => if token.isName then some rest else none
  | [.word "as"] => none
  | .word w :: rest => if w ∈ words then some (.word w :: rest) else some rest
  | .name :: rest => some rest
  | .text :: rest => some rest
  | rest => some rest

/-- Takes a dotted name off the front. -/
def skipName : List Token → Option (List Token)
  | token :: .dot :: rest => if token.isName then skipName rest else none
  | token :: rest => if token.isName then some rest else none
  | [] => none

/-- Takes `*` or `<name>.*` off the front. -/
def skipWildcard : List Token → Option (List Token)
  | .star :: rest => some rest
  | token :: .dot :: rest => if token.isName then skipWildcard rest else none
  | _ => none

/-- Takes a word that says whether repeated values count off the front, if there is one. -/
def skipQuantifier : List Token → List Token
  | .word "distinct" :: rest => rest
  | .word "all" :: rest => rest
  | rest => rest

/-! ## Expressions -/

/-- How strongly an operator binds the operands at its sides; zero if a token is no operator. -/
def Token.strength : Token → Nat
  | .word "or" => 1
  | .word "and" => 2
  | .word "is" => 4
  | .comparison => 5
  | .sign => 6
  | .star => 7
  | .division => 7
  | _ => 0

def notStrength : Nat := 3

/-- How strongly a sign binds the operand after it. -/
def signStrength : Nat := 7

/-- Takes what may follow `is` off the front. -/
def skipTruthValue : List Token → Option (List Token)
  | .word "not" :: .word w :: rest =>
    if w ∈ ["null", "true", "false", "unknown"] then some rest else none
  | .word w :: rest => if w ∈ ["null", "true", "false", "unknown"] then some rest else none
  | _ => none

/-- Takes a closing parenthesis off the front. -/
def skipClosing : List Token → Option (List Token)
  | .closing :: rest => some rest
  | _ => none

mutual

/-- Takes an operand and the operators stronger than `strength` after it, with their operands, off
the front. Expressions nest at most `depth` deep. -/
def skipExpression : Nat → Nat → Nat → List Token → Option (List Token)
  | 0, _, _, _ => none
  | _, 0, _, _ => none
  | fuel + 1, depth + 1, strength, tokens =>
    (skipOperand fuel depth tokens).bind (skipOperators fuel depth strength)

/-- Takes operators stronger than `strength`, with their right operands, off the front. -/
def skipOperators : Nat → Nat → Nat → List Token → Option (List Token)
  | 0, _, _, _ => none
  | _, _, _, [] => some []
  | fuel + 1, depth, strength, token :: rest =>
    if token.strength ≤ strength then some (token :: rest)
    else if token = .word "is" then
      (skipTruthValue rest).bind (skipOperators fuel depth strength)
    else
      (skipExpression fuel depth token.strength rest).bind (skipOperators fuel depth strength)

/-- Takes an operand off the front. A `not` without an operand is a name. -/
def skipOperand : Nat → Nat → List Token → Option (List Token)
  | 0, _, _ => none
  | fuel + 1, depth, tokens =>
    match tokens with
    | .number :: rest => some rest
    | .parameter :: rest => some rest
    | .sign :: rest => skipExpression fuel depth signStrength rest
    | .opening :: rest =>
      ((skipList fuel depth false rest).bind skipClosing).bind (skipFields fuel depth)
    | .word "not" :: rest =>
      (skipExpression fuel depth notStrength rest).or (skipCall fuel depth rest)
    | .text :: rest => skipFields fuel depth rest
    | .word _ :: rest => skipCall fuel depth rest
    | .name :: rest => skipCall fuel depth rest
    | _ => none

/-- Takes the arguments after a function's name, if there are any, and further fields off the
front. -/
def skipCall : Nat → Nat → List Token → Option (List Token)
  | 0, _, _ => none
  | fuel + 1, depth, tokens =>
    match tokens with
    | .opening :: .closing :: rest => skipFields fuel depth rest
    | .opening :: rest =>
      ((skipList fuel depth true (skipQuantifier rest)).bind skipClosing).bind
        (skipFields fuel depth)
    | rest => skipFields fuel depth rest

/-- Takes the parts of a dotted name after the first off the front. -/
def skipFields : Nat → Nat → List Token → Option (List Token)
  | 0, _, _ => none
  | fuel + 1, depth, tokens =>
    match tokens with
    | .dot :: token :: rest =>
      if token.isName then skipCall fuel depth rest else some (.dot :: token :: rest)
    | rest => some rest

/-- Takes one or more expressions, with commas between them, off the front; as arguments they may
be wildcards too. -/
def skipList : Nat → Nat → Bool → List Token → Option (List Token)
  | 0, _, _, _ => none
  | fuel + 1, depth, wildcards, tokens =>
    let wildcard := if wildcards then skipWildcard tokens else none
    match wildcard.or (skipExpression fuel depth 0 tokens) with
    | some (.comma :: rest) => skipList fuel depth wildcards rest
    | found => found

end

/-! ## Statements -/

/-- How deep the expressions of a statement may nest. -/
def nestingLimit : Nat := 48

/-- Takes an expression off the front. -/
def skipCondition (fuel : Nat) (tokens : List Token) : Option (List Token) :=
  skipExpression fuel nestingLimit 0 tokens

/-- Takes an expression and its alias off the front. The word `from` alone is no item, as it would
hide that one is missing. -/
def skipItem (fuel : Nat) (tokens : List Token) : Option (List Token) :=
  match skipCondition fuel tokens with
  | some rest =>
    if tokens = .word "from" :: rest then none else skipAlias (clauseWords ++ itemWords) rest
  | none => none

/-- Takes one or more items off the front. -/
def skipItems (fuel : Nat) : Nat → List Token → Option (List Token)
  | 0, _ => none
  | left + 1, tokens =>
    match (skipWildcard tokens).or (skipItem fuel tokens) with
    | some (.comma :: rest) => skipItems fuel left rest
    | found => found

/-- Takes one or more tables off the front. A table may be the result of a function. -/
def skipTables (fuel : Nat) : Nat → List Token → Option (List Token)
  | 0, _ => none
  | left + 1, tokens =>
    let table := match skipName tokens with
      | some (.opening :: rest) => skipCall fuel nestingLimit (.opening :: rest)
      | found => found
    match table.bind (skipAlias (clauseWords ++ joinWords)) with
    | some (.comma :: rest) => skipTables fuel left rest
    | found => found

/-- Takes the tables behind `from`, if there are any, off the front. -/
def skipFrom (fuel : Nat) : List Token → Option (List Token)
  | .word "from" :: rest => skipTables fuel fuel rest
  | rest => some rest

/-- Takes a condition behind `where`, if there is one, off the front. -/
def skipWhere (fuel : Nat) : List Token → Option (List Token)
  | .word "where" :: rest => skipCondition fuel rest
  | rest => some rest

/-- Takes a statement off the front. Where the tables may come first, nothing need follow them. -/
def skipStatement (lexicon : Lexicon) (fuel : Nat) : List Token → Option (List Token)
  | .word "select" :: rest =>
    ((skipItems fuel fuel (skipQuantifier rest)).bind (skipFrom fuel)).bind (skipWhere fuel)
  | .word "from" :: rest =>
    if lexicon.tablesFirst then
      match skipTables fuel fuel rest with
      | some (.word "select" :: rest) =>
        (skipItems fuel fuel (skipQuantifier rest)).bind (skipWhere fuel)
      | found => found
    else none
  | _ => none

/-- How many statements the tokens hold, each followed by a semicolon or the end. -/
def countIn (lexicon : Lexicon) (fuel : Nat) : Nat → List Token → Option Nat
  | 0, _ => none
  | left + 1, tokens =>
    match tokens.dropWhile (· = .semicolon) with
    | [] => some 0
    | tokens =>
      match skipStatement lexicon fuel tokens with
      | some (.semicolon :: rest) => (countIn lexicon fuel left rest).map (· + 1)
      | some [] => some 1
      | _ => none

/-- How many steps reading a token list takes at most. -/
def stepBound (tokens : List Token) : Nat := 5 * tokens.length + 8

/-- How many statements a text holds; `none` if it is not well formed in the dialect. -/
def countStatements? (dialect : Dialect) (sql : String) : Option Nat := do
  let tokens ← tokens? dialect.lexicon (sql.toList.length + 1) sql.toList
  countIn dialect.lexicon (stepBound tokens) (tokens.length + 1) tokens

end Sql

end TableExchange
