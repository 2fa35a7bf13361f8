import TableExchange.Dialect
import TableExchange.Text.Alphabetic

/-!
# Lexicons

How names, literals and comments are written in the statements of a dialect.

* `Sql.Lexicon`: the rules.
* `Dialect.lexicon`: the rules of a dialect.
-/

namespace TableExchange

namespace Sql

/-- How names, literals and comments are written. -/
structure Lexicon where
  isNameStart : Char → Bool
  isNamePart : Char → Bool
  nameQuotes : List (Char × Char)
  /-- How text is made safe inside a literal. -/
  escape : EscapeRule := .quoteOnly
  digitNames : Bool := false
  hashComments : Bool := false
  /-- Whether two dashes begin a comment only before a space. -/
  spacedDashes : Bool := false
  returnEndsLine : Bool := false
  /-- Whether block comments nest. -/
  nestedComments : Bool := false
  tablesFirst : Bool := false

namespace Lexicon

def sameQuote (c : Char) : Char × Char := (c, c)

def inBasicPlane (first : Nat) (c : Char) : Bool := first ≤ c.toNat && c.toNat ≤ 0xFFFF

/-- The rules of dialects that have none of their own. -/
def common : Lexicon where
  isNameStart c := isLetter c || c == '_' || c == '#' || c == '@'
  isNamePart c := isLetter c || c.isDigit || c == '_' || c == '#' || c == '@' || c == '$'
  nameQuotes := [sameQuote '"', sameQuote '\x60']
  nestedComments := true
  tablesFirst := true

def sqlServer : Lexicon where
  isNameStart := common.isNameStart
  isNamePart := common.isNamePart
  nameQuotes := [sameQuote '"', ('[', ']')]

def postgreSql : Lexicon where
  isNameStart c := isLetter c || c == '_'
  isNamePart c := isLetter c || c.isDigit || c == '_' || c == '$'
  nameQuotes := [sameQuote '"']
  returnEndsLine := true
  nestedComments := true

def clickHouse : Lexicon where
  isNameStart c := c.isAlpha || c == '_'
  isNamePart c := c.isAlphanum || c == '_'
  nameQuotes := [sameQuote '"', sameQuote '\x60']
  escape := .quoteAndBackslash
  tablesFirst := true

def hive : Lexicon where
  isNameStart c := c.isAlphanum || c == '$'
  isNamePart c := c.isAlphanum || c == '$' || c == '_' || c == '\x7b' || c == '\x7d'
  nameQuotes := [sameQuote '"', sameQuote '\x60']
  digitNames := true
  hashComments := true

/-- The rules of MySQL, where double quotes enclose a text. -/
def mySql : Lexicon where
  isNameStart c := isLetter c || inBasicPlane 0x80 c || c == '_' || c == '$' || c == '@'
  isNamePart c :=
    isLetter c || inBasicPlane 0x80 c || c.isDigit || c == '_' || c == '$' || c == '@'
  nameQuotes := [sameQuote '\x60']
  escape := .quoteAndBackslash
  digitNames := true
  hashComments := true
  spacedDashes := true

def sqlite : Lexicon where
  isNameStart c := c.isAlpha || c == '_' || inBasicPlane 0x7F c
  isNamePart c := c.isAlphanum || c == '_' || inBasicPlane 0x7F c
  nameQuotes := [sameQuote '\x60', sameQuote '"', ('[', ']')]

end Lexicon

end Sql

def Dialect.lexicon : Dialect → Sql.Lexicon
  | .mySql => .mySql
  | .postgreSql => .postgreSql
  | .sqlServer => .sqlServer
  | .clickHouse => .clickHouse
  | .hive => .hive
  | .impala => .hive
  | .sqlite => .sqlite
  | .db2 => .common
  | .generic => .common
  | .oracle => .common
  | .presto => .common
  | .trino => .common

end TableExchange
