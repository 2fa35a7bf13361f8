import TableExchange.Text.GraphemeExtend
import TableExchange.Text.Unprintable

/-!
# Quoted text

Text between double quotes, so that its ends and its unprintable characters can be seen in a
message: quote and backslash have a backslash before them, some control characters have a letter,
and other characters that do not stand visibly on their own are written `\u{…}` in hexadecimal.

* `quoted`: the quoted form of a text.
* `isHidden`: the characters written in hexadecimal.
-/

namespace TableExchange

/-- Whether a character is written in hexadecimal: it is drawn on the one before it, or not at
all. -/
def isHidden (c : Char) : Bool := extendsGrapheme c || isUnprintable c

def quotedChar (c : Char) : List Char :=
  if c = '"' then ['\\', '"']
  else if c = '\\' then ['\\', '\\']
  else if c = '\n' then ['\\', 'n']
  else if c = '\r' then ['\\', 'r']
  else if c = '\t' then ['\\', 't']
  else if c.toNat = 0 then ['\\', '0']
  else if isHidden c then ['\\', 'u', '\x7b'] ++ Nat.toDigits 16 c.toNat ++ ['\x7d']
  else [c]

def quoted (text : String) : String :=
  "\"" ++ String.ofList (text.toList.flatMap quotedChar) ++ "\""

def bracketed (items : List String) : String := "[" ++ ", ".intercalate items ++ "]"

end TableExchange
