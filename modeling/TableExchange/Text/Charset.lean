import TableExchange.Text.Ascii
import TableExchange.Text.Blank

/-!
# Charsets

Three ways to keep a text as bytes.

* `Charset.encode`: the bytes of a text, if every character is in the repertoire.
* `Charset.decode`: the text of bytes, if they are the encoding of one.
* `Charset.ofName?`: the charset of a name, in any case and with blanks around it.
-/

namespace TableExchange

abbrev Bytes := List UInt8

inductive Charset where
  | utf8 | latin1 | ascii
  deriving DecidableEq, Repr

namespace Charset

/-- The charset's registered name. -/
def label : Charset → String
  | .utf8 => "UTF-8"
  | .latin1 => "ISO-8859-1"
  | .ascii => "US-ASCII"

def ofName? (name : String) : Option Charset :=
  let upper := upperCase (trim name)
  if upper = "UTF-8" ∨ upper = "UTF8" then some .utf8
  else if upper = "ISO-8859-1" ∨ upper = "ISO8859-1" ∨ upper = "LATIN1" then some .latin1
  else if upper = "US-ASCII" ∨ upper = "ASCII" then some .ascii
  else none

def singleBytes (text : String) : Bytes := text.toList.map fun c => UInt8.ofNat c.toNat

def singleChars (bytes : Bytes) : String :=
  String.ofList (bytes.map fun b => Char.ofNat b.toNat)

/-- The bytes of a text; `none` if a character is outside the repertoire. -/
def encode (text : String) : Charset → Option Bytes
  | .utf8 => some text.toUTF8.data.toList
  | .latin1 => if text.toList.all (·.toNat < 256) then some (singleBytes text) else none
  | .ascii => if isAscii text then some (singleBytes text) else none

/-- The text of bytes; `none` if they encode none. -/
def decode (bytes : Bytes) : Charset → Option String
  | .utf8 => String.fromUTF8? ⟨bytes.toArray⟩
  | .latin1 => some (singleChars bytes)
  | .ascii => if bytes.all (·.toNat < 128) then some (singleChars bytes) else none

end Charset

end TableExchange
