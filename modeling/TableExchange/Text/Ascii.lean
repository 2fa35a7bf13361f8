/-!
# ASCII letters

Case is a matter of the 26 ASCII letters only; all other characters are left alone.

* `upperCase`, `lowerCase`: a text in one case.
* `sameLetters`: whether two texts differ at most in the case of ASCII letters.
* `isAscii`: whether every character of a text is below 128.
-/

namespace TableExchange

def upperCase (text : String) : String := String.ofList (text.toList.map Char.toUpper)

def lowerCase (text : String) : String := String.ofList (text.toList.map Char.toLower)

/-- Whether two texts are equal up to the case of ASCII letters. -/
def sameLetters (a b : String) : Bool := a.toList.map Char.toLower == b.toList.map Char.toLower

def isAscii (text : String) : Bool := text.toList.all (·.toNat < 128)

end TableExchange
