/-!
# Blanks

The characters with the Unicode property White_Space, and texts without them at their ends.

* `isBlank`: the 25 characters of the property.
* `trim`: a text without blanks at either end.
-/

namespace TableExchange

/-- Whether a character has the property White_Space. -/
def isBlank (c : Char) : Bool :=
  let n := c.toNat
  (9 ≤ n && n ≤ 13) || n == 0x20 || n == 0x85 || n == 0xA0 || n == 0x1680 ||
    (0x2000 ≤ n && n ≤ 0x200A) || n == 0x2028 || n == 0x2029 || n == 0x202F || n == 0x205F ||
    n == 0x3000

/-- A text without the blanks at its front. -/
def trimStart (cs : List Char) : List Char := cs.dropWhile isBlank

/-- A text without the blanks at its end. -/
def trimEnd (cs : List Char) : List Char := (trimStart cs.reverse).reverse

/-- A text without blanks at either end. -/
def trim (text : String) : String := String.ofList (trimEnd (trimStart text.toList))

/-- The trimmed text, unless nothing is left of it. -/
def nonBlank (text : String) : Option String :=
  if (trim text).isEmpty then none else some (trim text)

end TableExchange
