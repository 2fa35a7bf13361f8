import TableExchange.Number.Binary64
import TableExchange.Text.Ascii

/-!
# Binary64 literals

A floating-point number as text: an optional sign before a decimal literal with an exponent of any
size, or before one of the words `inf`, `infinity` and `nan` in any case.

* `Binary64.parse?`: the number nearest to what a text denotes.
-/

namespace TableExchange

namespace Binary64

def exponentValue? (cs : List Char) : Option Int :=
  let (negative, digits) := Decimal.takeSign cs
  if Digits.isNumeral digits then
    some (if negative then -(Digits.toNat digits : Int) else Digits.toNat digits)
  else none

def magnitude? (cs : List Char) : Option Binary64 := do
  let exponent ← match cs.dropWhile (!Decimal.isExponentMark ·) with
    | [] => some 0
    | _ :: rest => exponentValue? rest
  match Decimal.readMagnitude "" (cs.takeWhile (!Decimal.isExponentMark ·)) with
  | .ok (n, places) => some (ofDecimal ⟨n, places - exponent⟩)
  | .error _ => none

def parse? (text : String) : Option Binary64 :=
  let (negative, unsigned) := Decimal.takeSign text.toList
  let word := String.ofList unsigned
  if sameLetters word "inf" || sameLetters word "infinity" then some (.infinity negative)
  else if sameLetters word "nan" then some .nan
  else (magnitude? unsigned).map (·.withSign negative)

end Binary64

end TableExchange
