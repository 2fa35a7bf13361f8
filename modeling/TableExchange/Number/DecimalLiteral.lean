import TableExchange.Number.Decimal

/-!
# Decimal literals

A decimal literal is an optional sign, digits with at most one point among or beside them, and an
optional exponent: `e` or `E`, an optional sign, digits. The value is exact; its scale is the
number of fraction digits less the exponent.

* `Decimal.parse`: reads a whole text as a literal.
* `DecimalError`: why a text is refused. A fault of the exponent is reported before any other.
-/

namespace TableExchange

inductive DecimalError where
  | empty
  | invalid (literal : String)
  /-- The exponent is well formed, but beyond `Decimal.maxExponent`. -/
  | exponentOutOfRange (literal : String)
  deriving DecidableEq, Repr

/-- The wording of a refusal; of the literal it shows a preview. -/
def DecimalError.message : DecimalError → String
  | .empty => "empty decimal literal"
  | .invalid literal => "invalid decimal literal '" ++ cut literal ++ "'"
  | .exponentOutOfRange literal => "decimal exponent out of range in '" ++ cut literal ++ "'"

namespace Decimal

def maxExponent : Nat := 1000000000

def isExponentMark (c : Char) : Bool := c == 'e' || c == 'E'

/-- Takes an optional sign off a text; the flag says whether it was a minus. -/
def takeSign : List Char → Bool × List Char
  | '-' :: rest => (true, rest)
  | '+' :: rest => (false, rest)
  | rest => (false, rest)

def readExponent (literal : String) (cs : List Char) : Except DecimalError Int :=
  let (negative, digits) := takeSign cs
  if !Digits.isNumeral digits then .error (.invalid literal)
  else
    let magnitude := Digits.toNat digits
    if maxExponent < magnitude then .error (.exponentOutOfRange literal)
    else .ok (if negative then -(magnitude : Int) else magnitude)

/-- The digits before and after the first point. -/
def splitPoint (cs : List Char) : List Char × List Char :=
  (cs.takeWhile (· != '.'), (cs.dropWhile (· != '.')).drop 1)

/-- Reads the digits of a literal, without sign and exponent: the digits and how many of them
are fraction digits. -/
def readMagnitude (literal : String) (cs : List Char) : Except DecimalError (Nat × Nat) :=
  let (whole, fraction) := splitPoint cs
  if Digits.isNumeral (whole ++ fraction) then
    .ok (Digits.toNat (whole ++ fraction), fraction.length)
  else .error (.invalid literal)

def parse (text : String) : Except DecimalError Decimal :=
  if text.toList.isEmpty then .error .empty
  else do
    let (negative, unsigned) := takeSign text.toList
    let exponent ← match unsigned.dropWhile (!isExponentMark ·) with
      | [] => .ok 0
      | _ :: rest => readExponent text rest
    let (magnitude, places) ← readMagnitude text (unsigned.takeWhile (!isExponentMark ·))
    return ⟨if negative then -(magnitude : Int) else magnitude, places - exponent⟩

end Decimal

end TableExchange
