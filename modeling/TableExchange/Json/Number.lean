import TableExchange.Json.Basic

/-!
# Numbers in document text

A whole number without fraction and exponent stays exact while it fits 64 bits, unsigned if
positive; minus zero is the floating-point one. Every other number is read in two steps: as many
leading digits as fit an unsigned 64-bit word give the significand, rounded once, and one
multiplication or division by a rounded power of ten, rounded again, gives the number. The result
may therefore differ from the nearest number in its last bits.

* `JsonNumber.read`: takes a number off the front of a text.
-/

namespace TableExchange

namespace JsonNumber

def maxSignificand : Nat := 18446744073709551615

/-- The largest exponent that is written out; one beyond it counts as out of range. -/
def maxWrittenExponent : Nat := 2147483647

/-- The largest magnitude of a negative integer of 64 bits. -/
def maxNegative : Nat := 9223372036854775808

def maxPower : Nat := 308

def power (e : Nat) : Binary64 := Binary64.ofRatio false (Nat.pow 10 e) 1

/-- Splits a text behind its leading digits. -/
def takeDigits (cs : List Char) : List Char × List Char :=
  (cs.takeWhile Char.isDigit, cs.dropWhile Char.isDigit)

/-- The longest leading part of a digit string that fits the significand, continuing `acc`, and
the digits that are left over. -/
def significand (acc : Nat) : List Char → Nat × List Char
  | [] => (acc, [])
  | c :: rest =>
    let next := Nat.ofDigitChars 10 [c] acc
    if maxSignificand < next then (acc, c :: rest) else significand next rest

/-- A magnitude divided by `10 ^ e`, at most `maxPower` powers at a time; after two steps every
significand has become zero. -/
def scaleDown : Nat → Binary64 → Nat → Binary64
  | 0, x, _ => x
  | steps + 1, x, e =>
    if e ≤ maxPower then x.div (power e)
    else if x.isZero then x
    else scaleDown steps (x.div (power maxPower)) (e - maxPower)

/-- A magnitude times `10 ^ e`; `none` if it leaves the finite range. -/
def scale (x : Binary64) (e : Int) : Option Binary64 :=
  if e < 0 then some (scaleDown 4 x e.natAbs)
  else if maxPower < e.natAbs then (if x.isZero then some x else none)
  else
    let y := x.mul (power e.natAbs)
    if y.isInfinite then none else some y

def ofParts (negative : Bool) (magnitude : Nat) (e : Int) : Option JsonNumber :=
  (scale (Binary64.ofInt magnitude) e).map fun x => .float (x.withSign negative)

/-- A whole number: exact in 64 bits, signed if negative and unsigned if not. -/
def ofWhole (negative : Bool) (magnitude : Nat) : JsonNumber :=
  if negative then
    if magnitude = 0 ∨ maxNegative < magnitude then
      .float ((Binary64.ofInt magnitude).withSign true)
    else .integer (-(magnitude : Int))
  else .integer magnitude

def ofScientific (negative : Bool) (magnitude : Nat) (before : Int) (minus : Bool)
    (exponent : Nat) : Option JsonNumber :=
  if maxWrittenExponent < exponent then
    if magnitude ≠ 0 ∧ !minus then none
    else some (.float (Binary64.zero negative))
  else ofParts negative magnitude (if minus then before - exponent else before + exponent)

/-- Takes a digit string of at least one digit off the front of a text. -/
def takeNumeral (cs : List Char) : Option (List Char × List Char) :=
  match takeDigits cs with
  | ([], _) => none
  | found => some found

/-- Finishes a number of which a whole part, and a fraction part if any, have been read. -/
def readExponent (negative : Bool) (magnitude : Nat) (before : Int) (whole : Option JsonNumber)
    (cs : List Char) : Option (JsonNumber × List Char) :=
  let finish (minus : Bool) (rest : List Char) : Option (JsonNumber × List Char) := do
    let (digits, rest) ← takeNumeral rest
    let n ← ofScientific negative magnitude before minus (Digits.toNat digits)
    return (n, rest)
  let exponent (rest : List Char) : Option (JsonNumber × List Char) :=
    match rest with
    | '+' :: rest => finish false rest
    | '-' :: rest => finish true rest
    | rest => finish false rest
  match cs with
  | 'e' :: rest => exponent rest
  | 'E' :: rest => exponent rest
  | rest =>
    match whole with
    | some n => some (n, rest)
    | none => (ofParts negative magnitude before).map (·, rest)

/-- Takes a number off the front of a text. A whole part of several digits does not begin with a
zero, and a point has digits after it. -/
def read (cs : List Char) : Option (JsonNumber × List Char) := do
  let (negative, unsigned) := match cs with
    | '-' :: rest => (true, rest)
    | rest => (false, rest)
  let (digits, rest) ← takeNumeral unsigned
  if digits.head? = some '0' ∧ 1 < digits.length then none
  let (magnitude, dropped) := significand 0 digits
  match rest with
  | '.' :: rest =>
    let (fraction, rest) ← takeNumeral rest
    let (scaled, ignored) := significand magnitude fraction
    readExponent negative scaled (dropped.length - (fraction.length - ignored.length : Nat)) none
      rest
  | rest =>
    let whole := if dropped.isEmpty then some (ofWhole negative magnitude) else none
    readExponent negative magnitude dropped.length whole rest

end JsonNumber

end TableExchange
