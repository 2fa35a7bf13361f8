import TableExchange.Text.Digits
import TableExchange.Text.Preview

/-!
# Exact decimal numbers

A `Decimal` is `mantissa · 10 ^ (-scale)` with both parts of any size, so no arithmetic on it
rounds.

* `Decimal.plain`: the number in positional notation, never with an exponent; a positive scale
  shows as exactly that many fraction digits.
* `Decimal.toInteger?`: the integer part, truncated toward zero, unless it is too wide to hold.
* `Decimal.compare`: the order of the values, whatever the representations.
-/

namespace TableExchange

/-- The number `mantissa · 10 ^ (-scale)`. -/
structure Decimal where
  mantissa : Int
  scale : Int
  deriving DecidableEq, Repr

namespace Decimal

def ofInt (n : Int) : Decimal := ⟨n, 0⟩

def isZero (d : Decimal) : Bool := d.mantissa == 0

def abs (d : Decimal) : Decimal := ⟨d.mantissa.natAbs, d.scale⟩

/-- How many digits the mantissa has; zero has one. -/
def digitCount (d : Decimal) : Nat := (Digits.ofNat d.mantissa.natAbs).length

/-- The power of ten of the most significant digit. -/
def leadingExponent (d : Decimal) : Int := d.digitCount - 1 - d.scale

/-! ## Text -/

/-- The magnitude `m · 10 ^ (-scale)` in positional notation. -/
def magnitudeChars (m : Nat) (scale : Int) : List Char :=
  let digits := Digits.ofNat m
  if scale ≤ 0 then
    if m = 0 then digits else digits ++ List.replicate scale.natAbs '0'
  else
    let places := scale.natAbs
    if places < digits.length then
      digits.take (digits.length - places) ++ '.' :: digits.drop (digits.length - places)
    else '0' :: '.' :: Digits.fill places '0' digits

def plainChars (d : Decimal) : List Char :=
  let magnitude := magnitudeChars d.mantissa.natAbs d.scale
  if d.mantissa < 0 then '-' :: magnitude else magnitude

def plain (d : Decimal) : String := String.ofList d.plainChars

/-- A short text for messages: a scale wider than a preview is written as an exponent. -/
def preview (d : Decimal) : String :=
  if previewLength < d.scale.natAbs then
    String.ofList (intChars d.mantissa ++ 'E' :: intChars (-d.scale))
  else d.plain

/-! ## Integer part -/

/-- The widest integer, in digits, that is ever built from a decimal. -/
def maxIntegerDigits : Nat := 4096

/-- The widest scale, either way, that an integer part is taken of. -/
def maxIntegerScale : Nat := 4294967295

/-- The integer part, truncated toward zero; `none` if it is too wide to hold. -/
def toInteger? (d : Decimal) : Option Int :=
  if d.mantissa = 0 then some 0
  else if maxIntegerScale < d.scale.natAbs then none
  else if d.scale ≤ 0 then
    if maxIntegerDigits < d.digitCount + d.scale.natAbs then none
    else some (d.mantissa * Nat.pow 10 d.scale.natAbs)
  else if d.digitCount ≤ d.scale.natAbs then some 0
  else some (d.mantissa.tdiv (Nat.pow 10 d.scale.natAbs))

/-! ## Order -/

/-- The widest gap between two scales that is ever closed by zeros. -/
def maxScaleGap : Nat := 4294967295

/-- The order of two magnitudes `m · 10 ^ (-s)`, both nonzero, of one leading exponent: both
mantissas are brought to the larger scale, which adds no more digits than the other has. Where that
would still be too many, the magnitude of the smaller scale counts as the greater. -/
def compareAligned (m : Nat) (s : Int) (n : Nat) (t : Int) : Ordering :=
  if maxScaleGap < (s - t).natAbs then Ord.compare t s
  else if s ≤ t then Ord.compare (m * Nat.pow 10 (t - s).natAbs) n
  else Ord.compare m (n * Nat.pow 10 (s - t).natAbs)

/-- The order of the absolute values of two nonzero numbers: by leading exponent, then exactly. -/
def compareMagnitude (a b : Decimal) : Ordering :=
  if a.leadingExponent = b.leadingExponent then
    compareAligned a.mantissa.natAbs a.scale b.mantissa.natAbs b.scale
  else Ord.compare a.leadingExponent b.leadingExponent

/-- The order of the values of two decimals: by sign, then by magnitude. -/
def compare (a b : Decimal) : Ordering :=
  match Ord.compare a.mantissa.sign b.mantissa.sign with
  | .eq =>
    if a.mantissa = 0 then .eq
    else if 0 < a.mantissa then compareMagnitude a b
    else compareMagnitude b a
  | unequal => unequal

def sameValue (a b : Decimal) : Bool := compare a b == .eq

def atMost (a b : Decimal) : Bool := compare a b != .gt

end Decimal

end TableExchange
