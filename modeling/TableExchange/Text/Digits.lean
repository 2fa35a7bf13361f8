/-!
# Decimal digits

Numbers written in base ten, and digit strings read back.

* `Digits.ofNat n`: the digits of `n`, most significant first, without leading zeros (zero is `0`).
* `Digits.toNat cs`: the number that a digit string denotes; leading zeros count for nothing.
* `Digits.padded w n`: the digits of `n`, filled up with zeros on the left to `w` characters.
* `intText`, `readInteger?`: integers with a sign, written and read.
-/

namespace TableExchange

/-- Base-ten digit strings. -/
abbrev Digits := List Char

namespace Digits

/-- The digits of `n` without leading zeros; zero is the one digit `0`. -/
def ofNat (n : Nat) : Digits := Nat.toDigits 10 n

/-- The number that a digit string denotes. -/
def toNat (cs : Digits) : Nat := Nat.ofDigitChars 10 cs 0

/-- Whether a text is a digit string, the empty one included. -/
def areDigits (cs : List Char) : Bool := cs.all Char.isDigit

/-- Whether a text is a digit string of at least one digit. -/
def isNumeral (cs : List Char) : Bool := !cs.isEmpty && areDigits cs

/-- A text filled up on the left to `width` characters. -/
def fill (width : Nat) (pad : Char) (cs : List Char) : List Char :=
  List.replicate (width - cs.length) pad ++ cs

/-- The digits of `n`, filled up with zeros to `width` digits. -/
def padded (width n : Nat) : Digits := fill width '0' (ofNat n)

theorem toNat_ofNat (n : Nat) : toNat (ofNat n) = n :=
  Nat.ofDigitChars_toDigits (by decide) (by decide)

theorem areDigits_ofNat (n : Nat) : areDigits (ofNat n) = true := by
  simp only [areDigits, List.all_eq_true]
  intro c hc
  exact Nat.isDigit_of_mem_toDigits (by decide) (by decide) hc

end Digits

/-- A natural number in base ten. -/
def natText (n : Nat) : String := String.ofList (Digits.ofNat n)

/-- An integer in base ten, with a minus sign before a negative one. -/
def intChars (n : Int) : List Char :=
  if n < 0 then '-' :: Digits.ofNat n.natAbs else Digits.ofNat n.natAbs

/-- An integer in base ten, with a minus sign before a negative one. -/
def intText (n : Int) : String := String.ofList (intChars n)

/-- Reads a whole text as an integer: an optional sign, then digits. -/
def readInteger? : List Char → Option Int
  | '-' :: digits => if Digits.isNumeral digits then some (-(Digits.toNat digits : Int)) else none
  | '+' :: digits => if Digits.isNumeral digits then some (Digits.toNat digits) else none
  | digits => if Digits.isNumeral digits then some (Digits.toNat digits) else none

end TableExchange
