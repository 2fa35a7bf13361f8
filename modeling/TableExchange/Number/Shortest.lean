import TableExchange.Number.Binary64

/-!
# Shortest decimals

The decimal with the fewest digits that reads back as a given binary64 number, and the nearest of
those. The reals that round to a number form an interval around it, with its ends if the
significand is even. For one digit, two, and so on, the two neighbours of the number on that
decimal grid are tried; the first grid with a neighbour in the interval settles it.

* `Binary64.Finite.shortest`: the magnitude's shortest decimal.
-/

namespace TableExchange

/-- Which of two equally near decimals is taken. -/
inductive DecimalTie where
  | up
  /-- The one whose last digit is even. -/
  | even
  deriving DecidableEq, Repr

namespace Binary64

/-- The `e` with `10 ^ e ≤ num / den < 10 ^ (e + 1)`, for positive `num` and `den`. -/
def floorLog10 (num den : Nat) : Int :=
  floorLog 10 num den ((Digits.ofNat num).length - (Digits.ofNat den).length)

/-- The reals that round to one magnitude, between `low / unit` and `high / unit`. -/
structure Interval where
  low : Nat
  high : Nat
  unit : Nat
  closed : Bool

/-- The interval of a magnitude. Below a power of two the next number is half as far away. -/
def Finite.interval (x : Finite) : Interval :=
  let below := if x.significand = leadingBit ∧ -1074 < x.exponent then 1 else 2
  let (up, unit) := unscale 2 1 4 (-x.exponent)
  { low := (4 * x.significand - below) * up
    high := (4 * x.significand + 2) * up
    unit
    closed := x.significand % 2 == 0 }

def Interval.contains (i : Interval) (num den : Nat) : Bool :=
  if i.closed then decide (i.low * den ≤ num * i.unit ∧ num * i.unit ≤ i.high * den)
  else decide (i.low * den < num * i.unit ∧ num * i.unit < i.high * den)

/-- Of the neighbours `d` and `d + 1` of `(num / den) / 10 ^ e`, the nearest in the interval. -/
def gridNeighbour? (tie : DecimalTie) (i : Interval) (num den : Nat) (e : Int) : Option Nat :=
  let (a, b) := unscale 10 num den e
  let d := a / b
  let inside (n : Nat) : Bool :=
    let (p, q) := unscale 10 n 1 (-e)
    i.contains p q
  match inside d, inside (d + 1) with
  | false, false => none
  | true, false => some d
  | false, true => some (d + 1)
  | true, true =>
    let r := a % b
    if 2 * r < b then some d
    else if b < 2 * r then some (d + 1)
    else match tie with
      | .up => some (d + 1)
      | .even => some (if d % 2 = 0 then d else d + 1)

/-- A number of digits that always suffices. -/
def maxShortestDigits : Nat := 17

/-- The magnitude's shortest decimal, tried with `maxShortestDigits - left` digits and more. -/
def shortestFrom (tie : DecimalTie) (i : Interval) (num den : Nat) (top : Int) : Nat → Decimal
  | 0 => ⟨0, 0⟩
  | left + 1 =>
    let e := top + 1 - (maxShortestDigits - left)
    match gridNeighbour? tie i num den e with
    | some d => ⟨d, -e⟩
    | none => shortestFrom tie i num den top left

/-- The shortest decimal of a magnitude. -/
def Finite.shortest (tie : DecimalTie) (x : Finite) : Decimal :=
  if x.significand = 0 then ⟨0, 0⟩
  else
    let (num, den) := x.ratio
    shortestFrom tie x.interval num den (floorLog10 num den) maxShortestDigits

end Binary64

end TableExchange
