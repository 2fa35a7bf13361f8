import TableExchange.Number.Shortest

/-!
# Texts of binary64 numbers

Every text of a binary64 number shows its shortest decimal. A `FloatStyle` settles the rest: where
positional notation ends, whether a whole number keeps `.0`, how an exponent is written, and the
words for what is no number.

* `Binary64.text`: the text of a number in a style.
* `FloatStyle.plain`, `FloatStyle.cell`, `FloatStyle.value`, `FloatStyle.document`: the styles in
  use.
-/

namespace TableExchange

structure FloatStyle where
  /-- Which of two equally near shortest decimals is written. -/
  tie : DecimalTie
  /-- The leading exponents of nonzero numbers in positional notation; `none` for all. -/
  positional : Option (Int × Int)
  /-- Whether a whole number in positional notation ends in `.0`. -/
  keepsPoint : Bool
  plusExponent : Bool
  nan : String
  infinity : String

namespace FloatStyle

/-- Positional notation throughout: `1`, `0.0000001`, `-0`. -/
def plain : FloatStyle :=
  { tie := .up, positional := none, keepsPoint := false, plusExponent := false
    nan := "NaN", infinity := "inf" }

/-- The text kept in a cell: positional, with infinity spelled out. -/
def cell : FloatStyle := { plain with infinity := "Infinity" }

/-- A value shown in a message: `1.0`, `0.0001`, `1e-5`, `1.5e300`. -/
def value : FloatStyle :=
  { plain with positional := some (-4, 15), keepsPoint := true }

/-- A number in a document: `1.0`, `0.00001`, `1.5e-7`, `1e+16`. -/
def document : FloatStyle :=
  { tie := .even, positional := some (-5, 15), keepsPoint := true, plusExponent := true
    nan := "null", infinity := "null" }

end FloatStyle

namespace Binary64

/-- The digits of `m` without the zeros at its end. -/
def significantDigits (m : Nat) : List Char :=
  ((Digits.ofNat m).reverse.dropWhile (· == '0')).reverse

/-- A magnitude in scientific notation: one digit before the point. -/
def scientificChars (style : FloatStyle) (d : Decimal) : List Char :=
  let exponent := d.leadingExponent
  let mark := if style.plusExponent && decide (0 ≤ exponent) then ['e', '+'] else ['e']
  let digits := match significantDigits d.mantissa.natAbs with
    | [] => ['0']
    | [c] => [c]
    | c :: rest => c :: '.' :: rest
  digits ++ mark ++ intChars exponent

def positionalChars (style : FloatStyle) (d : Decimal) : List Char :=
  let digits := significantDigits d.mantissa.natAbs
  let scale := (digits.length : Int) - 1 - d.leadingExponent
  let chars := Decimal.magnitudeChars (Digits.toNat digits) scale
  if style.keepsPoint && decide (scale ≤ 0) then chars ++ ['.', '0'] else chars

def isPositional (style : FloatStyle) (d : Decimal) : Bool :=
  match style.positional with
  | none => true
  | some (low, high) =>
    d.isZero || (decide (low ≤ d.leadingExponent) && decide (d.leadingExponent ≤ high))

def Finite.chars (style : FloatStyle) (x : Finite) : List Char :=
  let d := x.shortest style.tie
  let magnitude :=
    if isPositional style d then positionalChars style d else scientificChars style d
  if x.negative then '-' :: magnitude else magnitude

def text (style : FloatStyle) : Binary64 → String
  | .finite x => String.ofList (x.chars style)
  | .infinity false => style.infinity
  | .infinity true => "-" ++ style.infinity
  | .nan => style.nan

end Binary64

end TableExchange
