import TableExchange.Number.DecimalLiteral

/-!
# Binary64 numbers

The binary floating-point numbers of 64 bits, as exact values: a finite one is
`± significand · 2 ^ exponent` in its one canonical form. There is no machine arithmetic: every
operation is exact and then rounded once, to the nearest number, a half going to the even
significand.

* `Binary64.ofRatio`: the number nearest to a quotient of naturals; beyond the largest finite
  number it is infinite.
* `Binary64.ofDecimal`, `Binary64.ofInt`: the number nearest to a decimal or an integer.
* `Binary64.ofBits`, `Binary64.toBits`: the interchange encoding.
-/

namespace TableExchange

namespace Binary64

/-- The bound of a significand of 53 bits. -/
def significandBound : Nat := Nat.pow 2 53

/-- The least significand that fills its 53 bits. -/
def leadingBit : Nat := Nat.pow 2 52

/-- The canonical form of a finite magnitude `significand · 2 ^ exponent`: the significand fills
its 53 bits unless the exponent is the least. -/
def Canonical (significand : Nat) (exponent : Int) : Prop :=
  significand < significandBound ∧ -1074 ≤ exponent ∧ exponent ≤ 971 ∧
    (leadingBit ≤ significand ∨ exponent = -1074)

instance (m : Nat) (e : Int) : Decidable (Canonical m e) :=
  inferInstanceAs (Decidable (_ ∧ _ ∧ _ ∧ _))

/-- A finite number `± significand · 2 ^ exponent`. Zero has a sign as well. -/
structure Finite where
  negative : Bool
  significand : Nat
  exponent : Int
  canonical : Canonical significand exponent
  deriving DecidableEq, Repr

end Binary64

/-- A binary floating-point number of 64 bits. -/
inductive Binary64 where
  | finite (value : Binary64.Finite)
  | infinity (negative : Bool)
  | nan
  deriving DecidableEq, Repr

namespace Binary64

def zero (negative : Bool) : Binary64 := .finite ⟨negative, 0, -1074, by decide⟩

/-- The number with the given canonical parts; parts beyond the largest exponent are infinite. -/
def ofParts (negative : Bool) (significand : Nat) (exponent : Int) : Binary64 :=
  if h : Canonical significand exponent then .finite ⟨negative, significand, exponent, h⟩
  else .infinity negative

/-! ## Rounding -/

/-- The integer nearest to `num / den`, a half going to the even one. -/
def roundHalfEven (num den : Nat) : Nat :=
  let q := num / den
  let r := num % den
  if 2 * r < den then q
  else if den < 2 * r then q + 1
  else if q % 2 = 0 then q else q + 1

/-- Numerator and denominator of `(num / den) / base ^ e`. -/
def unscale (base num den : Nat) (e : Int) : Nat × Nat :=
  if 0 ≤ e then (num, den * Nat.pow base e.toNat) else (num * Nat.pow base (-e).toNat, den)

/-- The `e` with `base ^ e ≤ num / den < base ^ (e + 1)`, where `guess` is `e` or `e + 1`. -/
def floorLog (base num den : Nat) (guess : Int) : Int :=
  let (a, b) := unscale base num den guess
  if b ≤ a then guess else guess - 1

/-- The `e` with `2 ^ e ≤ num / den < 2 ^ (e + 1)`, for positive `num` and `den`. -/
def floorLog2 (num den : Nat) : Int := floorLog 2 num den (num.log2 - den.log2)

/-- The number nearest to `± num / den`. -/
def ofRatio (negative : Bool) (num den : Nat) : Binary64 :=
  if num = 0 then zero negative
  else
    let e := max (-1074) (floorLog2 num den - 52)
    let (a, b) := unscale 2 num den e
    let m := roundHalfEven a b
    if m < significandBound then ofParts negative m e else ofParts negative (m / 2) (e + 1)

/-- Leading exponents at and beyond which a decimal is certainly infinite, or zero if negative. -/
def decimalHorizon : Int := 400

/-- The number nearest to a decimal. The powers of ten stay small: what lies far outside the range
is settled by its leading exponent. -/
def ofDecimal (d : Decimal) : Binary64 :=
  let negative : Bool := decide (d.mantissa < 0)
  if d.mantissa = 0 then zero false
  else if decimalHorizon < d.leadingExponent then .infinity negative
  else if d.leadingExponent < -decimalHorizon then zero negative
  else
    let (num, den) := unscale 10 d.mantissa.natAbs 1 d.scale
    ofRatio negative num den

def ofInt (n : Int) : Binary64 := ofRatio (decide (n < 0)) n.natAbs 1

/-! ## Exact values -/

/-- The absolute value as numerator and denominator. -/
def Finite.ratio (x : Finite) : Nat × Nat := unscale 2 x.significand 1 (-x.exponent)

/-- The product of two numbers, of which one is finite only if both are. -/
def mul : Binary64 → Binary64 → Binary64
  | .finite x, .finite y =>
    let (a, b) := x.ratio
    let (c, d) := y.ratio
    ofRatio (x.negative ^^ y.negative) (a * c) (b * d)
  | _, _ => .nan

/-- The quotient of two finite numbers, the second nonzero. -/
def div : Binary64 → Binary64 → Binary64
  | .finite x, .finite y =>
    let (a, b) := x.ratio
    let (c, d) := y.ratio
    if c = 0 then .nan else ofRatio (x.negative ^^ y.negative) (a * d) (b * c)
  | _, _ => .nan

def isZero : Binary64 → Bool
  | .finite x => x.significand == 0
  | _ => false

def isInfinite : Binary64 → Bool
  | .infinity _ => true
  | _ => false

def withSign (negative : Bool) : Binary64 → Binary64
  | .finite x => .finite { x with negative }
  | .infinity _ => .infinity negative
  | .nan => .nan

/-- Whether a number lies strictly between two integers; NaN and infinities never do. -/
def isStrictlyBetween (low high : Int) : Binary64 → Bool
  | .finite x =>
    let (num, den) := x.ratio
    let signed : Int := if x.negative then -(num : Int) else num
    decide (low * den < signed ∧ signed < high * den)
  | _ => false

/-! ## Interchange encoding -/

def signBit : Nat := Nat.pow 2 63

def fieldBound : Nat := Nat.pow 2 11

def specialField : Nat := 2047

def ofBits (bits : Nat) : Binary64 :=
  let negative := bits / signBit % 2 == 1
  let field : Nat := bits / leadingBit % fieldBound
  let fraction : Nat := bits % leadingBit
  if field = specialField then (if fraction = 0 then .infinity negative else .nan)
  else if field = 0 then ofParts negative fraction (-1074)
  else ofParts negative (leadingBit + fraction) (field - 1075)

/-- The 64-bit encoding of a number; NaN has the one whose fraction is the top bit. -/
def toBits : Binary64 → Nat
  | .finite x =>
    let sign := if x.negative then signBit else 0
    if x.significand < leadingBit then sign + x.significand
    else sign + (x.exponent + 1075).toNat * leadingBit + (x.significand - leadingBit)
  | .infinity negative => (if negative then signBit else 0) + specialField * leadingBit
  | .nan => specialField * leadingBit + leadingBit / 2

end Binary64

end TableExchange
