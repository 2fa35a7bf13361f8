import TableExchange.Cell.Kind
import TableExchange.Number.Decimal

/-!
# Range guards

Every narrowing of a number passes one of two checks first.

* `narrow`: an integer within 64 bits, or an overflow.
* `checkDouble`: a decimal within the range of finite doubles, or an overflow. Zero always is;
  a nonzero magnitude has to lie from `leastDouble` to `greatestDouble`.
-/

namespace TableExchange

/-- A number is outside the range of the type asked for. -/
structure Overflow where
  preview : String
  target : Target
  deriving DecidableEq, Repr

namespace Overflow

/-- The overflow of the value with the given text, of which a preview is kept. -/
def ofText (text : String) (target : Target) : Overflow := ⟨cut text, target⟩

def message (e : Overflow) : String :=
  "value '" ++ e.preview ++ "' overflows the " ++ e.target.label ++ " range"

end Overflow

/-- The least integer of 64 bits. -/
def minLong : Int := -9223372036854775808

/-- The greatest integer of 64 bits. -/
def maxLong : Int := 9223372036854775807

def isLong (n : Int) : Bool := decide (minLong ≤ n ∧ n ≤ maxLong)

/-- An integer of 64 bits, or an overflow reported against `target`. -/
def narrow (n : Int) (target : Target := .long) : Except Overflow Int :=
  if isLong n then .ok n else .error (.ofText (intText n) target)

/-- The least positive magnitude that counts as a double. -/
def leastDouble : Decimal := ⟨49, 325⟩

/-- The greatest magnitude that counts as a double. -/
def greatestDouble : Decimal := ⟨17976931348623157, -292⟩

/-- Whether a nonzero decimal is outside the range of finite doubles. -/
def isDoubleOverflow (d : Decimal) : Bool :=
  !d.isZero && (d.abs.compare leastDouble == .lt || d.abs.compare greatestDouble == .gt)

/-- Refuses a decimal outside the range of finite doubles. -/
def checkDouble (d : Decimal) : Except Overflow Unit :=
  if isDoubleOverflow d then .error (.ofText d.preview .double) else .ok ()

end TableExchange
