import TableExchange.Text.Ascii
import TableExchange.Text.Blank
import TableExchange.Text.Digits

/-!
# Fixed time zones

A zone is written as an optional `GMT` or `UTC`, then nothing, `Z`, or a signed offset: `H:M`,
four digits `HHMM`, or an hour alone. Case and blanks around do not count.

* `TimeZone.offset?`: the offset of a zone from UTC, in seconds.
-/

namespace TableExchange

namespace TimeZone

def maxHour : Nat := 25

def maxMinute : Nat := 59

/-- Hour and minute of an offset without its sign, as texts. -/
def split (cs : List Char) : List Char × List Char :=
  if cs.contains ':' then (cs.takeWhile (· != ':'), (cs.dropWhile (· != ':')).drop 1)
  else if cs.length = 4 then (cs.take 2, cs.drop 2)
  else (cs, ['0'])

/-- The seconds of an offset without its sign. -/
def seconds? (cs : List Char) : Option Nat :=
  let (hour, minute) := split cs
  if Digits.isNumeral hour ∧ Digits.isNumeral minute ∧ Digits.toNat hour ≤ maxHour ∧
      Digits.toNat minute ≤ maxMinute then
    some (3600 * Digits.toNat hour + 60 * Digits.toNat minute)
  else none

/-- A text without the leading `GMT` or else `UTC`. -/
def withoutName : List Char → List Char
  | 'G' :: 'M' :: 'T' :: rest => rest
  | 'U' :: 'T' :: 'C' :: rest => rest
  | rest => rest

/-- The offset of a zone from UTC in seconds. -/
def offset? (zone : String) : Option Int :=
  match withoutName (upperCase (trim zone)).toList with
  | [] => some 0
  | ['Z'] => some 0
  | '+' :: rest => (seconds? rest).map fun n => (n : Int)
  | '-' :: rest => (seconds? rest).map fun n => -(n : Int)
  | _ => none

end TimeZone

end TableExchange
