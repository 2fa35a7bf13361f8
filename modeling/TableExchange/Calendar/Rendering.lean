import TableExchange.Calendar.Format
import TableExchange.Calendar.Instant

/-!
# Instants as text

* `Format.render`: the text of a local date and time under a format description. Optional items
  are always written.
-/

namespace TableExchange

namespace Format

def monthNames : List String :=
  ["January", "February", "March", "April", "May", "June", "July", "August", "September",
    "October", "November", "December"]

def monthWords : MonthStyle → List (List Char)
  | .number => []
  | .short => monthNames.map (·.toList.take 3)
  | .long => monthNames.map (·.toList)

def numberChars (padding : Padding) (width n : Nat) : List Char :=
  match padding with
  | .zero => Digits.padded width n
  | .space => Digits.fill width ' ' (Digits.ofNat n)
  | .none => Digits.ofNat n

/-- The sign of a number: a minus where it is negative, a plus only if it is asked for. -/
def signChars (negative signed : Bool) : List Char :=
  if negative then ['-'] else if signed then ['+'] else []

def dialHour (hour : Nat) : Nat := if hour % 12 = 0 then 12 else hour % 12

/-- A fraction of a second in nanoseconds without the zeros at its end; one digit at least. -/
def fractionChars (nanosecond : Nat) : List Char :=
  match ((Digits.padded 9 nanosecond).reverse.dropWhile (· == '0')).reverse with
  | [] => ['0']
  | digits => digits

def partChars (date : Date) (time : TimeOfDay) (offset : Int) : FormatPart → List Char
  | .year padding signed =>
    signChars (decide (date.year < 0)) signed ++ numberChars padding 4 date.year.natAbs
  | .month padding .number => numberChars padding 2 date.month
  | .month _ style => ((monthWords style)[date.month - 1]?).getD []
  | .day padding => numberChars padding 2 date.day
  | .ordinal padding => numberChars padding 3 date.ordinal
  | .hour padding twelve => numberChars padding 2 (if twelve then dialHour time.hour else time.hour)
  | .period lower =>
    match decide (time.hour < 12), lower with
    | true, true => ['a', 'm']
    | true, false => ['A', 'M']
    | false, true => ['p', 'm']
    | false, false => ['P', 'M']
  | .minute padding => numberChars padding 2 time.minute
  | .second padding => numberChars padding 2 time.second
  | .subsecond none => fractionChars time.nanosecond
  | .subsecond (some digits) => (Digits.padded 9 time.nanosecond).take digits
  | .offsetHour padding signed =>
    signChars (decide (offset < 0)) signed ++ numberChars padding 2 (offset.natAbs / 3600)
  | .offsetMinute padding => numberChars padding 2 (offset.natAbs / 60 % 60)

mutual

def itemChars (date : Date) (time : TimeOfDay) (offset : Int) : FormatItem → List Char
  | .literal c => [c]
  | .part p => partChars date time offset p
  | .optional items => renderChars date time offset items

/-- The text of a local date and time under a format description. -/
def renderChars (date : Date) (time : TimeOfDay) (offset : Int) : List FormatItem → List Char
  | [] => []
  | item :: rest => itemChars date time offset item ++ renderChars date time offset rest

end

/-- The text of a local date and time under a format description. -/
def render (format : Format) (date : Date) (time : TimeOfDay) (offset : Int) : String :=
  String.ofList (renderChars date time offset format)

end Format

end TableExchange
