import TableExchange.Calendar.Rendering

/-!
# Instants from text

A text is matched against a format description from left to right; each component leaves its
number in a record of `Fields`, and the fields then give a date, a time of day and an offset. A
date or a time that is incomplete or does not exist counts as missing.

* `Format.match?`: the fields that a whole text leaves under a description.
* `Fields.date?`, `Fields.time?`, `Fields.offset?`: what the fields give.
* `Format.parse?`: the instant that a text spells. A missing date is the epoch's, a missing time
  is midnight; both may not be missing.
-/

namespace TableExchange

/-- What the components of a text have given so far. -/
structure Fields where
  year : Option Int := none
  month : Option Nat := none
  day : Option Nat := none
  ordinal : Option Nat := none
  hour : Option Nat := none
  dialHour : Option Nat := none
  afternoon : Option Bool := none
  minute : Option Nat := none
  second : Option Nat := none
  nanosecond : Option Nat := none
  offsetHour : Option Nat := none
  offsetMinute : Option Nat := none
  offsetNegative : Bool := false
  deriving DecidableEq, Repr

namespace Fields

/-- The date of the fields: by the day of the year if that is given, else by month and day. -/
def date? (f : Fields) : Option Date :=
  match f.year, f.ordinal, f.month, f.day with
  | some year, some ordinal, _, _ => Date.ofOrdinal? year ordinal
  | some year, none, some month, some day => Date.ofMonthDay? year month day
  | _, _, _, _ => none

/-- The hour of the fields: on the full dial if that is given, else with the half of the day. -/
def hour? (f : Fields) : Option Nat :=
  match f.hour, f.dialHour, f.afternoon with
  | some hour, _, _ => some hour
  | none, some hour, some afternoon => some (hour % 12 + if afternoon then 12 else 0)
  | _, _, _ => none

/-- The time of the fields. Smaller parts are zero if they are missing, but none may be missing
above one that is given. -/
def time? (f : Fields) : Option TimeOfDay :=
  match f.hour?, f.minute, f.second, f.nanosecond with
  | some hour, none, none, none => TimeOfDay.ofParts? hour 0 0 0
  | some hour, some minute, none, none => TimeOfDay.ofParts? hour minute 0 0
  | some hour, some minute, some second, none => TimeOfDay.ofParts? hour minute second 0
  | some hour, some minute, some second, some nanosecond =>
    TimeOfDay.ofParts? hour minute second nanosecond
  | _, _, _, _ => none

/-- The offset of the fields in seconds, if its hour is given; the minute has the hour's sign. -/
def offset? (f : Fields) : Option Int :=
  f.offsetHour.map fun hour =>
    let magnitude : Int := hour * 3600 + f.offsetMinute.getD 0 * 60
    if f.offsetNegative then -magnitude else magnitude

end Fields

namespace Format

/-! ## Components -/

def takeExactly (width : Nat) (cs : List Char) : Option (Nat × List Char) :=
  if (cs.take width).length = width ∧ Digits.areDigits (cs.take width) then
    some (Digits.toNat (cs.take width), cs.drop width)
  else none

/-- Takes as many digits as there are, from one to `width`. -/
def takeUpTo (width : Nat) (cs : List Char) : Option (Nat × List Char) :=
  match (cs.take width).takeWhile Char.isDigit with
  | [] => none
  | digits => some (Digits.toNat digits, cs.drop digits.length)

/-- Takes a number of the given width. Padded with blanks, it has as many digits fewer as there
are blanks before it, but at least one. -/
def takeNumber (padding : Padding) (width : Nat) (cs : List Char) : Option (Nat × List Char) :=
  match padding with
  | .zero => takeExactly width cs
  | .none => takeUpTo width cs
  | .space =>
    let blanks := ((cs.take (width - 1)).takeWhile (· == ' ')).length
    takeExactly (width - blanks) (cs.drop blanks)

/-- Takes a number of the given width from `low` to `high`. -/
def takeWithin (padding : Padding) (width low high : Nat) (cs : List Char) :
    Option (Nat × List Char) := do
  let (n, rest) ← takeNumber padding width cs
  if low ≤ n ∧ n ≤ high then some (n, rest) else none

/-- Takes a sign off a text, if it has one: whether it is a minus. -/
def takeSign : List Char → Option Bool × List Char
  | '+' :: rest => (some false, rest)
  | '-' :: rest => (some true, rest)
  | rest => (none, rest)

/-- Takes the first of the given words that the text begins with: its index. -/
def takeWord (words : List (List Char)) (cs : List Char) : Option (Nat × List Char) :=
  match words.findIdx? (·.isPrefixOf cs) with
  | some i => some (i, cs.drop (words[i]?.getD []).length)
  | none => none

/-- Takes a half of the day, in upper case or, if `lower`, in either case: whether it is the
afternoon. -/
def takePeriod (lower : Bool) (cs : List Char) : Option (Bool × List Char) :=
  let word := if lower then (cs.take 2).map Char.toUpper else cs.take 2
  if word = ['A', 'M'] then some (false, cs.drop 2)
  else if word = ['P', 'M'] then some (true, cs.drop 2)
  else none

/-- The most digits of a fraction of any length that are taken. -/
def maxFractionDigits : Nat := 32

/-- The nanoseconds of a fraction's digits; those after the ninth are ignored. -/
def nanosOfFraction (digits : List Char) : Nat :=
  Digits.toNat ((digits ++ List.replicate 9 '0').take 9)

/-- Takes a fraction of a second: its nanoseconds. -/
def takeFraction (digits : Option Nat) (cs : List Char) : Option (Nat × List Char) :=
  let found := (cs.take (digits.getD maxFractionDigits)).takeWhile Char.isDigit
  if found.isEmpty then none
  else match digits with
    | some n => if found.length = n then some (nanosOfFraction found, cs.drop n) else none
    | none => some (nanosOfFraction found, cs.drop found.length)

/-- Matches one component at the front of a text. -/
def matchPart (f : Fields) (cs : List Char) : FormatPart → Option (Fields × List Char)
  | .year padding signed => do
    let (sign, rest) := takeSign cs
    if signed && sign.isNone then none
    let (n, rest) ← takeNumber padding 4 rest
    return ({ f with year := some (if sign = some true then -(n : Int) else n) }, rest)
  | .month padding .number => do
    let (n, rest) ← takeWithin padding 2 1 12 cs
    return ({ f with month := some n }, rest)
  | .month _ style => do
    let (i, rest) ← takeWord (monthWords style) cs
    return ({ f with month := some (i + 1) }, rest)
  | .day padding => do
    let (n, rest) ← takeWithin padding 2 1 31 cs
    return ({ f with day := some n }, rest)
  | .ordinal padding => do
    let (n, rest) ← takeWithin padding 3 1 366 cs
    return ({ f with ordinal := some n }, rest)
  | .hour padding false => do
    let (n, rest) ← takeWithin padding 2 0 23 cs
    return ({ f with hour := some n }, rest)
  | .hour padding true => do
    let (n, rest) ← takeWithin padding 2 1 12 cs
    return ({ f with dialHour := some n }, rest)
  | .period lower => do
    let (afternoon, rest) ← takePeriod lower cs
    return ({ f with afternoon := some afternoon }, rest)
  | .minute padding => do
    let (n, rest) ← takeWithin padding 2 0 59 cs
    return ({ f with minute := some n }, rest)
  | .second padding => do
    let (n, rest) ← takeWithin padding 2 0 60 cs
    return ({ f with second := some n }, rest)
  | .subsecond digits => do
    let (n, rest) ← takeFraction digits cs
    return ({ f with nanosecond := some n }, rest)
  | .offsetHour padding signed => do
    let (sign, rest) := takeSign cs
    if signed && sign.isNone then none
    let (n, rest) ← takeWithin padding 2 0 25 rest
    return ({ f with offsetHour := some n, offsetNegative := sign = some true }, rest)
  | .offsetMinute padding => do
    let (n, rest) ← takeWithin padding 2 0 59 cs
    return ({ f with offsetMinute := some n }, rest)

/-! ## Descriptions -/

mutual

/-- Matches an item at the front of a text. An optional item that does not match is passed over. -/
def matchItem (f : Fields) (cs : List Char) : FormatItem → Option (Fields × List Char)
  | .literal c => if cs.head? = some c then some (f, cs.drop 1) else none
  | .part p => matchPart f cs p
  | .optional items => some ((matchItems f cs items).getD (f, cs))

/-- Matches items, one after the other, at the front of a text. -/
def matchItems (f : Fields) (cs : List Char) : List FormatItem → Option (Fields × List Char)
  | [] => some (f, cs)
  | item :: rest =>
    match matchItem f cs item with
    | some (f, cs) => matchItems f cs rest
    | none => none

end

/-- The fields that a whole text leaves under a format description. -/
def match? (format : Format) (text : String) : Option Fields :=
  match matchItems {} text.toList format with
  | some (f, []) => some f
  | _ => none

/-- The instant that a text spells; without an offset in the text it is at `offset`. -/
def parse? (format : Format) (offset : Int) (text : String) : Option Instant := do
  let f ← format.match? text
  let seenAt := f.offset?.getD offset
  match f.date?, f.time? with
  | none, none => none
  | date, time =>
    return Instant.ofLocal (date.getD Date.epoch) (time.getD TimeOfDay.midnight) seenAt

end Format

end TableExchange
