/-!
# Dates and times of day

The proleptic Gregorian calendar with a year 0. A date is a year and the number of the day in it;
month and day of the month follow from that.

* `Date.ofEpochDay`, `Date.toEpochDay`: dates as days counted from 1 January 1970.
* `Date.ofMonthDay?`, `Date.ofOrdinal?`: the date with the given parts, if it exists.
* `TimeOfDay.ofParts?`: the time with the given parts, if it exists.
-/

namespace TableExchange

def isLeapYear (year : Int) : Bool :=
  decide (year % 4 = 0 ∧ (year % 100 ≠ 0 ∨ year % 400 = 0))

def daysInYear (year : Int) : Nat := if isLeapYear year then 366 else 365

/-- Days from 1 January of year 0 to 1 January of `year`. -/
def daysBeforeYear (year : Int) : Int :=
  365 * year + (year + 3) / 4 - (year + 99) / 100 + (year + 399) / 400

def monthLengths (leap : Bool) : List Nat :=
  [31, if leap then 29 else 28, 31, 30, 31, 30, 31, 31, 30, 31, 30, 31]

/-- A date: a year and a day of it, counted from 1. -/
structure Date where
  year : Int
  ordinal : Nat
  deriving DecidableEq, Repr

namespace Date

def minYear : Int := -9999

def maxYear : Int := 9999

/-- Days from 1 January of year 0 to 1 January 1970. -/
def epochOffset : Int := 719528

def isYear (year : Int) : Bool := decide (minYear ≤ year ∧ year ≤ maxYear)

def ofOrdinal? (year : Int) (ordinal : Nat) : Option Date :=
  if isYear year && decide (1 ≤ ordinal ∧ ordinal ≤ daysInYear year) then some ⟨year, ordinal⟩
  else none

def ofMonthDay? (year : Int) (month day : Nat) : Option Date :=
  let lengths := monthLengths (isLeapYear year)
  match lengths[month - 1]? with
  | some length =>
    if isYear year && decide (1 ≤ month ∧ 1 ≤ day ∧ day ≤ length) then
      some ⟨year, (lengths.take (month - 1)).foldr (· + ·) 0 + day⟩
    else none
  | none => none

/-- Month, counted from `month`, and day of the month of the day `day` of the given months. -/
def walkMonths (month day : Nat) : List Nat → Nat × Nat
  | [] => (month, day)
  | length :: rest =>
    if day ≤ length then (month, day) else walkMonths (month + 1) (day - length) rest

def monthDay (d : Date) : Nat × Nat := walkMonths 1 d.ordinal (monthLengths (isLeapYear d.year))

/-- The month of a date, counted from 1. -/
def month (d : Date) : Nat := d.monthDay.1

def day (d : Date) : Nat := d.monthDay.2

/-- Days from 1 January 1970. -/
def toEpochDay (d : Date) : Int := daysBeforeYear d.year - epochOffset + d.ordinal - 1

/-- The year that holds the day `n` after 1 January of year 0. The mean length of a year gives it,
or one of its neighbours. -/
def yearOfDay (n : Int) : Int :=
  let guess := 400 * n / 146097
  if n < daysBeforeYear guess then guess - 1
  else if daysBeforeYear (guess + 1) ≤ n then guess + 1
  else guess

def ofEpochDay (n : Int) : Date :=
  let day := n + epochOffset
  let year := yearOfDay day
  ⟨year, (day - daysBeforeYear year + 1).toNat⟩

def epoch : Date := ⟨1970, 1⟩

end Date

structure TimeOfDay where
  hour : Nat
  minute : Nat
  second : Nat
  nanosecond : Nat
  deriving DecidableEq, Repr

namespace TimeOfDay

def midnight : TimeOfDay := ⟨0, 0, 0, 0⟩

def ofParts? (hour minute second nanosecond : Nat) : Option TimeOfDay :=
  if hour < 24 ∧ minute < 60 ∧ second < 60 ∧ nanosecond < 1000000000 then
    some ⟨hour, minute, second, nanosecond⟩
  else none

def toSeconds (t : TimeOfDay) : Nat := (t.hour * 60 + t.minute) * 60 + t.second

end TimeOfDay

end TableExchange
