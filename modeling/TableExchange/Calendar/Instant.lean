import TableExchange.Calendar.Date

/-!
# Instants

A point in time, to the nanosecond, together with the offset from UTC in which it is seen.

* `Instant.ofNanos?`: the instant with the given Unix time, if UTC dates it within the calendar.
* `Instant.local?`: date and time of day at an offset, if they are within the calendar.
* `Instant.ofLocal`: the instant with the given date and time of day at an offset.
-/

namespace TableExchange

def nanosPerSecond : Nat := 1000000000

def nanosPerMilli : Nat := 1000000

def secondsPerDay : Nat := 86400

/-- A point in time: Unix time in nanoseconds, and an offset from UTC in seconds. -/
structure Instant where
  nanos : Int
  offset : Int
  deriving DecidableEq, Repr

namespace Instant

/-- Whole seconds of Unix time. -/
def seconds (t : Instant) : Int := t.nanos / nanosPerSecond

/-- Nanoseconds past the whole second. -/
def nanosecond (t : Instant) : Nat := (t.nanos % nanosPerSecond).toNat

/-- The instant of a Unix time, if its UTC year is one of the calendar. -/
def ofNanos? (nanos : Int) : Option Instant :=
  let day := nanos / (nanosPerSecond * secondsPerDay : Nat)
  if Date.isYear (Date.ofEpochDay day).year then some ⟨nanos, 0⟩ else none

/-- The instant of milliseconds of Unix time and a remainder in nanoseconds. -/
def ofMillis? (millis : Int) (remainder : Nat) : Option Instant :=
  ofNanos? (millis * nanosPerMilli + remainder)

/-- The same point in time, seen at another offset. -/
def atOffset (t : Instant) (offset : Int) : Instant := ⟨t.nanos, offset⟩

/-- Seconds of local time at an offset, counted from the local epoch. -/
def localSeconds (t : Instant) (offset : Int) : Int := t.seconds + offset

/-- Local date at an offset, whatever its year. -/
def localDate (t : Instant) (offset : Int) : Date :=
  Date.ofEpochDay (t.localSeconds offset / secondsPerDay)

def localTime (t : Instant) (offset : Int) : TimeOfDay :=
  let s := (t.localSeconds offset % secondsPerDay).toNat
  ⟨s / 3600, s / 60 % 60, s % 60, t.nanosecond⟩

/-- Local date and time of day at an offset, if the year is one of the calendar. -/
def local? (t : Instant) (offset : Int) : Option (Date × TimeOfDay) :=
  if Date.isYear (t.localDate offset).year then some (t.localDate offset, t.localTime offset)
  else none

/-- The instant with the given local date and time of day. -/
def ofLocal (date : Date) (time : TimeOfDay) (offset : Int) : Instant :=
  ⟨(date.toEpochDay * secondsPerDay + time.toSeconds - offset) * nanosPerSecond +
    time.nanosecond, offset⟩

end Instant

end TableExchange
