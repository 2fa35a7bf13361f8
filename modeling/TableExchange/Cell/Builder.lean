import TableExchange.Calendar.Instant
import TableExchange.Cell.Basic

/-!
# Building date and timestamp cells

What a date or timestamp cell carries beside its milliseconds is fixed while it is built, step by
step; a later step replaces what an earlier one has set.

* `DateBuilder`, `TimestampBuilder`: the values being built.
* `fractionDigits?`: the fraction digits of a precision that a driver reports for a time column.
-/

namespace TableExchange

/-- The fraction digits of a reported column precision: 10 stands for none and 12 to 17 for one to
six; other precisions say nothing. -/
def fractionDigits? (reported : Int) : Option Nat :=
  if reported = 10 then some 0
  else if 12 ≤ reported ∧ reported ≤ 17 then some (reported - 11).toNat
  else none

/-- Milliseconds of Unix time: those of the whole second, and those within it. -/
def Instant.millis (t : Instant) : Int := t.seconds * 1000 + (t.nanosecond / nanosPerMilli : Nat)

/-- Nanoseconds past the whole millisecond. -/
def Instant.pastMilli (t : Instant) : Nat := t.nanosecond % nanosPerMilli

/-- A date cell being built. -/
structure DateBuilder where
  millis : Option Int
  kind : DateKind := .dateTime
  nanos : Nat := 0
  precision : Option Nat := none
  deriving DecidableEq, Repr

namespace DateBuilder

/-- Starts from milliseconds of Unix time. -/
def ofMillis (millis : Option Int) : DateBuilder := { millis }

def ofInstant (t : Instant) : DateBuilder := { millis := some t.millis, nanos := t.pastMilli }

/-- Sets which format shows the cell. -/
def withKind (b : DateBuilder) (kind : DateKind) : DateBuilder := { b with kind }

/-- Sets the nanoseconds of the second; only what is past the millisecond is kept. -/
def withNanosOfSecond (b : DateBuilder) (nanos : Nat) : DateBuilder :=
  { b with nanos := nanos % nanosPerMilli }

/-- Sets the number of fraction digits. -/
def withPrecision (b : DateBuilder) (digits : Nat) : DateBuilder :=
  { b with precision := some digits }

/-- Sets the number of fraction digits by a reported precision, if that says anything. -/
def withReportedPrecision (b : DateBuilder) (reported : Int) : DateBuilder :=
  match fractionDigits? reported with
  | some digits => b.withPrecision digits
  | none => b

def build (b : DateBuilder) : Cell :=
  .date (b.millis.map fun millis => ⟨millis, b.kind, b.nanos, b.precision⟩)

end DateBuilder

/-- A timestamp cell being built. -/
structure TimestampBuilder where
  millis : Option Int
  nanos : Nat := 0
  precision : Option Nat := none
  deriving DecidableEq, Repr

namespace TimestampBuilder

/-- Starts from milliseconds of Unix time. -/
def ofMillis (millis : Option Int) : TimestampBuilder := { millis }

def ofInstant (t : Instant) : TimestampBuilder :=
  { millis := some t.millis, nanos := t.pastMilli }

/-- Sets the nanoseconds of the second; only what is past the millisecond is kept. -/
def withNanosOfSecond (b : TimestampBuilder) (nanos : Nat) : TimestampBuilder :=
  { b with nanos := nanos % nanosPerMilli }

/-- Sets the number of fraction digits. -/
def withPrecision (b : TimestampBuilder) (digits : Nat) : TimestampBuilder :=
  { b with precision := some digits }

def build (b : TimestampBuilder) : Cell :=
  .timestamp (b.millis.map fun millis => ⟨millis, b.nanos, b.precision⟩)

end TimestampBuilder

end TableExchange
