import TableExchange.Cell.Builder
import TableExchange.Cell.Codec

/-!
# Conversions of cells

A cell is asked for one of nine types. A variant that has no conversion to the type is refused even
if the cell is null; otherwise null gives null. Numbers pass through an exact decimal and a range
guard; dates and bytes pass through a codec. Every error names the type asked for.

* `Cell.asBool`, `Cell.asLong`, … : the nine conversions.
-/

namespace TableExchange

/-- A converted value, which is absent if the cell is null. -/
abbrev Converted (α : Type) := Except CellError (Option α)

namespace Cell

def unsupported (c : Cell) (target : Target) : CellError :=
  .conversionNotSupported c.kind target c.preview

def guarded {α : Type} (r : Except Overflow α) : Except CellError α :=
  r.mapError CellError.overflow

/-- The result of a codec; whatever went wrong, the cell is refused. -/
def coded {α : Type} (c : Cell) (target : Target) (r : Except CodecError α) : Except CellError α :=
  r.mapError fun _ => c.unsupported target

/-! ## Numbers -/

/-- The decimal in the text of a cell; special words are none. -/
def decimalOfText (c : Cell) (text : String) (target : Target) : Except CellError Decimal :=
  if text ∈ specialWords then .error (c.unsupported target)
  else (Decimal.parse text).mapError fun _ => c.unsupported target

/-- The integer in the text of a cell, its fraction cut off. -/
def integerOfText (c : Cell) (text : String) (target : Target) : Except CellError Int := do
  let d ← c.decimalOfText text target
  match d.toInteger? with
  | some n => .ok n
  | none => .error (.overflow (.ofText text target))

def longOfContent (c : Cell) (text : String) : Except CellError Int := do
  guarded (narrow (← c.integerOfText text .long))

def doubleOfValue (d : Decimal) : Except CellError Binary64 := do
  guarded (checkDouble d)
  return Binary64.ofDecimal d

/-- The double in the text of a cell: a special word, or the one nearest to a decimal. -/
def doubleOfContent (c : Cell) (text : String) : Except CellError Binary64 :=
  if text = nanWord then .ok .nan
  else if text = infinityWord then .ok (.infinity false)
  else if text = negInfinityWord then .ok (.infinity true)
  else do doubleOfValue (← c.decimalOfText text .double)

/-- A truth value as a number. -/
def bit (b : Bool) : Int := if b then 1 else 0

/-- The truth value of a cell: of a number whether it is nonzero, of a text whether it is the word
`true` or `false` in any case. -/
def asBool (c : Cell) : Converted Bool :=
  match c.value with
  | .bool b => .ok b
  | .long n => .ok (n.map (· != 0))
  | .string none => .ok none
  | .string (some text) =>
    if sameLetters text "true" then .ok (some true)
    else if sameLetters text "false" then .ok (some false)
    else .error (c.unsupported .bool)
  | .double _ | .bytes _ | .date _ | .timestamp _ => .error (c.unsupported .bool)

def asBigInteger (c : Cell) : Converted Int :=
  match c.value with
  | .bool b => .ok (b.map bit)
  | .long n => .ok n
  | .double none | .string none => .ok none
  | .double (some text) | .string (some text) => (c.integerOfText text .bigInteger).map some
  | .bytes _ | .date _ | .timestamp _ => .error (c.unsupported .bigInteger)

def asBigDecimal (c : Cell) : Converted Decimal :=
  match c.value with
  | .bool b => .ok (b.map fun b => .ofInt (bit b))
  | .long n => .ok (n.map .ofInt)
  | .double none | .string none => .ok none
  | .double (some text) | .string (some text) => (c.decimalOfText text .bigDecimal).map some
  | .bytes _ | .date _ | .timestamp _ => .error (c.unsupported .bigDecimal)

/-- The 64-bit integer of a cell; what lies outside that range is an overflow. Dates give their
milliseconds of Unix time. -/
def asLong (c : Cell) : Converted Int :=
  match c.value with
  | .bool b => .ok (b.map bit)
  | .long none | .double none | .string none => .ok none
  | .long (some n) => (guarded (narrow n)).map some
  | .double (some text) | .string (some text) => (c.longOfContent text).map some
  | .date value => .ok (value.map (·.millis))
  | .timestamp value => .ok (value.map (·.millis))
  | .bytes _ => .error (c.unsupported .long)

/-- The double of a cell; the special words give the special doubles. -/
def asDouble (c : Cell) : Converted Binary64 :=
  match c.value with
  | .bool b => .ok (b.map fun b => Binary64.ofInt (bit b))
  | .long none | .double none | .string none => .ok none
  | .long (some n) => (doubleOfValue (.ofInt n)).map some
  | .double (some text) | .string (some text) => (c.doubleOfContent text).map some
  | .bytes _ | .date _ | .timestamp _ => .error (c.unsupported .double)

/-! ## Text, bytes and instants -/

variable {κ : Type} [CellCodec κ]

/-- The instant of milliseconds and a remainder; one outside the calendar is an overflow. -/
def instantOf (millis : Int) (nanos : Nat) (target : Target) : Except CellError Instant :=
  match Instant.ofMillis? millis nanos with
  | some t => .ok t
  | none => .error (.overflow (.ofText (intText millis) target))

def asString (c : Cell) (codec : κ) : Converted String :=
  match c.value with
  | .bool b => .ok (b.map boolText)
  | .long n => .ok (n.map intText)
  | .double text => .ok text
  | .string text => .ok text
  | .bytes none | .date none | .timestamp none => .ok none
  | .bytes (some bytes) => (c.coded .string (CellCodec.decodeBytes codec bytes)).map some
  | .date (some d) =>
    (instantOf d.millis d.nanos .string).bind fun t =>
      (c.coded .string (CellCodec.formatDate codec t d.kind d.precision)).map some
  | .timestamp (some v) =>
    (instantOf v.millis v.nanos .string).bind fun t =>
      (c.coded .string (CellCodec.formatTimestamp codec t v.precision)).map some

/-- The bytes of a cell of bytes or text. -/
def asBytes (c : Cell) (codec : κ) : Converted Bytes :=
  match c.value with
  | .bytes bytes => .ok bytes
  | .string none => .ok none
  | .string (some text) => (c.coded .bytes (CellCodec.encodeText codec text)).map some
  | .bool _ | .long _ | .double _ | .date _ | .timestamp _ => .error (c.unsupported .bytes)

/-- The instant of a cell; an integer is milliseconds of Unix time. -/
def asInstant (c : Cell) (codec : κ) (target : Target) : Converted Instant :=
  match c.value with
  | .long none | .string none | .date none | .timestamp none => .ok none
  | .long (some n) =>
    (guarded (narrow n target)).bind fun millis => (instantOf millis 0 target).map some
  | .string (some text) => (c.coded target (CellCodec.parseInstant codec text)).map some
  | .date (some d) => (instantOf d.millis d.nanos target).map some
  | .timestamp (some v) => (instantOf v.millis v.nanos target).map some
  | .bool _ | .double _ | .bytes _ => .error (c.unsupported target)

def asDate (c : Cell) (codec : κ) : Converted Instant := c.asInstant codec .date

def asTimestamp (c : Cell) (codec : κ) : Converted Instant := c.asInstant codec .timestamp

end Cell

end TableExchange
