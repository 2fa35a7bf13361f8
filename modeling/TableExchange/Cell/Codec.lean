import TableExchange.Calendar.Parsing
import TableExchange.Calendar.TimeZone
import TableExchange.Cell.Kind
import TableExchange.Text.Charset

/-!
# Text forms of dates and bytes

A `Codec` holds the format descriptions, the zone and the charset that cells use when they cross
between text on one side and dates or bytes on the other. It is built once from `CastSettings`.

* `Codec.ofSettings`: checks the settings, in the order in which they are declared.
* `Codec.parseInstant`: the first description that fits a text gives its instant.
* `Codec.formatDate`, `Codec.formatTimestamp`: the text of an instant, with its fraction.
* `CellCodec`: what the conversions of a cell ask of a codec, of this kind or of another.
-/

namespace TableExchange

/-- How cells are written as text and bytes. -/
structure CastSettings where
  dateTimeFormat : String := "[year]-[month]-[day] [hour]:[minute]:[second]"
  dateFormat : String := "[year]-[month]-[day]"
  timeFormat : String := "[hour]:[minute]:[second]"
  extraFormats : List String := []
  timeZone : String := "GMT+8"
  encoding : String := "UTF-8"
  deriving DecidableEq, Repr

/-- Why a codec cannot be built, or cannot convert a value. -/
inductive CodecError where
  | invalidFormat (format : String)
  | unsupportedTimeZone (zone : String)
  | unsupportedEncoding (name : String)
  | unparseableDate (input : String)
  | instantOutOfRange
  | unencodable (charset : Charset)
  | undecodable (charset : Charset)
  deriving DecidableEq, Repr

namespace CodecError

def message : CodecError → String
  | .invalidFormat format => "invalid format description '" ++ format ++ "'"
  | .unsupportedTimeZone zone => "unsupported time zone '" ++ zone ++ "'"
  | .unsupportedEncoding name => "unsupported encoding '" ++ name ++ "'"
  | .unparseableDate input => "'" ++ input ++ "' matches none of the configured date formats"
  | .instantOutOfRange => "instant is outside the representable range"
  | .unencodable charset => "text cannot be encoded as " ++ charset.label
  | .undecodable charset => "bytes are not valid " ++ charset.label

/-- Whether the error lies in the settings rather than in a value. -/
def isConfiguration : CodecError → Bool
  | .invalidFormat _ | .unsupportedTimeZone _ | .unsupportedEncoding _ => true
  | _ => false

end CodecError

/-- Format descriptions, offset and charset for conversions. -/
structure Codec where
  dateTimeFormat : Format
  dateFormat : Format
  timeFormat : Format
  extraFormats : List Format
  offset : Int
  charset : Charset
  deriving Repr

namespace Codec

/-! ## Building a codec -/

def readFormat (text : String) : Except CodecError Format :=
  match Format.read? text with
  | some format => .ok format
  | none => .error (.invalidFormat text)

/-- Reads a zone; an error shows it without the blanks around it. -/
def readTimeZone (zone : String) : Except CodecError Int :=
  match TimeZone.offset? zone with
  | some offset => .ok offset
  | none => .error (.unsupportedTimeZone (trim zone))

def readCharset (name : String) : Except CodecError Charset :=
  match Charset.ofName? name with
  | some charset => .ok charset
  | none => .error (.unsupportedEncoding name)

/-- The codec that settings describe; the first faulty setting is reported. -/
def ofSettings (s : CastSettings) : Except CodecError Codec := do
  let dateTimeFormat ← readFormat s.dateTimeFormat
  let dateFormat ← readFormat s.dateFormat
  let timeFormat ← readFormat s.timeFormat
  let extraFormats ← s.extraFormats.mapM readFormat
  let offset ← readTimeZone s.timeZone
  let charset ← readCharset s.encoding
  return { dateTimeFormat, dateFormat, timeFormat, extraFormats, offset, charset }

/-! ## Conversions -/

/-- The descriptions that a text is tried against, in this order. -/
def formats (c : Codec) : List Format :=
  c.dateTimeFormat :: c.dateFormat :: c.timeFormat :: c.extraFormats

/-- The instant of a text by the first description that fits it. -/
def parseInstant (c : Codec) (text : String) : Except CodecError Instant :=
  match c.formats.findSome? (·.parse? c.offset text) with
  | some t => .ok t
  | none => .error (.unparseableDate text)

/-- The text of an instant, seen at the codec's offset, under a description. -/
def render (c : Codec) (t : Instant) (format : Format) : Except CodecError String :=
  match t.local? c.offset with
  | some (date, time) => .ok (format.render date time c.offset)
  | none => .error .instantOutOfRange

/-- The most fraction digits that are shown. -/
def maxFraction : Nat := 9

/-- A text followed by a fraction of the second. A declared precision fixes the number of digits,
and none of them means no fraction at all; otherwise there are as many as it needs, at least one. -/
def withFraction (base : String) (t : Instant) : Option Nat → String
  | some 0 => base
  | some digits =>
    base ++ "." ++ String.ofList ((Digits.padded 9 t.nanosecond).take (min digits maxFraction))
  | none => base ++ "." ++ String.ofList (Format.fractionChars t.nanosecond)

/-- The text of a date cell. Only a time of day with a positive precision has a fraction. -/
def formatDate (c : Codec) (t : Instant) (kind : DateKind) (precision : Option Nat) :
    Except CodecError String :=
  match kind with
  | .date => c.render t c.dateFormat
  | .dateTime => c.render t c.dateTimeFormat
  | .time => do
    let base ← c.render t c.timeFormat
    match precision with
    | some digits => return withFraction base t (some digits)
    | none => return base

/-- The text of a timestamp: date, time and fraction. -/
def formatTimestamp (c : Codec) (t : Instant) (precision : Option Nat) :
    Except CodecError String := do
  return withFraction (← c.render t c.dateTimeFormat) t precision

def encodeText (c : Codec) (text : String) : Except CodecError Bytes :=
  match c.charset.encode text with
  | some bytes => .ok bytes
  | none => .error (.unencodable c.charset)

def decodeBytes (c : Codec) (bytes : Bytes) : Except CodecError String :=
  match c.charset.decode bytes with
  | some text => .ok text
  | none => .error (.undecodable c.charset)

end Codec

/-- What the conversions of a cell ask of a codec. It may answer in any way. -/
class CellCodec (κ : Type) where
  parseInstant : κ → String → Except CodecError Instant
  formatDate : κ → Instant → DateKind → Option Nat → Except CodecError String
  formatTimestamp : κ → Instant → Option Nat → Except CodecError String
  encodeText : κ → String → Except CodecError Bytes
  decodeBytes : κ → Bytes → Except CodecError String

instance : CellCodec Codec where
  parseInstant := Codec.parseInstant
  formatDate := Codec.formatDate
  formatTimestamp := Codec.formatTimestamp
  encodeText := Codec.encodeText
  decodeBytes := Codec.decodeBytes

end TableExchange
