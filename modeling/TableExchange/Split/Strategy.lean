import TableExchange.Split.AsciiCode
import TableExchange.Split.Error
import TableExchange.Text.Ascii

/-!
# Boundaries

A strategy turns what is known of the keys into an ascending list of boundaries. The first and the
last boundary are the bounds of the keys, and each neighbouring pair bounds one range.

* `evenBoundaries`: `count + 1` integers at equal distances, rounded down.
* `Strategy.boundaries`: the boundaries by one of the three strategies.
* `Strategy.select`: the strategy for some statistics and a kind of key.
-/

namespace TableExchange

/-- The integers that divide the interval between two bounds, given in either order, into `count`
parts of equal width. The bounds are the first and the last of them. -/
def evenBoundaries (a b : Int) (count : Nat) : List Int :=
  let low := min a b
  let high := max a b
  let inner := (List.range (count - 1)).map fun i => low + (high - low) * (i + 1 : Nat) / count
  low :: inner ++ [high]

/-- How boundaries are chosen. -/
inductive Strategy where
  /-- Equal widths between two integers. -/
  | evenNumeric
  /-- Equal widths between two ASCII texts, read as numbers. -/
  | evenAscii
  | sampled
  deriving DecidableEq, Repr

namespace Strategy

def name : Strategy → String
  | .evenNumeric => "even_numeric"
  | .evenAscii => "even_ascii"
  | .sampled => "sampled"

def select : Statistics → KeyKind → Strategy
  | .sampled, _ => .sampled
  | .minMax, .numeric => .evenNumeric
  | .minMax, .string => .evenAscii

/-- The texts that divide the interval between two ASCII texts. The bounds are kept as they are;
only the boundaries between them are decoded. -/
def asciiBoundaries (a b : String) (count : Nat) : List String :=
  let width := max a.toList.length b.toList.length
  let (low, high) := if a ≤ b then (a, b) else (b, a)
  let inner := (evenBoundaries (AsciiCode.encode width a.toList) (AsciiCode.encode width b.toList)
    count).tail.dropLast
  low :: inner.map (fun n => String.ofList (AsciiCode.decode width n.toNat)) ++ [high]

/-- The boundaries for `count` pieces; there are none while a bound is missing. -/
def boundaries (strategy : Strategy) (stats : KeyStats) (count : Nat) :
    Except KeyFault (List SplitPoint) :=
  match strategy with
  | .sampled =>
    if stats.samples.all (·.kind = stats.kind) then .ok stats.samples else .error .mixedSamples
  | .evenNumeric =>
    match stats.bounds? with
    | none => .ok []
    | some (.integer a, .integer b) => .ok ((evenBoundaries a b count).map .integer)
    | some _ => .error .needsIntegers
  | .evenAscii =>
    match stats.bounds? with
    | none => .ok []
    | some (.text a, .text b) =>
      if isAscii a && isAscii b then .ok ((asciiBoundaries a b count).map .text)
      else .error .notAscii
    | some _ => .error .needsTexts

end Strategy

end TableExchange
