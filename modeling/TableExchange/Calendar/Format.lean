import TableExchange.Text.Ascii
import TableExchange.Text.Digits

/-!
# Format descriptions

A format description is text with components in brackets, such as `[year]-[month]-[day]`. A
component has a name and modifiers `key:value`; names, keys and values are read in any case. A
backslash makes a bracket or a backslash literal, and a closing bracket outside of any component
is literal anyway. `[optional [ ... ]]` holds a description that may be absent from a text.

* `Format.read?`: reads a description.
-/

namespace TableExchange

/-- How a number is brought to its width. -/
inductive Padding where
  | zero | space | none
  deriving DecidableEq, Repr

inductive MonthStyle where
  | number | short | long
  deriving DecidableEq, Repr

/-- A component of a format description. -/
inductive FormatPart where
  | year (padding : Padding) (signed : Bool)
  | month (padding : Padding) (style : MonthStyle)
  | day (padding : Padding)
  | ordinal (padding : Padding)
  | hour (padding : Padding) (twelve : Bool)
  | period (lower : Bool)
  | minute (padding : Padding)
  | second (padding : Padding)
  /-- The fraction of the second, with a fixed number of digits or as many as it needs. -/
  | subsecond (digits : Option Nat)
  | offsetHour (padding : Padding) (signed : Bool)
  | offsetMinute (padding : Padding)
  deriving DecidableEq, Repr

inductive FormatItem where
  | literal (c : Char)
  | part (p : FormatPart)
  | optional (items : List FormatItem)
  deriving Repr

/-- A format description. -/
abbrev Format := List FormatItem

namespace Format

/-! ## Components -/

/-- The modifiers of a component, keys and values in lower case. -/
abbrev Modifiers := List (String × String)

/-- What the modifiers with a key ask for: each of their values has to be one that `read` knows,
and the last one counts. Without any it is `default`. -/
def choice? {α : Type} (mods : Modifiers) (key : String) (default : α)
    (read : String → Option α) : Option α :=
  mods.foldlM (fun chosen (name, value) => if name = key then read value else some chosen) default

def onlyKeys (mods : Modifiers) (keys : List String) : Bool := mods.all (·.1 ∈ keys)

def padding? (mods : Modifiers) : Option Padding :=
  choice? mods "padding" .zero fun
    | "zero" => some .zero
    | "space" => some .space
    | "none" => some .none
    | _ => none

/-- Whether the modifiers ask for a sign before positive numbers. -/
def signed? (mods : Modifiers) : Option Bool :=
  choice? mods "sign" false fun
    | "automatic" => some false
    | "mandatory" => some true
    | _ => none

/-- A component whose only modifier is the padding. -/
def padded? (mods : Modifiers) (part : Padding → FormatPart) : Option FormatPart :=
  if onlyKeys mods ["padding"] then (padding? mods).map part else none

def month? (mods : Modifiers) : Option FormatPart := do
  let padding ← padding? mods
  let style ← choice? mods "repr" MonthStyle.number fun
    | "numerical" => some .number
    | "short" => some .short
    | "long" => some .long
    | _ => none
  if onlyKeys mods ["padding", "repr"] then some (.month padding style) else none

def hour? (mods : Modifiers) : Option FormatPart := do
  let padding ← padding? mods
  let twelve ← choice? mods "repr" false fun
    | "24" => some false
    | "12" => some true
    | _ => none
  if onlyKeys mods ["padding", "repr"] then some (.hour padding twelve) else none

/-- The half of the day as the modifiers ask for it. -/
def period? (mods : Modifiers) : Option FormatPart := do
  let lower ← choice? mods "case" false fun
    | "upper" => some false
    | "lower" => some true
    | _ => none
  if onlyKeys mods ["case"] then some (.period lower) else none

/-- The number of fraction digits that a modifier asks for. -/
def fractionDigits? (value : String) : Option (Option Nat) :=
  match value.toList with
  | ['1', '+'] => some none
  | [c] => if '1' ≤ c ∧ c ≤ '9' then some (some (Digits.toNat [c])) else none
  | _ => none

/-- The fraction of the second as the modifiers ask for it. -/
def subsecond? (mods : Modifiers) : Option FormatPart := do
  let digits ← choice? mods "digits" none fractionDigits?
  if onlyKeys mods ["digits"] then some (.subsecond digits) else none

def signedPart? (mods : Modifiers) (part : Padding → Bool → FormatPart) : Option FormatPart := do
  let padding ← padding? mods
  let signed ← signed? mods
  if onlyKeys mods ["padding", "sign"] then some (part padding signed) else none

def part? (name : String) (mods : Modifiers) : Option FormatPart :=
  match name with
  | "year" => signedPart? mods .year
  | "month" => month? mods
  | "day" => padded? mods .day
  | "ordinal" => padded? mods .ordinal
  | "hour" => hour? mods
  | "period" => period? mods
  | "minute" => padded? mods .minute
  | "second" => padded? mods .second
  | "subsecond" => subsecond? mods
  | "offset_hour" => signedPart? mods .offsetHour
  | "offset_minute" => padded? mods .offsetMinute
  | _ => none

/-! ## Reading -/

/-- The blanks inside the brackets of a component. -/
def isGap (c : Char) : Bool :=
  c == ' ' || c == '\t' || c == '\n' || c == '\r' || c.toNat == 12

/-- Characters that are no part of a component's name or modifiers. -/
def isReserved (c : Char) : Bool := c == '\\' || c == '[' || c == ']'

/-- The words of a text, divided by blanks. -/
def words (cs : List Char) : List (List Char) := (cs.splitOnP isGap).filter (!·.isEmpty)

/-- A modifier, in lower case: a key and a value, neither empty. -/
def readModifier? (word : List Char) : Option (String × String) :=
  let key := word.takeWhile (· != ':')
  match word.dropWhile (· != ':') with
  | _ :: c :: value =>
    if key.isEmpty then none
    else some (lowerCase (String.ofList key), lowerCase (String.ofList (c :: value)))
  | _ => none

/-- The component that the text between two brackets describes. -/
def readPart? (inner : List Char) : Option FormatPart :=
  match words inner with
  | [] => none
  | name :: mods => do part? (lowerCase (String.ofList name)) (← mods.mapM readModifier?)

/-- What follows the word `optional` up to the bracket that opens the description in it: at least
one blank. -/
def afterOptional? (inner : List Char) : Bool :=
  match inner.dropWhile isGap with
  | 'o' :: 'p' :: 't' :: 'i' :: 'o' :: 'n' :: 'a' :: 'l' :: rest => !rest.isEmpty && rest.all isGap
  | _ => false

/-- Reads items up to the end of the text or, inside an optional one, up to its closing bracket.
Every item takes a character, so `fuel` may be the length of the text and one more. -/
def readItems (nested : Bool) : Nat → List Char → Option (Format × List Char)
  | 0, _ => none
  | fuel + 1, cs =>
    let more (item : FormatItem) (rest : List Char) : Option (Format × List Char) :=
      (readItems nested fuel rest).map fun (items, rest) => (item :: items, rest)
    match cs with
    | [] => if nested then none else some ([], [])
    | '\\' :: c :: rest => if isReserved c then more (.literal c) rest else none
    | ['\\'] => none
    | ']' :: rest => if nested then some ([], rest) else more (.literal ']') rest
    | '[' :: rest =>
      let inner := rest.takeWhile (!isReserved ·)
      match rest.dropWhile (!isReserved ·) with
      | ']' :: rest => do more (.part (← readPart? inner)) rest
      | '[' :: rest =>
        if afterOptional? inner then do
          let (items, rest) ← readItems true fuel rest
          match rest.dropWhile isGap with
          | ']' :: rest => more (.optional items) rest
          | _ => none
        else none
      | _ => none
    | c :: rest => more (.literal c) rest

def read? (text : String) : Option Format :=
  (readItems false (text.toList.length + 1) text.toList).map (·.1)

end Format

end TableExchange
