import TableExchange.Config.Getters

/-!
# Split modes

How the statistics for splitting a table are chosen. In a document a mode is a word, or an object
whose one key is the word and whose value is null.

* `SplitMode.ofJson`: the mode that a value denotes.
* `Config.optSplitMode`: the mode at a path.
-/

namespace TableExchange

/-- How the statistics for splitting a table are chosen. -/
inductive SplitMode where
  | auto
  /-- By the least and the greatest key. -/
  | even
  | sample
  deriving DecidableEq, Repr

namespace SplitMode

def all : List SplitMode := [.auto, .even, .sample]

def label : SplitMode → String
  | .auto => "auto"
  | .even => "even"
  | .sample => "sample"

def ofWord (word : String) : Except ChoiceFault SplitMode :=
  match all.find? (·.label = word) with
  | some mode => .ok mode
  | none => .error (.unknown word (all.map label))

def foundText : Json → String
  | .null => "null"
  | .bool b => "boolean `" ++ (if b then "true" else "false") ++ "`"
  | .number (.integer n) => "integer `" ++ intText n ++ "`"
  | .number (.float x) => "floating point `" ++ x.text .document ++ "`"
  | .string s => "string " ++ quoted s
  | .array _ => "sequence"
  | .object _ => "map"

def ofJson : Json → Except ChoiceFault SplitMode
  | .string word => ofWord word
  | .object [(word, value)] => do
    let mode ← ofWord word
    if value.isNull then return mode else throw (.wrongType (foundText value) "unit")
  | .object _ => .error .notSingle
  | value => .error (.wrongType (foundText value) "string or map")

end SplitMode

def Config.optSplitMode (doc : Json) (path : String) : Except ConfigError (Option SplitMode) := do
  match ← Config.get doc path with
  | none => .ok none
  | some value =>
    match SplitMode.ofJson value with
    | .ok mode => .ok (some mode)
    | .error fault => .error (.invalid path (.choice fault))

end TableExchange
