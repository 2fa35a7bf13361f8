/-!
# Previews of values in messages

A message shows at most `previewLength` characters of the value it is about.

* `cut`: the first characters only, without a mark.
* `cutMarked`: the same, followed by `...` when something is missing.
-/

namespace TableExchange

/-- The most characters of one value that a message shows. -/
def previewLength : Nat := 64

/-- The first `previewLength` characters of a text. -/
def cut (text : String) : String := String.ofList (text.toList.take previewLength)

/-- The first `previewLength` characters of a text, and `...` if there are more. -/
def cutMarked (text : String) : String :=
  if text.toList.length ≤ previewLength then text else cut text ++ "..."

end TableExchange
