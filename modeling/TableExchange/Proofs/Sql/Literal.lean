import TableExchange.Sql.Literal

/-!
# Text literals read back

* `TextLiteral.read_write`: a literal, with anything but a quote behind it, is read back as its
  text, and nothing of what follows is taken.
-/

namespace TableExchange

namespace TextLiteral

variable {rule : EscapeRule}

theorem readBody_escapeChar (c : Char) (rest : List Char) :
    readBody rule (escapeChar rule c ++ rest) =
      (readBody rule rest).map fun (body, left) => (c :: body, left) := by
  unfold escapeChar
  split
  · next hc =>
    subst hc
    simp [readBody]
  · next hc =>
    split
    · next hb =>
      have hq : ('\\' : Char) ≠ quote := by decide
      rw [hb.1]
      simp [readBody, hq, hb.2]
    · next hb => cases rest <;> simp [readBody, hc, hb]

/-- The inside of a literal is read up to its closing quote, if no second quote follows. -/
theorem readBody_escapeChars {rest : List Char} (hrest : rest.head? ≠ some quote) (cs : List Char) :
    readBody rule (escapeChars rule cs ++ quote :: rest) = some (cs, rest) := by
  induction cs with
  | nil =>
    cases rest with
    | nil => simp [escapeChars, readBody]
    | cons d rest =>
      have hd : d ≠ quote := by simpa using hrest
      simp [escapeChars, readBody, hd]
  | cons c cs ih =>
    rw [escapeChars, List.flatMap_cons, List.append_assoc, readBody_escapeChar]
    rw [escapeChars] at ih
    rw [ih]
    rfl

theorem toList_write (rule : EscapeRule) (text : String) :
    (write rule text).toList = quote :: (escapeChars rule text.toList ++ [quote]) := by
  simp [write, escape, quote]

/-- A literal is read back as its text, and nothing of what follows is taken. -/
theorem read_write (rule : EscapeRule) (text : String) {rest : List Char}
    (hrest : rest.head? ≠ some quote) :
    read rule ((write rule text).toList ++ rest) = some (text.toList, rest) := by
  rw [toList_write, List.cons_append, List.append_assoc, List.singleton_append, read]
  rw [if_pos rfl, readBody_escapeChars hrest]

end TextLiteral

end TableExchange
