import TableExchange.Proofs.Sql.Literal

/-!
# The grammar of text literals

What the inside of a literal denotes, as a grammar apart from its reader: a doubled quote is a
quote, where the backslash escapes it stands for the character after it, and every other character
is itself. A quote that is not doubled ends the literal.

* `TextLiteral.Denotes`, `TextLiteral.Reads`: the grammar.
* `TextLiteral.read_eq_some_iff`: the reader takes just what the grammar allows.
* `TextLiteral.reads_write_iff`: a written literal has one reading.
* `TextLiteral.escapeChars_eq_passes`: a literal may be escaped in two passes.
-/

namespace TableExchange

namespace TextLiteral

variable {rule : EscapeRule} {cs body text rest : List Char} {c : Char}

/-- The inside of a literal denotes a text. -/
inductive Denotes (rule : EscapeRule) : List Char → List Char → Prop
  | nil : Denotes rule [] []
  | doubled {body text : List Char} (h : Denotes rule body text) :
    Denotes rule (quote :: quote :: body) (quote :: text)
  | escaped {c : Char} {body text : List Char} (hrule : rule = .quoteAndBackslash)
    (h : Denotes rule body text) : Denotes rule ('\\' :: c :: body) (c :: text)
  | plain {c : Char} {body text : List Char} (hquote : c ≠ quote)
    (hbackslash : ¬(c = '\\' ∧ rule = .quoteAndBackslash)) (h : Denotes rule body text) :
    Denotes rule (c :: body) (c :: text)

/-- A text begins with a literal that denotes `text`, and `rest` follows it. A quote in front of
`rest` would belong to the literal. -/
def Reads (rule : EscapeRule) (cs text rest : List Char) : Prop :=
  ∃ body, cs = quote :: (body ++ quote :: rest) ∧ Denotes rule body text ∧
    rest.head? ≠ some quote

/-! ## The reader -/

theorem readBody_quote (h : rest.head? ≠ some quote) :
    readBody rule (quote :: rest) = some ([], rest) := by
  cases rest with
  | nil => simp [readBody]
  | cons d rest =>
    have hd : d ≠ quote := by simpa using h
    simp [readBody, hd]

theorem readBody_plain (hquote : c ≠ quote) (hbackslash : ¬(c = '\\' ∧ rule = .quoteAndBackslash))
    (cs : List Char) :
    readBody rule (c :: cs) = (readBody rule cs).map fun (body, left) => (c :: body, left) := by
  cases cs <;> simp [readBody, hquote, hbackslash]

/-- What the grammar allows is read. -/
theorem readBody_of_denotes (h : Denotes rule body text) (hrest : rest.head? ≠ some quote) :
    readBody rule (body ++ quote :: rest) = some (text, rest) := by
  induction h with
  | nil => exact readBody_quote hrest
  | doubled _ ih => simp [readBody, ih]
  | escaped hrule _ ih =>
    have hquote : '\\' ≠ quote := by decide
    subst hrule
    simp [readBody, hquote, ih]
  | plain hquote hbackslash _ ih =>
    rw [List.cons_append, readBody_plain hquote hbackslash, ih]
    rfl

theorem map_cons_eq_some {read : Option (List Char × List Char)} :
    (read.map fun (body, left) => (c :: body, left)) = some (text, rest) ↔
      ∃ body, read = some (body, rest) ∧ text = c :: body := by
  cases read with
  | none => simp
  | some taken =>
    obtain ⟨body, left⟩ := taken
    simp only [Option.map_some, Option.some_inj, Prod.mk.injEq]
    constructor
    · rintro ⟨rfl, rfl⟩
      exact ⟨body, ⟨rfl, rfl⟩, rfl⟩
    · rintro ⟨_, ⟨rfl, rfl⟩, rfl⟩
      exact ⟨rfl, rfl⟩

/-- What is read is allowed by the grammar. -/
theorem denotes_of_readBody (h : readBody rule cs = some (text, rest)) :
    ∃ body, cs = body ++ quote :: rest ∧ Denotes rule body text ∧ rest.head? ≠ some quote := by
  fun_induction readBody rule cs generalizing text with
  | case1 => cases h
  | case2 =>
    cases h
    exact ⟨[], rfl, .nil, by simp⟩
  | case3 c hquote => cases h
  | case4 left ih =>
    obtain ⟨denoted, hread, rfl⟩ := map_cons_eq_some.1 h
    obtain ⟨body, rfl, hbody, hrest⟩ := ih hread
    exact ⟨quote :: quote :: body, rfl, .doubled hbody, hrest⟩
  | case5 d left hd =>
    cases h
    exact ⟨[], rfl, .nil, by simpa using hd⟩
  | case6 c d left hquote hbackslash ih =>
    obtain ⟨denoted, hread, rfl⟩ := map_cons_eq_some.1 h
    obtain ⟨body, rfl, hbody, hrest⟩ := ih hread
    obtain ⟨rfl, hrule⟩ := hbackslash
    exact ⟨'\\' :: d :: body, rfl, .escaped hrule hbody, hrest⟩
  | case7 c d left hquote hbackslash ih =>
    obtain ⟨denoted, hread, rfl⟩ := map_cons_eq_some.1 h
    obtain ⟨body, hleft, hbody, hrest⟩ := ih hread
    rw [hleft]
    exact ⟨c :: body, rfl, .plain hquote hbackslash hbody, hrest⟩

/-- The reader takes just what the grammar allows. -/
theorem read_eq_some_iff : read rule cs = some (text, rest) ↔ Reads rule cs text rest := by
  constructor
  · intro h
    cases cs with
    | nil => cases h
    | cons c cs =>
      rw [read] at h
      split at h
      · next hc =>
        obtain ⟨body, rfl, hbody, hrest⟩ := denotes_of_readBody h
        exact ⟨body, by rw [hc], hbody, hrest⟩
      · cases h
  · rintro ⟨body, rfl, hbody, hrest⟩
    rw [read, if_pos rfl, readBody_of_denotes hbody hrest]

/-! ## Written literals -/

/-- A written literal that no quote follows has one reading: its text, and all that follows. -/
theorem reads_write_iff (rule : EscapeRule) (s : String) {after : List Char}
    (hafter : after.head? ≠ some quote) :
    Reads rule ((write rule s).toList ++ after) text rest ↔ text = s.toList ∧ rest = after := by
  rw [← read_eq_some_iff, read_write rule s hafter, Option.some_inj, Prod.mk.injEq,
    eq_comm (a := s.toList), eq_comm (a := after)]

theorem write_injective (rule : EscapeRule) : Function.Injective (write rule) := by
  intro a b h
  have hb : read rule ((write rule b).toList ++ []) = some (b.toList, []) :=
    read_write rule b (by simp)
  rw [← h, read_write rule a (by simp), Option.some_inj, Prod.mk.injEq] at hb
  exact String.toList_inj.1 hb.1

/-- Backslashes may be doubled in a first pass, and quotes in a second. -/
theorem escapeChars_eq_passes (cs : List Char) :
    escapeChars .quoteAndBackslash cs =
      escapeChars .quoteOnly (cs.flatMap fun c => if c = '\\' then ['\\', '\\'] else [c]) := by
  simp only [escapeChars, List.flatMap_assoc]
  congr 1
  funext c
  unfold escapeChar
  by_cases hb : c = '\\'
  · subst hb
    decide
  · simp [hb]

end TextLiteral

end TableExchange
