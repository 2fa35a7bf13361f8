import TableExchange.Proofs.Sql.Literal
import TableExchange.Proofs.Sql.Meaning
import TableExchange.Proofs.Text.Digits

/-!
# Conditions read from their text

The text of a condition is read as SQL reads it: a comparison binds more strongly than `AND`, this
more strongly than `OR`, and parentheses group. The reader knows the name of the key column, and the
text of the user's condition: that one, in parentheses before all else, is passed over unread.

* `Sql.readCondition?`: the condition that a text spells.
* `Sql.take_render`: a well written condition is taken off the front of a text as it was written.
* `Sql.readCondition?_under`: so the text of a condition, with or without a user's own before it,
  is read back as that condition.
-/

namespace TableExchange

namespace Sql

/-! ## Words and operands -/

/-- Whether a text can stand for a column: it is no number, and begins with no quote, blank or
parenthesis. -/
def isName (column : String) : Bool :=
  match column.toList.dropWhile fun c => c.isDigit || c == '-' with
  | [] => false
  | c :: _ => !(c == ' ' || c == '(' || c == ')' || c == TextLiteral.quote)

def skipWord (word : String) (cs : List Char) : Option (List Char) :=
  if word.toList.isPrefixOf cs then some (cs.drop word.toList.length) else none

def takeInteger : List Char → Option (Int × List Char)
  | '-' :: rest =>
    (readInteger? ('-' :: rest.takeWhile Char.isDigit)).map (·, rest.dropWhile Char.isDigit)
  | cs => (readInteger? (cs.takeWhile Char.isDigit)).map (·, cs.dropWhile Char.isDigit)

/-- Takes the column, a text literal or an integer off the front of a text. -/
def takeOperand (column : String) (rule : EscapeRule) (cs : List Char) :
    Option (Operand × List Char) :=
  match skipWord column cs with
  | some rest => some (.column column, rest)
  | none =>
    if cs.head? = some TextLiteral.quote then
      (TextLiteral.read rule cs).map fun (s, rest) => (.text rule (String.ofList s), rest)
    else (takeInteger cs).map fun (n, rest) => (.integer n, rest)

/-- Takes what follows the left operand of a comparison off the front of a text. -/
def takeRelation (column : String) (rule : EscapeRule) (a : Operand) (cs : List Char) :
    Option (Condition × List Char) :=
  match skipWord " IS NULL" cs, skipWord " <= " cs, skipWord " < " cs with
  | some rest, _, _ => if a = .column column then some (.isNull column, rest) else none
  | none, some rest, _ => (takeOperand column rule rest).map fun (b, left) => (.atMost a b, left)
  | none, none, some rest => (takeOperand column rule rest).map fun (b, left) => (.less a b, left)
  | none, none, none => none

/-! ## Conditions -/

def closeGroup : Condition × List Char → Option (Condition × List Char)
  | (c, ')' :: rest) => some (.group c, rest)
  | _ => none

mutual

/-- Takes a comparison or a group off the front of a text. -/
def takeAtom (column : String) (rule : EscapeRule) :
    (fuel : Nat) → List Char → Option (Condition × List Char)
  | 0, _ => none
  | fuel + 1, cs =>
    if cs.head? = some '(' then (takeCondition column rule fuel cs.tail).bind closeGroup
    else (takeOperand column rule cs).bind fun (a, rest) => takeRelation column rule a rest

/-- Takes atoms with `AND` between them off the front of a text. -/
def takeConjunction (column : String) (rule : EscapeRule) :
    (fuel : Nat) → List Char → Option (Condition × List Char)
  | 0, _ => none
  | fuel + 1, cs =>
    (takeAtom column rule fuel cs).bind fun (a, rest) => afterAtom column rule fuel a rest

/-- Goes on with a conjunction after its first atom. -/
def afterAtom (column : String) (rule : EscapeRule) :
    (fuel : Nat) → Condition → List Char → Option (Condition × List Char)
  | 0, _, _ => none
  | fuel + 1, a, cs =>
    match skipWord " AND " cs with
    | some rest => (takeConjunction column rule fuel rest).map fun (b, left) => (.both a b, left)
    | none => some (a, cs)

/-- Takes conjunctions with `OR` between them off the front of a text. -/
def takeCondition (column : String) (rule : EscapeRule) :
    (fuel : Nat) → List Char → Option (Condition × List Char)
  | 0, _ => none
  | fuel + 1, cs =>
    (takeConjunction column rule fuel cs).bind fun (a, rest) =>
      afterConjunction column rule fuel a rest

/-- Goes on with a condition after its first conjunction. -/
def afterConjunction (column : String) (rule : EscapeRule) :
    (fuel : Nat) → Condition → List Char → Option (Condition × List Char)
  | 0, _, _ => none
  | fuel + 1, a, cs =>
    match skipWord " OR " cs with
    | some rest => (takeCondition column rule fuel rest).map fun (b, left) => (.either a b, left)
    | none => some (a, cs)

end

/-- How many steps reading a text takes at most. -/
def readingBound (cs : List Char) : Nat := 5 * cs.length + 5

/-- Takes a condition off the front of a text, the user's own before it unread. -/
def takeUnder (column : String) (rule : EscapeRule) (predicate : Option String) (cs : List Char) :
    Option (Condition × List Char) :=
  match predicate with
  | none => takeCondition column rule (readingBound cs) cs
  | some text =>
    ((skipWord ("(" ++ text ++ ")") cs).bind
      (afterAtom column rule (readingBound cs) (.group (.given text)))).bind
        fun (a, rest) => afterConjunction column rule (readingBound cs) a rest

/-- The condition that a whole text spells, for a key column, the literals of a dialect and the
user's condition in front. -/
def readCondition? (column : String) (rule : EscapeRule) (predicate : Option String)
    (text : String) : Option Condition :=
  match takeUnder column rule predicate text.toList with
  | some (c, []) => some c
  | _ => none

/-! ## Reading operands back -/

section
variable {column : String} {rule : EscapeRule}

theorem skipWord_append (word : String) (rest : List Char) :
    skipWord word (word.toList ++ rest) = some rest := by
  rw [skipWord, if_pos (List.isPrefixOf_iff_prefix.2 (List.prefix_append _ _)), List.drop_left]

/-- What may follow an operand: the end, a blank or a closing parenthesis. -/
def Stops (rest : List Char) : Prop := ∀ c, rest.head? = some c → c = ' ' ∨ c = ')'

theorem stops_cons {c : Char} {rest : List Char} (h : c = ' ' ∨ c = ')') : Stops (c :: rest) := by
  intro d hd
  simp only [List.head?_cons, Option.some.injEq] at hd
  exact hd ▸ h

def isNumeric (c : Char) : Bool := c.isDigit || c == '-'

theorem isNumeric_of_mem_ofNat {n : Nat} {c : Char} (h : c ∈ Digits.ofNat n) :
    isNumeric c = true := by
  have := List.all_eq_true.1 (Digits.areDigits_ofNat n) c h
  simp [isNumeric, this]

theorem isNumeric_of_mem_intChars {n : Int} {c : Char} (h : c ∈ intChars n) :
    isNumeric c = true := by
  unfold intChars at h
  split at h
  · rcases List.mem_cons.1 h with rfl | h
    · rfl
    · exact isNumeric_of_mem_ofNat h
  · exact isNumeric_of_mem_ofNat h

/-- A name does not begin like a number with something behind it. -/
theorem skipWord_name_number (hname : isName column = true) {lit rest : List Char}
    (hlit : ∀ c ∈ lit, isNumeric c = true) (hrest : Stops rest) :
    skipWord column (lit ++ rest) = none := by
  rw [skipWord, if_neg]
  intro hpre
  obtain ⟨after, hafter⟩ := List.isPrefixOf_iff_prefix.1 hpre
  have hdrop : (lit ++ rest).dropWhile isNumeric = rest := by
    rw [List.dropWhile_append_of_pos hlit]
    cases rest with
    | nil => rfl
    | cons c rest =>
      rcases hrest c rfl with rfl | rfl <;> rfl
  unfold isName at hname
  split at hname
  · cases hname
  · next c cs hcs =>
    rw [← hafter, List.dropWhile_append] at hdrop
    change column.toList.dropWhile isNumeric = c :: cs at hcs
    rw [hcs] at hdrop
    simp only [List.isEmpty_cons, Bool.false_eq_true, if_false, List.cons_append] at hdrop
    have := hrest c (by rw [← hdrop]; rfl)
    rcases this with rfl | rfl <;> simp at hname

theorem name_cons (hname : isName column = true) :
    ∃ c cs, column.toList = c :: cs ∧ c ≠ '(' ∧ c ≠ TextLiteral.quote := by
  unfold isName at hname
  cases hcol : column.toList with
  | nil => simp [hcol] at hname
  | cons c cs =>
    rw [hcol] at hname
    refine ⟨c, cs, rfl, ?_, ?_⟩ <;> rintro rfl <;> cases hname

theorem skipWord_name_quote (hname : isName column = true) (rest : List Char) :
    skipWord column (TextLiteral.quote :: rest) = none := by
  obtain ⟨c, cs, hcol, -, hq⟩ := name_cons hname
  simp [skipWord, hcol, hq]

/-- The digits of a number, with what stops it behind them, end where the number ends. -/
theorem span_ofNat (n : Nat) {rest : List Char} (hrest : Stops rest) :
    (Digits.ofNat n ++ rest).takeWhile Char.isDigit = Digits.ofNat n ∧
      (Digits.ofNat n ++ rest).dropWhile Char.isDigit = rest := by
  have hdigits : ∀ c ∈ Digits.ofNat n, c.isDigit = true :=
    List.all_eq_true.1 (Digits.areDigits_ofNat n)
  rw [List.takeWhile_append_of_pos hdigits, List.dropWhile_append_of_pos hdigits]
  cases rest with
  | nil => simp
  | cons c rest => rcases hrest c rfl with rfl | rfl <;> simp [List.takeWhile, List.dropWhile]

theorem takeInteger_intChars (n : Int) {rest : List Char} (hrest : Stops rest) :
    takeInteger (intChars n ++ rest) = some (n, rest) := by
  obtain ⟨htake, hdrop⟩ := span_ofNat n.natAbs hrest
  unfold intChars
  split
  · next hneg =>
    rw [List.cons_append, takeInteger, htake, hdrop, readInteger?, if_pos (Digits.isNumeral_ofNat _),
      Digits.toNat_ofNat]
    simp only [Option.map_some, Option.some.injEq, Prod.mk.injEq, and_true]
    omega
  · next hpos =>
    have hdigits := List.all_eq_true.1 (Digits.areDigits_ofNat n.natAbs)
    obtain ⟨d, ds, hds⟩ := List.exists_cons_of_ne_nil (Nat.toDigits_ne_nil (b := 10) (n := n.natAbs))
    change Digits.ofNat n.natAbs = d :: ds at hds
    have hd : d.isDigit = true := hdigits d (by rw [hds]; exact List.mem_cons_self)
    have hminus : d ≠ '-' := by rintro rfl; cases hd
    have hplus : d ≠ '+' := by rintro rfl; cases hd
    have hread : readInteger? (Digits.ofNat n.natAbs) = some (n.natAbs : Int) := by
      rw [readInteger?.eq_def]
      split
      · next h => exact absurd (by simpa [hds] using h) (by simp [hminus])
      · next h => exact absurd (by simpa [hds] using h) (by simp [hplus])
      · rw [if_pos (Digits.isNumeral_ofNat _), Digits.toNat_ofNat]
    rw [takeInteger.eq_def]
    split
    · next h => rw [hds] at h; exact absurd (List.cons.inj h).1 hminus
    · rw [htake, hdrop, hread]
      simp only [Option.map_some, Option.some.injEq, Prod.mk.injEq, and_true]
      omega

/-- An operand made of the column and of literals of a dialect. -/
def OperandOf (column : String) (rule : EscapeRule) : Operand → Prop
  | .column name => name = column
  | .integer _ => True
  | .text r _ => r = rule

theorem takeOperand_render (hname : isName column = true) {a : Operand}
    (ha : OperandOf column rule a) {rest : List Char} (hrest : Stops rest) :
    takeOperand column rule (a.render.toList ++ rest) = some (a, rest) := by
  cases a with
  | column name =>
    cases ha
    rw [takeOperand, Operand.render, skipWord_append]
  | integer n =>
    have hnumeric : ∀ c ∈ intChars n, isNumeric c = true := fun c hc => isNumeric_of_mem_intChars hc
    have hskip := skipWord_name_number hname hnumeric hrest
    have hhead : (intChars n ++ rest).head? ≠ some TextLiteral.quote := by
      intro h
      have hstart : ∀ c ∈ intChars n, c ≠ TextLiteral.quote := by
        rintro c hc rfl
        exact absurd (isNumeric_of_mem_intChars hc) (by decide)
      cases hcs : intChars n with
      | nil =>
        rw [hcs, List.nil_append] at h
        rcases hrest _ h with h | h <;> cases h
      | cons d ds =>
        rw [hcs, List.cons_append, List.head?_cons, Option.some.injEq] at h
        exact hstart d (by rw [hcs]; exact List.mem_cons_self) h
    rw [takeOperand, Operand.render, intText, String.toList_ofList, hskip]
    simp only [if_neg hhead, takeInteger_intChars n hrest, Option.map_some]
  | text r s =>
    cases ha
    have hquote : rest.head? ≠ some TextLiteral.quote := by
      intro h
      rcases hrest _ h with h | h <;> cases h
    have hread := TextLiteral.read_write rule s hquote
    rw [TextLiteral.toList_write, List.cons_append] at hread
    rw [takeOperand, Operand.render, TextLiteral.toList_write, List.cons_append,
      skipWord_name_quote hname]
    simp only [List.head?_cons, if_true, hread, Option.map_some, String.ofList_toList]

/-! ## Reading conditions back -/

/-- A condition over the column and literals of a dialect whose parts stand in parentheses where
`strength` asks for them: 0 allows `OR`, 1 allows `AND`, 2 only atoms. -/
def Written (column : String) (rule : EscapeRule) : (strength : Nat) → Condition → Prop
  | _, .given _ => False
  | _, .less a b => OperandOf column rule a ∧ OperandOf column rule b
  | _, .atMost a b => OperandOf column rule a ∧ OperandOf column rule b
  | _, .isNull name => name = column
  | s, .both a b => s ≤ 1 ∧ Written column rule 2 a ∧ Written column rule 1 b
  | s, .either a b => s = 0 ∧ Written column rule 1 a ∧ Written column rule 0 b
  | _, .group c => Written column rule 0 c

def weight : Condition → Nat
  | .both a b | .either a b => weight a + weight b + 1
  | .group c => weight c + 1
  | _ => 1

theorem weight_pos (c : Condition) : 0 < weight c := by
  cases c <;> simp [weight]

theorem weight_le_length {s : Nat} {c : Condition} (h : Written column rule s c) :
    weight c ≤ c.render.toList.length := by
  induction c generalizing s with
  | given text => exact h.elim
  | less a b | atMost a b =>
    simp only [weight, Condition.render, String.toList_append, List.length_append]
    have : " < ".toList.length = 3 ∧ " <= ".toList.length = 4 := ⟨rfl, rfl⟩
    omega
  | isNull name => simp [weight, Condition.render]
  | both a b iha ihb | either a b iha ihb =>
    have := iha h.2.1
    have := ihb h.2.2
    have : " AND ".toList.length = 5 ∧ " OR ".toList.length = 4 := ⟨rfl, rfl⟩
    simp only [weight, Condition.render, String.toList_append, List.length_append]
    omega
  | group c ih =>
    have := ih h
    simp only [weight, Condition.render, String.toList_append, List.length_append]
    have : "(".toList.length = 1 := rfl
    omega

theorem Written.mono {s t : Nat} (hst : t ≤ s) {c : Condition} (h : Written column rule s c) :
    Written column rule t c := by
  cases c with
  | both a b => exact ⟨by have := h.1; omega, h.2⟩
  | either a b => exact ⟨by have := h.1; omega, h.2⟩
  | _ => exact h

/-- What may follow a conjunction: what stops an operand, but not `AND`. -/
def EndsAnd (rest : List Char) : Prop := Stops rest ∧ skipWord " AND " rest = none

/-- What may follow a condition: what may follow a conjunction, but not `OR`. -/
def EndsOr (rest : List Char) : Prop := EndsAnd rest ∧ skipWord " OR " rest = none

theorem endsOr_nil : EndsOr [] := ⟨⟨fun _ h => (by cases h), rfl⟩, rfl⟩

theorem endsOr_closing (rest : List Char) : EndsOr (')' :: rest) :=
  ⟨⟨stops_cons (.inr rfl), rfl⟩, rfl⟩

theorem takeRelation_less (hname : isName column = true) (a : Operand) {b : Operand}
    (hb : OperandOf column rule b) {rest : List Char} (hrest : Stops rest) :
    takeRelation column rule a (" < ".toList ++ (b.render.toList ++ rest)) =
      some (.less a b, rest) := by
  have hnull : skipWord " IS NULL" (" < ".toList ++ (b.render.toList ++ rest)) = none := rfl
  have hle : skipWord " <= " (" < ".toList ++ (b.render.toList ++ rest)) = none := rfl
  rw [takeRelation, hnull, hle, skipWord_append]
  simp only [takeOperand_render hname hb hrest, Option.map_some]

theorem takeRelation_atMost (hname : isName column = true) (a : Operand) {b : Operand}
    (hb : OperandOf column rule b) {rest : List Char} (hrest : Stops rest) :
    takeRelation column rule a (" <= ".toList ++ (b.render.toList ++ rest)) =
      some (.atMost a b, rest) := by
  have hnull : skipWord " IS NULL" (" <= ".toList ++ (b.render.toList ++ rest)) = none := rfl
  rw [takeRelation, hnull, skipWord_append]
  simp only [takeOperand_render hname hb hrest, Option.map_some]

theorem takeConjunction_of_takeAtom {fuel : Nat} {cs rest : List Char} {c : Condition}
    (h : takeAtom column rule (fuel + 1) cs = some (c, rest))
    (hrest : skipWord " AND " rest = none) :
    takeConjunction column rule (fuel + 2) cs = some (c, rest) := by
  simp only [takeConjunction, h, Option.bind_some, afterAtom, hrest]

theorem takeCondition_of_takeConjunction {fuel : Nat} {cs rest : List Char} {c : Condition}
    (h : takeConjunction column rule (fuel + 1) cs = some (c, rest))
    (hrest : skipWord " OR " rest = none) :
    takeCondition column rule (fuel + 2) cs = some (c, rest) := by
  simp only [takeCondition, h, Option.bind_some, afterConjunction, hrest]

/-- The reader takes `c` off the front of its text, as an atom, a conjunction or a condition. -/
structure Taken (column : String) (rule : EscapeRule) (c : Condition) : Prop where
  atom : Written column rule 2 c → ∀ fuel rest, 5 * weight c ≤ fuel + 2 → Stops rest →
    takeAtom column rule fuel (c.render.toList ++ rest) = some (c, rest)
  conjunction : Written column rule 1 c → ∀ fuel rest, 5 * weight c ≤ fuel + 1 → EndsAnd rest →
    takeConjunction column rule fuel (c.render.toList ++ rest) = some (c, rest)
  condition : Written column rule 0 c → ∀ fuel rest, 5 * weight c ≤ fuel → EndsOr rest →
    takeCondition column rule fuel (c.render.toList ++ rest) = some (c, rest)

theorem Taken.of_conjunction {c : Condition}
    (hatom : Written column rule 2 c → ∀ fuel rest, 5 * weight c ≤ fuel + 2 → Stops rest →
      takeAtom column rule fuel (c.render.toList ++ rest) = some (c, rest))
    (hconj : Written column rule 1 c → ∀ fuel rest, 5 * weight c ≤ fuel + 1 → EndsAnd rest →
      takeConjunction column rule fuel (c.render.toList ++ rest) = some (c, rest))
    (hw : Written column rule 0 c → Written column rule 1 c) : Taken column rule c := by
  refine ⟨hatom, hconj, fun h fuel rest hf hrest => ?_⟩
  have := weight_pos c
  obtain ⟨f, rfl⟩ : ∃ f, fuel = f + 2 := ⟨fuel - 2, by omega⟩
  exact takeCondition_of_takeConjunction (hconj (hw h) _ rest (by omega) hrest.1) hrest.2

theorem Taken.of_atom {c : Condition}
    (hatom : Written column rule 2 c → ∀ fuel rest, 5 * weight c ≤ fuel + 2 → Stops rest →
      takeAtom column rule fuel (c.render.toList ++ rest) = some (c, rest))
    (hw : Written column rule 0 c → Written column rule 2 c) : Taken column rule c := by
  refine .of_conjunction hatom (fun h fuel rest hf hrest => ?_) fun h => (hw h).mono (by omega)
  have := weight_pos c
  obtain ⟨f, rfl⟩ : ∃ f, fuel = f + 2 := ⟨fuel - 2, by omega⟩
  exact takeConjunction_of_takeAtom
    (hatom (hw (h.mono (by omega))) _ rest (by omega) hrest.1) hrest.2

theorem render_head (hname : isName column = true) {a : Operand} (ha : OperandOf column rule a)
    {rest : List Char} (hrest : rest.head? ≠ some '(') :
    (a.render.toList ++ rest).head? ≠ some '(' := by
  cases a with
  | column name =>
    cases ha
    obtain ⟨c, cs, hcol, hc, -⟩ := name_cons hname
    simpa [Operand.render, hcol] using hc
  | integer n =>
    rw [Operand.render, intText, String.toList_ofList]
    cases hcs : intChars n with
    | nil => simpa using hrest
    | cons d ds =>
      have := isNumeric_of_mem_intChars (n := n) (c := d) (by rw [hcs]; exact List.mem_cons_self)
      intro h
      simp only [List.cons_append, List.head?_cons, Option.some.injEq] at h
      rw [h] at this
      cases this
  | text r s =>
    rw [Operand.render, TextLiteral.toList_write, List.cons_append, List.head?_cons]
    decide

theorem takeAtom_of_relation (hname : isName column = true) {a : Operand}
    (ha : OperandOf column rule a) {cs rest : List Char} {c : Condition} {fuel : Nat}
    (hcs : Stops cs) (h : takeRelation column rule a cs = some (c, rest)) :
    takeAtom column rule (fuel + 1) (a.render.toList ++ cs) = some (c, rest) := by
  have hopen : cs.head? ≠ some '(' := by
    intro hc
    rcases hcs _ hc with h | h <;> cases h
  rw [takeAtom, if_neg (render_head hname ha hopen), takeOperand_render hname ha hcs]
  exact h

/-- **A well written condition is taken off the front of a text as it was written.** -/
theorem take_render (rule : EscapeRule) (hname : isName column = true) (c : Condition) :
    Taken column rule c := by
  induction c with
  | given text => exact ⟨fun h => h.elim, fun h => h.elim, fun h => h.elim⟩
  | less a b =>
    refine .of_atom (fun ⟨ha, hb⟩ fuel rest hf hrest => ?_) id
    obtain ⟨f, rfl⟩ : ∃ f, fuel = f + 1 := ⟨fuel - 1, by simp only [weight] at hf; omega⟩
    simp only [Condition.render, String.toList_append, List.append_assoc]
    exact takeAtom_of_relation hname ha (stops_cons (.inl rfl)) (takeRelation_less hname a hb hrest)
  | atMost a b =>
    refine .of_atom (fun ⟨ha, hb⟩ fuel rest hf hrest => ?_) id
    obtain ⟨f, rfl⟩ : ∃ f, fuel = f + 1 := ⟨fuel - 1, by simp only [weight] at hf; omega⟩
    simp only [Condition.render, String.toList_append, List.append_assoc]
    exact takeAtom_of_relation hname ha (stops_cons (.inl rfl))
      (takeRelation_atMost hname a hb hrest)
  | isNull name =>
    refine .of_atom (fun h fuel rest hf hrest => ?_) id
    cases h
    obtain ⟨f, rfl⟩ : ∃ f, fuel = f + 1 := ⟨fuel - 1, by simp only [weight] at hf; omega⟩
    simp only [Condition.render, String.toList_append, List.append_assoc]
    refine takeAtom_of_relation (a := .column column) hname rfl (stops_cons (.inl rfl)) ?_
    rw [takeRelation, skipWord_append]
    simp only [if_true]
  | both a b iha ihb =>
    refine .of_conjunction (fun h => absurd h.1 (by omega)) (fun h fuel rest hf hrest => ?_)
      fun h => ⟨Nat.le_refl 1, h.2⟩
    have := weight_pos a
    obtain ⟨f, rfl⟩ : ∃ f, fuel = f + 2 := ⟨fuel - 2, by simp only [weight] at hf; omega⟩
    simp only [weight] at hf
    simp only [Condition.render, String.toList_append, List.append_assoc]
    have htake := iha.atom h.2.1 (f + 1) (" AND ".toList ++ (b.render.toList ++ rest)) (by omega)
      (stops_cons (.inl rfl))
    simp only [takeConjunction, htake, Option.bind_some, afterAtom, skipWord_append,
      ihb.conjunction h.2.2 f rest (by omega) hrest, Option.map_some]
  | either a b iha ihb =>
    refine ⟨fun h => absurd h.1 (by omega), fun h => absurd h.1 (by omega),
      fun h fuel rest hf hrest => ?_⟩
    have := weight_pos a
    obtain ⟨f, rfl⟩ : ∃ f, fuel = f + 2 := ⟨fuel - 2, by simp only [weight] at hf; omega⟩
    simp only [weight] at hf
    simp only [Condition.render, String.toList_append, List.append_assoc]
    have htake := iha.conjunction h.2.1 (f + 1) (" OR ".toList ++ (b.render.toList ++ rest))
      (by omega) ⟨stops_cons (.inl rfl), rfl⟩
    simp only [takeCondition, htake, Option.bind_some, afterConjunction, skipWord_append,
      ihb.condition h.2.2 f rest (by omega) hrest, Option.map_some]
  | group c ih =>
    refine .of_atom (fun h fuel rest hf _ => ?_) id
    obtain ⟨f, rfl⟩ : ∃ f, fuel = f + 1 := ⟨fuel - 1, by simp only [weight] at hf; omega⟩
    simp only [weight] at hf
    simp only [Condition.render, String.toList_append, List.append_assoc]
    have htake := ih.condition h f (')' :: rest) (by omega) (endsOr_closing rest)
    change takeAtom column rule (f + 1) ('(' :: (c.render.toList ++ (')' :: rest))) = _
    simp only [takeAtom, List.head?_cons, if_true, List.tail_cons, htake, Option.bind_some,
      closeGroup]

/-- **A condition under a user's own is read back from its text.** -/
theorem readCondition?_under (hname : isName column = true) {c : Condition}
    (hc : Written column rule 2 c) (predicate : Option String) :
    readCondition? column rule predicate (Condition.under predicate c).render =
      some (Condition.under predicate c) := by
  have hweight := weight_le_length hc
  have htaken := take_render rule hname c
  cases predicate with
  | none =>
    have htake := htaken.condition (hc.mono (by omega)) (readingBound c.render.toList) []
      (by rw [readingBound]; omega) endsOr_nil
    rw [List.append_nil] at htake
    rw [readCondition?, Condition.under, takeUnder, htake]
  | some text =>
    obtain ⟨f, hf⟩ : ∃ f, readingBound (Condition.under (some text) c).render.toList = f + 2 ∧
        5 * weight c ≤ f + 1 := by
      refine ⟨_, rfl, ?_⟩
      simp only [Condition.under, Condition.render, String.toList_append, List.length_append]
      omega
    have htake := htaken.conjunction (hc.mono (by omega)) (f + 1) [] (by omega) endsOr_nil.1
    rw [List.append_nil] at htake
    have htext : (Condition.under (some text) c).render.toList =
        ("(" ++ text ++ ")").toList ++ (" AND ".toList ++ c.render.toList) := by
      simp [Condition.under, Condition.render]
    rw [readCondition?, takeUnder, hf.1, htext, skipWord_append, Option.bind_some]
    simp only [afterAtom, skipWord_append, htake, Option.map_some, Option.bind_some]
    rfl

/-- Without parentheses, `AND` binds more strongly than `OR`. -/
example :
    readCondition? "id" .quoteOnly (some "a OR b") "(a OR b) AND 2 <= id OR id < 'x''y'" =
      some (.either (.both (.group (.given "a OR b")) (.atMost (.integer 2) (.column "id")))
        (.less (.column "id") (.text .quoteOnly "x'y"))) := by
  decide +kernel

end

end Sql

end TableExchange
