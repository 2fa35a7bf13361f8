import TableExchange.Proofs.Results
import TableExchange.Proofs.Text.Blank
import TableExchange.Proofs.Text.Digits
import TableExchange.Split.Probe

/-!
# Keys in the values of a driver

Which key a driver's value holds, told apart from the way it is read: an integer key is the integer
that a value denotes, as a number or as a text, and a text key is the text itself.

* `SpellsInteger`: the texts that denote integers, and the integers they denote.
* `DriverValue.IsKey`, `DriverValue.Holds`: the key in a value.
* `SplitPoint.ofValue_eq_ok_iff`: the reader finds just these keys.
* `DriverValue.IsKey.not_inexact`: which values are no integer keys.
-/

namespace TableExchange

/-! ## Integers in texts -/

/-- Digits, with underscores anywhere but in front, denote a natural number. -/
structure SpellsNatural (cs : List Char) (n : Nat) : Prop where
  leading : ∃ c, cs.head? = some c ∧ c.isDigit = true
  digits : ∀ c ∈ cs, c.isDigit = true ∨ c = '_'
  value : n = Digits.toNat (cs.filter (· != '_'))

/-- Digits denote an integer, with a sign in front or without. -/
inductive SpellsInteger : List Char → Int → Prop
  | unsigned {cs : List Char} {n : Nat} (h : SpellsNatural cs n) : SpellsInteger cs n
  | plus {cs : List Char} {n : Nat} (h : SpellsNatural cs n) : SpellsInteger ('+' :: cs) n
  | minus {cs : List Char} {n : Nat} (h : SpellsNatural cs n) : SpellsInteger ('-' :: cs) (-n)

variable {cs : List Char} {n : Int} {text : String}

theorem spellsNatural_iff {n : Nat} : SpellsNatural cs n ↔
    cs.head? ≠ some '_' ∧ Digits.isNumeral (cs.filter (· != '_')) = true ∧
      Digits.toNat (cs.filter (· != '_')) = n := by
  constructor
  · rintro ⟨⟨c, hhead, hdigit⟩, hchars, rfl⟩
    have hunderscore : c ≠ '_' := by
      rintro rfl
      cases hdigit
    refine ⟨by simpa [hhead] using hunderscore, Digits.isNumeral_iff.2 ⟨?_, fun d hd => ?_⟩, rfl⟩
    · exact List.ne_nil_of_mem
        (List.mem_filter.2 ⟨List.mem_of_head? hhead, by simpa using hunderscore⟩)
    · obtain ⟨hd, hkept⟩ := List.mem_filter.1 hd
      exact (hchars d hd).resolve_right (by simpa using hkept)
  · rintro ⟨hhead, hnumeral, rfl⟩
    obtain ⟨hne, hdigits⟩ := Digits.isNumeral_iff.1 hnumeral
    refine ⟨?_, fun c hc => ?_, rfl⟩
    · cases cs with
      | nil => exact absurd rfl hne
      | cons c cs => exact ⟨c, rfl, hdigits c (by simpa using hhead)⟩
    · by_cases hunderscore : c = '_'
      · exact .inr hunderscore
      · exact .inl (hdigits c (List.mem_filter.2 ⟨hc, by simpa using hunderscore⟩))

theorem SpellsNatural.isDigit {c : Char} {k : Nat} (h : SpellsNatural (c :: cs) k) :
    c.isDigit = true := by
  obtain ⟨_, hhead, hdigit⟩ := h.leading
  cases hhead
  exact hdigit

theorem spellsInteger_minus :
    SpellsInteger ('-' :: cs) n ↔ ∃ k : Nat, SpellsNatural cs k ∧ -(k : Int) = n := by
  constructor
  · intro h
    cases h with
    | unsigned h => cases h.isDigit
    | minus h => exact ⟨_, h, rfl⟩
  · rintro ⟨k, h, rfl⟩
    exact .minus h

theorem spellsInteger_plus :
    SpellsInteger ('+' :: cs) n ↔ ∃ k : Nat, SpellsNatural cs k ∧ (k : Int) = n := by
  constructor
  · intro h
    cases h with
    | unsigned h => cases h.isDigit
    | plus h => exact ⟨_, h, rfl⟩
  · rintro ⟨k, h, rfl⟩
    exact .plus h

theorem spellsInteger_unsigned (hminus : cs.head? ≠ some '-') (hplus : cs.head? ≠ some '+') :
    SpellsInteger cs n ↔ ∃ k : Nat, SpellsNatural cs k ∧ (k : Int) = n := by
  constructor
  · intro h
    cases h with
    | unsigned h => exact ⟨_, h, rfl⟩
    | plus h => exact absurd rfl hplus
    | minus h => exact absurd rfl hminus
  · rintro ⟨k, h, rfl⟩
    exact .unsigned h

/-- Without underscores in front, the digits are read once all underscores are gone. -/
theorem ite_isNumeral_eq_some_iff {f : Nat → Int} :
    (if cs.head? = some '_' then none
      else if Digits.isNumeral (cs.filter (· != '_')) then
        some (f (Digits.toNat (cs.filter (· != '_')))) else none) = some n ↔
      ∃ k, SpellsNatural cs k ∧ f k = n := by
  simp [spellsNatural_iff, and_assoc]

theorem readInteger?_unsigned (hminus : cs.head? ≠ some '-') (hplus : cs.head? ≠ some '+') :
    readInteger? cs =
      if Digits.isNumeral cs then some (Digits.toNat cs : Int) else none := by
  rw [readInteger?.eq_def]
  split
  · exact absurd rfl hminus
  · exact absurd rfl hplus
  · rfl

/-- The integer that is read from a text is the one it spells. -/
theorem readKeyInteger?_eq_some_iff :
    readKeyInteger? text = some n ↔ SpellsInteger (trim text).toList n := by
  unfold readKeyInteger?
  generalize (trim text).toList = cs
  by_cases hminus : cs.head? = some '-'
  · obtain ⟨rest, rfl⟩ := List.head?_eq_some_iff.1 hminus
    rw [spellsInteger_minus, ← ite_isNumeral_eq_some_iff]
    rfl
  by_cases hplus : cs.head? = some '+'
  · obtain ⟨rest, rfl⟩ := List.head?_eq_some_iff.1 hplus
    rw [spellsInteger_plus, ← ite_isNumeral_eq_some_iff]
    rfl
  rw [spellsInteger_unsigned hminus hplus, ← ite_isNumeral_eq_some_iff]
  split
  next sign digits hsplit =>
  split at hsplit
  · exact absurd rfl hminus
  · exact absurd rfl hplus
  obtain ⟨rfl, rfl⟩ := Prod.mk.inj hsplit
  by_cases hunderscore : cs.head? = some '_'
  · rw [if_pos hunderscore, if_pos hunderscore]
  · -- the first digit stays, so no sign comes to the front
    have hkept : (cs.filter (· != '_')).head? = cs.head? := by
      cases cs with
      | nil => rfl
      | cons c cs => simp_all
    rw [if_neg hunderscore, if_neg hunderscore, List.nil_append,
      readInteger?_unsigned (hkept ▸ hminus) (hkept ▸ hplus)]

theorem SpellsInteger.not_mem_point (h : SpellsInteger cs n) : '.' ∉ cs := by
  have hnatural {cs : List Char} {k : Nat} (h : SpellsNatural cs k) : '.' ∉ cs := fun hmem => by
    rcases h.digits _ hmem with hdigit | hunderscore
    · cases hdigit
    · exact absurd hunderscore (by decide)
  cases h with
  | unsigned h => exact hnatural h
  | plus h => exact List.not_mem_cons_of_ne_of_not_mem (by decide) (hnatural h)
  | minus h => exact List.not_mem_cons_of_ne_of_not_mem (by decide) (hnatural h)

/-! ## Keys in values -/

/-- The integer that a value denotes. -/
inductive DriverValue.Denotes : DriverValue → Int → Prop
  | integer (n : Int) : Denotes (.integer n) n
  | decimal {text : String} {n : Int} (h : SpellsInteger (trim text).toList n) :
    Denotes (.decimal text) n
  | text {text : String} {n : Int} (h : SpellsInteger (trim text).toList n) :
    Denotes (.text text) n

/-- The key in a value: an integer that it denotes, or its text as it stands. -/
inductive DriverValue.IsKey : KeyKind → DriverValue → SplitPoint → Prop
  | numeric {v : DriverValue} {n : Int} (h : v.Denotes n) : IsKey .numeric v (.integer n)
  | string (text : String) : IsKey .string (.text text) (.text text)

/-- What is found in a value: nothing in null, and else its key. -/
inductive DriverValue.Holds (kind : KeyKind) : DriverValue → Option SplitPoint → Prop
  | null : Holds kind .null none
  | key {v : DriverValue} {p : SplitPoint} (h : v.IsKey kind p) : Holds kind v (some p)

/-- A value that is neither a whole number nor the text of one: a double, a boolean, bytes, an
instant, or a text with a decimal point. -/
def DriverValue.isInexact : DriverValue → Bool
  | .bool _ | .double _ | .bytes _ | .instant .. => true
  | .decimal text | .text text => text.toList.contains '.'
  | .null | .integer _ => false

theorem integerKey_eq_ok_iff {p : SplitPoint} :
    integerKey text = .ok p ↔ ∃ n, SpellsInteger (trim text).toList n ∧ p = .integer n := by
  unfold integerKey
  split
  · next hpoint =>
    -- a decimal point is no part of an integer
    have hmem : '.' ∈ (trim text).toList := mem_trim (by simpa using hpoint) (by decide)
    refine iff_of_false nofun ?_
    rintro ⟨n, hspells, -⟩
    exact hspells.not_mem_point hmem
  · simp only [← readKeyInteger?_eq_some_iff]
    cases readKeyInteger? text <;> simp [eq_comm]

namespace DriverValue

variable {kind : KeyKind} {v : DriverValue} {p : SplitPoint} {found : Option SplitPoint}

theorem IsKey.kind_eq (h : v.IsKey kind p) : p.kind = kind := by
  cases h <;> rfl

theorem IsKey.isNull_eq (h : v.IsKey kind p) : v.isNull = false := by
  cases h with
  | string text => rfl
  | numeric h => cases h <;> rfl

/-- No integer key comes from a value of another kind or with a fraction. -/
theorem IsKey.not_inexact (h : v.IsKey .numeric p) : v.isInexact = false := by
  have htext {text : String} {n : Int} (h : SpellsInteger (trim text).toList n) :
      text.toList.contains '.' = false := by
    rw [← Bool.not_eq_true, List.contains_iff_mem]
    exact fun hmem => h.not_mem_point (mem_trim hmem (by decide))
  cases h with
  | numeric h =>
    cases h with
    | integer n => rfl
    | decimal h => exact htext h
    | text h => exact htext h

theorem Holds.eq_null (h : v.Holds kind none) : v = .null := by
  cases h
  rfl

theorem Holds.isKey (h : v.Holds kind (some p)) : v.IsKey kind p := by
  cases h with
  | key h => exact h

theorem Holds.not_inexact (h : v.Holds .numeric found) : v.isInexact = false := by
  cases h with
  | null => rfl
  | key h => exact h.not_inexact

end DriverValue

theorem integerKey_map_some_eq_ok_iff {found : Option SplitPoint} :
    (integerKey text).map some = .ok found ↔
      ∃ n, SpellsInteger (trim text).toList n ∧ found = some (.integer n) := by
  constructor
  · intro h
    cases hkey : integerKey text with
    | error fault => simp [hkey, Except.map] at h
    | ok p =>
      obtain ⟨n, hspells, rfl⟩ := integerKey_eq_ok_iff.1 hkey
      rw [hkey] at h
      cases h
      exact ⟨n, hspells, rfl⟩
  · rintro ⟨n, hspells, rfl⟩
    rw [integerKey_eq_ok_iff.2 ⟨n, hspells, rfl⟩]
    rfl

/-- What is read from a value is what it holds. -/
theorem SplitPoint.ofValue_eq_ok_iff {kind : KeyKind} {v : DriverValue} {found : Option SplitPoint} :
    ofValue kind v = .ok found ↔ v.Holds kind found := by
  constructor
  · intro h
    cases kind with
    | numeric =>
      cases v with
      | null =>
        cases h
        exact .null
      | integer n =>
        cases h
        exact .key (.numeric (.integer n))
      | decimal s =>
        obtain ⟨n, hspells, rfl⟩ := integerKey_map_some_eq_ok_iff.1 h
        exact .key (.numeric (.decimal hspells))
      | text s =>
        obtain ⟨n, hspells, rfl⟩ := integerKey_map_some_eq_ok_iff.1 h
        exact .key (.numeric (.text hspells))
      | bool b | double x | bytes data | instant millis nanos => cases h
    | string =>
      cases v with
      | null =>
        cases h
        exact .null
      | text s =>
        cases h
        exact .key (.string s)
      | bool b | integer n | decimal s | double x | bytes data | instant millis nanos => cases h
  · intro h
    cases h with
    | null => cases kind <;> rfl
    | key h =>
      cases h with
      | string text => rfl
      | numeric h =>
        cases h with
        | integer n => rfl
        | decimal h => exact integerKey_map_some_eq_ok_iff.2 ⟨_, h, rfl⟩
        | text h => exact integerKey_map_some_eq_ok_iff.2 ⟨_, h, rfl⟩

end TableExchange
