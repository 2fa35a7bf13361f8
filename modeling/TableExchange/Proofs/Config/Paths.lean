import Mathlib.Data.List.Basic
import TableExchange.Config.Getters
import TableExchange.Proofs.Number.LiteralReading

/-!
# Which texts are paths

The points of a text divide it into parts, and each part is read by itself: a key, then indexes in
brackets up to its end. A text is no path just if one of its parts has a fault.

* `Path.SpellsPart`, `Path.readPart_eq_some_iff`: how a part is written, and that it is read so.
* `Path.PartFault`, `Path.readPart_eq_none_iff`: what may be wrong with a part.
* `Path.IsFaulty`, `Path.read?_eq_none_iff`: the texts that are no paths.
* `Path.read?_point`, `Path.read?_index`: a path behind a path, and an index behind a path.
-/

namespace TableExchange

namespace Path

variable {cs ds part inside rest before : List Char} {path p : Path} {i : Nat} {text : String}

/-! ## Parts -/

/-- An index is a digit string, with a plus sign in front if one likes. -/
inductive SpellsIndex : Nat → List Char → Prop
  | digits {ds : Digits} (h : Digits.isNumeral ds = true) (hrange : Digits.toNat ds < 2 ^ 64) :
    SpellsIndex (Digits.toNat ds) ds
  | plus {ds : Digits} (h : Digits.isNumeral ds = true) (hrange : Digits.toNat ds < 2 ^ 64) :
    SpellsIndex (Digits.toNat ds) ('+' :: ds)

/-- Indexes, each in brackets of its own. -/
inductive SpellsIndexes : Path → List Char → Prop
  | none : SpellsIndexes [] []
  | more {i : Nat} {inside : List Char} {path : Path} {rest : List Char} (h : SpellsIndex i inside)
    (hrest : SpellsIndexes path rest) :
    SpellsIndexes (.index i :: path) ('[' :: (inside ++ ']' :: rest))

/-- A part is a key with or without indexes behind it, or it is indexes alone. -/
inductive SpellsPart : Path → List Char → Prop
  | indexes {path : Path} {cs : List Char} (hne : cs ≠ []) (h : SpellsIndexes path cs) :
    SpellsPart path cs
  | keyed {name : List Char} {path : Path} {cs : List Char} (hne : name ≠ [])
    (hname : '[' ∉ name) (h : SpellsIndexes path cs) :
    SpellsPart (.key (String.ofList name) :: path) (name ++ cs)

/-- What an index is written with is no bracket and no point. -/
theorem SpellsIndex.not_mem (h : SpellsIndex i cs) : '[' ∉ cs ∧ ']' ∉ cs ∧ '.' ∉ cs := by
  have hdigits {ds : Digits} (h : Digits.isNumeral ds = true) {c : Char} (hc : c.isDigit = false) :
      c ∉ ds := fun hmem => by
    rw [(Digits.isNumeral_iff.1 h).2 c hmem] at hc
    cases hc
  cases h with
  | digits h => exact ⟨hdigits h rfl, hdigits h rfl, hdigits h rfl⟩
  | plus h =>
    have hcons {c : Char} (hne : c ≠ '+') (hc : c.isDigit = false) : c ∉ '+' :: _ :=
      List.not_mem_cons_of_ne_of_not_mem hne (hdigits h hc)
    exact ⟨hcons (by decide) rfl, hcons (by decide) rfl, hcons (by decide) rfl⟩

/-! ## Indexes -/

theorem digits_eq_some_iff {ds : Digits} :
    (if Digits.isNumeral ds ∧ Digits.toNat ds ≤ maxIndex then some (Digits.toNat ds) else none) =
      some i ↔ Digits.isNumeral ds = true ∧ Digits.toNat ds < 2 ^ 64 ∧ Digits.toNat ds = i := by
  rw [Option.ite_none_right_eq_some, Option.some_inj, and_assoc]
  exact and_congr_right fun _ => and_congr_left fun _ => Nat.lt_succ_iff.symm

theorem readIndex?_eq_some_iff : readIndex? cs = some i ↔ SpellsIndex i cs := by
  unfold readIndex?
  constructor
  · intro h
    split at h <;> obtain ⟨hnumeral, hrange, rfl⟩ := digits_eq_some_iff.1 h
    · exact .plus hnumeral hrange
    · exact .digits hnumeral hrange
  · intro h
    cases h with
    | plus hnumeral hrange => exact digits_eq_some_iff.2 ⟨hnumeral, hrange, rfl⟩
    | digits hnumeral hrange =>
      split
      · exact absurd ((Digits.isNumeral_iff.1 hnumeral).2 '+' (by simp)) (by decide)
      · exact digits_eq_some_iff.2 ⟨hnumeral, hrange, rfl⟩

/-- Inside a bracket, all up to the closing one is the index. -/
theorem readIndexes_inside (hinside : ']' ∉ inside) (seen : List Char) :
    readIndexes (some seen) (inside ++ ']' :: rest) =
      (readIndex? (seen.reverse ++ inside)).bind fun i =>
        (readIndexes none rest).map (.index i :: ·) := by
  induction inside generalizing seen with
  | nil =>
    rw [List.nil_append, List.append_nil, readIndexes, if_pos rfl]
    cases readIndex? seen.reverse with
    | none => rfl
    | some i => cases readIndexes none rest <;> rfl
  | cons c inside ih =>
    obtain ⟨hc, hinside⟩ := List.ne_and_not_mem_of_not_mem_cons hinside
    rw [List.cons_append, readIndexes, if_neg (Ne.symm hc), ih hinside, List.reverse_cons,
      List.append_assoc]
    rfl

theorem readIndexes_unclosed (h : ']' ∉ cs) (seen : List Char) :
    readIndexes (some seen) cs = none := by
  induction cs generalizing seen with
  | nil => rfl
  | cons c cs ih =>
    obtain ⟨hc, hrest⟩ := List.ne_and_not_mem_of_not_mem_cons h
    rw [readIndexes, if_neg (Ne.symm hc), ih hrest]

theorem readIndexes_bracket (hinside : ']' ∉ inside) :
    readIndexes none ('[' :: (inside ++ ']' :: rest)) =
      (readIndex? inside).bind fun i => (readIndexes none rest).map (.index i :: ·) :=
  readIndexes_inside hinside []

/-- A text that does not go on with an index in brackets. -/
inductive BracketFault : List Char → Prop
  | noBracket {c : Char} {rest : List Char} (hc : c ≠ '[') : BracketFault (c :: rest)
  | unclosed {inside : List Char} (h : ']' ∉ inside) : BracketFault ('[' :: inside)
  | noIndex {inside rest : List Char} (hinside : ']' ∉ inside) (h : ¬∃ i, SpellsIndex i inside) :
    BracketFault ('[' :: (inside ++ ']' :: rest))

theorem readIndexes_of_fault (h : BracketFault cs) : readIndexes none cs = none := by
  cases h with
  | noBracket hc => exact if_neg hc
  | unclosed h => exact readIndexes_unclosed h []
  | noIndex hinside h =>
    rw [readIndexes_bracket hinside, Option.bind_eq_none_iff]
    intro i hi
    exact absurd ⟨i, readIndex?_eq_some_iff.1 hi⟩ h

theorem readIndexes_append (h : SpellsIndexes path cs) (rest : List Char) :
    readIndexes none (cs ++ rest) = (readIndexes none rest).map (path ++ ·) := by
  induction h with
  | none => cases h : readIndexes none rest <;> simp [h]
  | @more i inside path cs hinside _ ih =>
    have hread : readIndexes none ('[' :: (inside ++ ']' :: (cs ++ rest))) = _ :=
      readIndexes_bracket hinside.not_mem.2.1
    rw [readIndex?_eq_some_iff.2 hinside, Option.bind_some, ih, Option.map_map] at hread
    simpa [Function.comp_def] using hread

/-- Every text begins with indexes, maybe none, and is then at its end or has a fault. -/
theorem exists_spelled (cs : List Char) :
    ∃ path spelled rest, cs = spelled ++ rest ∧ SpellsIndexes path spelled ∧
      (rest = [] ∨ BracketFault rest) := by
  match cs with
  | [] => exact ⟨[], [], [], rfl, .none, .inl rfl⟩
  | c :: cs =>
    by_cases hc : c = '['
    · subst hc
      by_cases hclose : ']' ∈ cs
      · obtain ⟨inside, after, hcs, hinside⟩ := List.eq_append_cons_of_mem hclose
        have hshorter : after.length < ('[' :: cs).length := by simp [hcs]; omega
        subst hcs
        by_cases hindex : ∃ i, SpellsIndex i inside
        · obtain ⟨i, hi⟩ := hindex
          obtain ⟨path, spelled, rest, rfl, hspelled, hrest⟩ := exists_spelled after
          exact ⟨_, _, rest, by simp, .more hi hspelled, hrest⟩
        · exact ⟨[], [], _, rfl, .none, .inr (.noIndex hinside hindex)⟩
      · exact ⟨[], [], _, rfl, .none, .inr (.unclosed hclose)⟩
    · exact ⟨[], [], _, rfl, .none, .inr (.noBracket hc)⟩
termination_by cs.length

theorem readIndexes_eq_some_iff : readIndexes none cs = some path ↔ SpellsIndexes path cs := by
  constructor
  · intro h
    obtain ⟨path', spelled, rest, rfl, hspelled, hrest⟩ := exists_spelled cs
    rw [readIndexes_append hspelled] at h
    rcases hrest with rfl | hfault
    · obtain rfl : path' = path := by simpa [readIndexes] using h
      rwa [List.append_nil]
    · rw [readIndexes_of_fault hfault] at h
      cases h
  · intro h
    have hread := readIndexes_append h []
    simpa [readIndexes] using hread

/-! ## Parts -/

theorem SpellsIndexes.head_eq (h : SpellsIndexes path cs) : ∀ c ∈ cs.head?, c = '[' := by
  cases h <;> simp

theorem SpellsIndexes.append {q : Path} (h : SpellsIndexes path cs) (h' : SpellsIndexes q ds) :
    SpellsIndexes (path ++ q) (cs ++ ds) := by
  induction h with
  | none => exact h'
  | more hinside _ ih => simpa using SpellsIndexes.more hinside ih

/-- More indexes may stand behind a part. -/
theorem SpellsPart.append {q : Path} (h : SpellsPart path part) (h' : SpellsIndexes q ds) :
    SpellsPart (path ++ q) (part ++ ds) := by
  cases h with
  | indexes hne h => exact .indexes (List.append_ne_nil_of_left_ne_nil hne ds) (h.append h')
  | keyed hne hname h =>
    rw [List.append_assoc]
    exact .keyed hne hname (h.append h')

theorem SpellsPart.path_ne_nil (h : SpellsPart path part) : path ≠ [] := by
  cases h with
  | indexes hne h =>
    cases h with
    | none => exact absurd rfl hne
    | more => nofun
  | keyed => nofun

theorem SpellsPart.part_ne_nil (h : SpellsPart path part) : part ≠ [] := by
  cases h with
  | indexes hne => exact hne
  | keyed hne => exact List.append_ne_nil_of_left_ne_nil hne _

/-- A part is divided at its first bracket. -/
theorem key_append {name : List Char} (hname : '[' ∉ name) (hhead : ∀ c ∈ rest.head?, c = '[') :
    (name ++ rest).takeWhile (· != '[') = name ∧ (name ++ rest).dropWhile (· != '[') = rest := by
  have hkey : ∀ c ∈ name, (c != '[') = true := fun c hc =>
    bne_iff_ne.2 fun heq => hname (heq ▸ hc)
  have hstop : ∀ c ∈ rest.head?, (c != '[') = false := fun c hc => by simp [hhead c hc]
  exact ⟨takeWhile_append_stop hkey hstop, dropWhile_append_stop hkey hstop⟩

theorem exists_key (part : List Char) : ∃ name rest, part = name ++ rest ∧ '[' ∉ name ∧
    ∀ c ∈ rest.head?, c = '[' := by
  refine ⟨_, _, (List.takeWhile_append_dropWhile (p := (· != '['))).symm, fun hmem => ?_, ?_⟩
  · exact absurd (List.mem_takeWhile_imp hmem) (by simp)
  · intro c hc
    have hhead := List.head?_dropWhile_not (· != '[') part
    rw [hc] at hhead
    simpa using hhead

theorem readPart_append {name : List Char} (hname : '[' ∉ name)
    (hhead : ∀ c ∈ rest.head?, c = '[') :
    readPart (name ++ rest) = if name = [] ∧ rest = [] then none
      else (readIndexes none rest).map fun indexes =>
        if name = [] then indexes else .key (String.ofList name) :: indexes := by
  obtain ⟨htake, hdrop⟩ := key_append hname hhead
  simp only [readPart, htake, hdrop, List.isEmpty_iff, List.append_eq_nil_iff]
  split
  · rfl
  · cases readIndexes none rest <;> rfl

theorem readPart_eq_some_iff : readPart part = some path ↔ SpellsPart path part := by
  constructor
  · intro h
    obtain ⟨name, rest, rfl, hname, hhead⟩ := exists_key part
    rw [readPart_append hname hhead] at h
    split at h
    · cases h
    · next hne =>
      obtain ⟨indexes, hindexes, rfl⟩ := Option.map_eq_some_iff.1 h
      have hspells := readIndexes_eq_some_iff.1 hindexes
      split
      · next hnil =>
        subst hnil
        exact .indexes (fun hrest => hne ⟨rfl, hrest⟩) hspells
      · next hkey => exact .keyed hkey hname hspells
  · intro h
    cases h with
    | indexes hne h =>
      have hread : readPart ([] ++ part) = _ := readPart_append List.not_mem_nil h.head_eq
      rw [List.nil_append, readIndexes_eq_some_iff.2 h, if_neg (fun hnil => hne hnil.2)] at hread
      simpa using hread
    | keyed hne hname h =>
      rw [readPart_append hname h.head_eq, readIndexes_eq_some_iff.2 h,
        if_neg (fun hnil => hne hnil.1), Option.map_some, if_neg hne]

/-! ## Faults -/

/-- What may be wrong with a part: nothing stands there; a bracket is not closed; what stands in a
bracket is no index; or text that opens no bracket stands behind a closing one. -/
inductive PartFault : List Char → Prop
  | empty : PartFault []
  | unclosed {before inside : List Char} (h : ']' ∉ inside) : PartFault (before ++ '[' :: inside)
  | noIndex {before inside after : List Char} (hinside : ']' ∉ inside)
    (h : ¬∃ i, SpellsIndex i inside) : PartFault (before ++ '[' :: (inside ++ ']' :: after))
  | textBehind {before after : List Char} {c : Char} (hopen : '[' ∈ before) (hc : c ≠ '[') :
    PartFault (before ++ ']' :: c :: after)

/-- A bracket behind an opening one is the closing one, or stands behind that. -/
theorem append_bracket_eq {b : Char} (hb : b ∉ inside)
    (h : inside ++ ']' :: cs = before ++ b :: rest) :
    (before = inside ∧ b = ']' ∧ rest = cs) ∨
      ∃ more, before = inside ++ ']' :: more ∧ cs = more ++ b :: rest := by
  rcases List.append_eq_append_iff.1 h with ⟨more, rfl, hmore⟩ | ⟨more, rfl, hmore⟩
  · rcases List.cons_eq_append_iff.1 hmore with ⟨rfl, hrest⟩ | ⟨more, rfl, hcs⟩
    · cases hrest
      exact .inl ⟨List.append_nil _, rfl, rfl⟩
    · exact .inr ⟨more, rfl, hcs⟩
  · rcases List.cons_eq_append_iff.1 hmore with ⟨rfl, hrest⟩ | ⟨more, rfl, -⟩
    · cases hrest
      exact .inl ⟨(List.append_nil _).symm, rfl, rfl⟩
    · exact absurd (by simp) hb

/-- An opening bracket is followed by an index and a closing one. -/
theorem SpellsIndexes.opened (h : SpellsIndexes path cs) (hcs : cs = before ++ '[' :: rest) :
    ∃ i inside after, SpellsIndex i inside ∧ rest = inside ++ ']' :: after := by
  induction h generalizing before with
  | none => simp at hcs
  | @more i inside path cs hinside _ ih =>
    rcases List.cons_eq_append_iff.1 hcs with ⟨rfl, hrest⟩ | ⟨before, rfl, hrest⟩
    · cases hrest
      exact ⟨i, inside, cs, hinside, rfl⟩
    · rcases append_bracket_eq hinside.not_mem.1 hrest with ⟨-, hbad, -⟩ | ⟨more, -, hmore⟩
      · cases hbad
      · exact ih hmore

/-- A closing bracket is followed by an opening one, or by nothing. -/
theorem SpellsIndexes.closed (h : SpellsIndexes path cs) (hcs : cs = before ++ ']' :: rest) :
    ∀ c ∈ rest.head?, c = '[' := by
  induction h generalizing before with
  | none => simp at hcs
  | @more i inside path cs hinside hspells ih =>
    rcases List.cons_eq_append_iff.1 hcs with ⟨rfl, hrest⟩ | ⟨before, rfl, hrest⟩
    · cases hrest
    · rcases append_bracket_eq hinside.not_mem.2.1 hrest with ⟨-, -, rfl⟩ | ⟨more, -, hmore⟩
      · exact hspells.head_eq
      · exact ih hmore

/-- The indexes of a part begin with its first opening bracket. -/
theorem SpellsPart.exists_indexes (h : SpellsPart path part) (hpart : part = before ++ rest)
    (hopen : rest.head? = some '[' ∨ '[' ∈ before) :
    ∃ indexes more, SpellsIndexes indexes (more ++ rest) := by
  cases h with
  | indexes _ h => exact ⟨path, before, hpart ▸ h⟩
  | @keyed name indexes cs _ hname h =>
    rcases List.append_eq_append_iff.1 hpart with ⟨more, rfl, rfl⟩ | ⟨more, rfl, hrest⟩
    · exact ⟨indexes, more, h⟩
    · -- the key reaches up to the first bracket, so nothing of it is left over
      have hmore : more = [] := by
        cases more with
        | nil => rfl
        | cons c more =>
          subst hrest
          simp_all
      subst hmore
      exact ⟨indexes, [], by simpa [hrest] using h⟩

theorem PartFault.not_spells (h : PartFault part) : ¬SpellsPart path part := by
  intro hpart
  cases h with
  | empty => exact hpart.part_ne_nil rfl
  | unclosed h =>
    obtain ⟨indexes, more, hspells⟩ := hpart.exists_indexes rfl (.inl rfl)
    obtain ⟨i, inside, after, -, rfl⟩ := hspells.opened rfl
    exact h (by simp)
  | noIndex hinside h =>
    obtain ⟨indexes, more, hspells⟩ := hpart.exists_indexes rfl (.inl rfl)
    obtain ⟨i, index, after, hi, heq⟩ := hspells.opened rfl
    rcases append_bracket_eq hi.not_mem.2.1 heq.symm with ⟨rfl, -⟩ | ⟨more, rfl, -⟩
    · exact h ⟨i, hi⟩
    · exact hinside (by simp)
  | textBehind hopen hc =>
    obtain ⟨indexes, more, hspells⟩ := hpart.exists_indexes rfl (.inr hopen)
    exact hc (hspells.closed rfl _ rfl)

/-- Indexes end with a closing bracket. -/
theorem SpellsIndexes.eq_nil_or_closed (h : SpellsIndexes path cs) :
    cs = [] ∨ ∃ before, cs = before ++ [']'] ∧ '[' ∈ before := by
  induction h with
  | none => exact .inl rfl
  | @more i inside path cs _ _ ih =>
    rcases ih with rfl | ⟨before, rfl, -⟩
    · exact .inr ⟨'[' :: inside, rfl, by simp⟩
    · exact .inr ⟨'[' :: (inside ++ ']' :: before), by simp, by simp⟩

theorem readPart_eq_none_iff : readPart part = none ↔ PartFault part := by
  constructor
  · intro h
    obtain ⟨name, region, rfl, hname, hhead⟩ := exists_key part
    obtain ⟨path, spelled, rest, rfl, hspelled, hrest⟩ := exists_spelled region
    rcases hrest with rfl | hfault
    · rw [List.append_nil] at *
      by_cases hnil : name ++ spelled = []
      · rw [hnil]
        exact .empty
      · rw [readPart_append hname hhead, readIndexes_eq_some_iff.2 hspelled] at h
        simp_all
    · cases hfault with
      | unclosed hclose =>
        rw [← List.append_assoc]
        exact .unclosed hclose
      | noIndex hinside hindex =>
        rw [← List.append_assoc]
        exact .noIndex hinside hindex
      | noBracket hc =>
        rcases hspelled.eq_nil_or_closed with rfl | ⟨before, rfl, hopen⟩
        · exact absurd (hhead _ rfl) hc
        · rw [List.append_assoc, ← List.append_assoc]
          exact .textBehind (List.mem_append_right _ hopen) hc
  · intro h
    rw [Option.eq_none_iff_forall_ne_some]
    exact fun path hpath => h.not_spells (readPart_eq_some_iff.1 hpath)

/-! ## Texts -/

/-- A part of a text, between two points or at an end, has a fault. -/
def IsFaulty (text : String) : Prop := ∃ part ∈ text.toList.splitOn '.', PartFault part

theorem mapM_eq_none_iff {α β : Type} {f : α → Option β} {as : List α} :
    as.mapM f = none ↔ ∃ a ∈ as, f a = none := by
  induction as with
  | nil => simp
  | cons a as ih =>
    rw [List.mapM_cons, List.exists_mem_cons_iff, ← ih]
    cases f a <;> cases as.mapM f <;> simp

/-- The texts that are no paths are those with a faulty part. -/
theorem read?_eq_none_iff : read? text = none ↔ IsFaulty text := by
  rw [read?, Option.map_eq_none_iff, mapM_eq_none_iff]
  simp only [readPart_eq_none_iff, IsFaulty]

theorem exists_read? (h : ¬IsFaulty text) : ∃ path, read? text = some path :=
  Option.ne_none_iff_exists'.1 (mt read?_eq_none_iff.1 h)

theorem ne_nil_of_read? (h : read? text = some path) : path ≠ [] := by
  obtain ⟨paths, hpaths, rfl⟩ := Option.map_eq_some_iff.1 h
  obtain ⟨part, parts, hparts⟩ := List.exists_cons_of_ne_nil (List.splitOn_ne_nil '.' text.toList)
  rw [hparts, List.mapM_cons] at hpaths
  obtain ⟨p, hp, hpaths⟩ := Option.bind_eq_some_iff.1 hpaths
  obtain ⟨ps, -, hps⟩ := Option.bind_eq_some_iff.1 hpaths
  cases hps
  exact List.append_ne_nil_of_left_ne_nil (readPart_eq_some_iff.1 hp).path_ne_nil _

theorem read?_single (h : '.' ∉ text.toList) : read? text = readPart text.toList := by
  rw [read?, List.splitOn_eq_singleton h]
  cases hread : readPart text.toList <;> simp [hread]

/-- A path behind another one goes on where that one ends. -/
theorem read?_point (first second : String) :
    read? (first ++ "." ++ second) =
      (read? first).bind fun p => (read? second).map (p ++ ·) := by
  have hsplit : (first ++ "." ++ second).toList.splitOn '.' =
      first.toList.splitOn '.' ++ second.toList.splitOn '.' := by
    rw [String.toList_append, String.toList_append, List.append_assoc]
    exact List.splitOn_append_cons_self _ _
  rw [read?, hsplit, List.mapM_append, read?, read?]
  cases (first.toList.splitOn '.').mapM readPart with
  | none => rfl
  | some ps => cases (second.toList.splitOn '.').mapM readPart <;> simp

/-- A text without a point is one part; every other one ends with a part behind its last point. -/
theorem exists_last (text : String) :
    '.' ∉ text.toList ∨ ∃ first last : String, text = first ++ "." ++ last ∧ '.' ∉ last.toList := by
  by_cases h : '.' ∈ text.toList
  · obtain ⟨last, first, heq, hlast⟩ := List.eq_append_cons_of_mem (List.mem_reverse.2 h)
    refine .inr ⟨String.ofList first.reverse, String.ofList last.reverse, ?_, by simpa using hlast⟩
    rw [← String.toList_inj]
    simpa using congrArg List.reverse heq
  · exact .inl h

/-- The text of an index in brackets. -/
def indexText (i : Nat) : List Char := '[' :: (Digits.ofNat i ++ [']'])

theorem spellsIndex_ofNat (h : i < 2 ^ 64) : SpellsIndex i (Digits.ofNat i) := by
  have hdigits := SpellsIndex.digits (Digits.isNumeral_ofNat i) (by rwa [Digits.toNat_ofNat])
  rwa [Digits.toNat_ofNat] at hdigits

theorem toList_itemPath (text : String) (i : Nat) :
    (Config.itemPath text i).toList = text.toList ++ indexText i := by
  simp [Config.itemPath, natText, indexText]

/-- An index behind a path is one more step. -/
theorem read?_index (hi : i < 2 ^ 64) (h : read? text = some path) :
    read? (Config.itemPath text i) = some (path ++ [.index i]) := by
  have hsingle {last : String} {p : Path} (hlast : '.' ∉ last.toList) (h : read? last = some p) :
      read? (Config.itemPath last i) = some (p ++ [.index i]) := by
    rw [read?_single hlast, readPart_eq_some_iff] at h
    have hindex := spellsIndex_ofNat hi
    have hitem : '.' ∉ (Config.itemPath last i).toList := by
      simp [toList_itemPath, indexText, hlast, hindex.not_mem.2.2]
    rw [read?_single hitem, toList_itemPath, readPart_eq_some_iff]
    exact h.append (.more hindex .none)
  rcases exists_last text with hlast | ⟨first, last, rfl, hlast⟩
  · exact hsingle hlast h
  · rw [read?_point] at h
    obtain ⟨p, hp, h⟩ := Option.bind_eq_some_iff.1 h
    obtain ⟨q, hq, rfl⟩ := Option.map_eq_some_iff.1 h
    have hpath : Config.itemPath (first ++ "." ++ last) i =
        first ++ "." ++ Config.itemPath last i := by
      simp [Config.itemPath, String.append_assoc]
    rw [hpath, read?_point, hp, hsingle hlast hq]
    simp

end Path

end TableExchange
