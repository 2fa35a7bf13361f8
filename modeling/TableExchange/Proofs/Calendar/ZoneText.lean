import TableExchange.Cell.Codec
import TableExchange.Proofs.Number.LiteralReading
import TableExchange.Proofs.Text.Blank

/-!
# How time zones are written

* `TimeZone.Spells`: the texts of a zone in capitals, and the offset that each denotes.
* `TimeZone.seconds?_eq_some_iff`: offsets without their sign.
* `TimeZone.spells_iff`: the texts that are read, as what they denote.
* `Codec.readTimeZone_spelled`: what becomes of every text, with blanks around it and in any case.
-/

namespace TableExchange

namespace TimeZone

/-! ## Grammar -/

/-- Hours and minutes: two numbers beside a colon, four digits, or the hours alone. -/
inductive SpellsTime : Nat → Nat → List Char → Prop
  | colon {hs ms : Digits} (hhour : Digits.isNumeral hs = true)
    (hminute : Digits.isNumeral ms = true) :
    SpellsTime (Digits.toNat hs) (Digits.toNat ms) (hs ++ ':' :: ms)
  | digits {hs ms : Digits} (hhour : Digits.isNumeral hs = true) (hhours : hs.length = 2)
    (hminute : Digits.isNumeral ms = true) (hminutes : ms.length = 2) :
    SpellsTime (Digits.toNat hs) (Digits.toNat ms) (hs ++ ms)
  | hour {hs : Digits} (hhour : Digits.isNumeral hs = true) (hhours : hs.length ≠ 4) :
    SpellsTime (Digits.toNat hs) 0 hs

/-- An offset in seconds. The sign is that of the hours and of the minutes. -/
inductive SpellsOffset : Int → List Char → Prop
  | missing : SpellsOffset 0 []
  | zulu : SpellsOffset 0 ['Z']
  | east {h m : Nat} {cs : List Char} (htime : SpellsTime h m cs) (hhour : h ≤ 25)
    (hminute : m ≤ 59) : SpellsOffset (3600 * h + 60 * m) ('+' :: cs)
  | west {h m : Nat} {cs : List Char} (htime : SpellsTime h m cs) (hhour : h ≤ 25)
    (hminute : m ≤ 59) : SpellsOffset (-(3600 * h + 60 * m)) ('-' :: cs)

/-- An offset behind a name, or without one. -/
inductive Spells : Int → List Char → Prop
  | gmt {offset : Int} {cs : List Char} (h : SpellsOffset offset cs) :
    Spells offset ('G' :: 'M' :: 'T' :: cs)
  | utc {offset : Int} {cs : List Char} (h : SpellsOffset offset cs) :
    Spells offset ('U' :: 'T' :: 'C' :: cs)
  | bare {offset : Int} {cs : List Char} (h : SpellsOffset offset cs) : Spells offset cs

variable {cs : List Char} {h m n : Nat} {offset : Int}

/-! ## Hours and minutes -/

theorem ne_colon_of_isDigit {c : Char} (hc : c.isDigit = true) : (c != ':') = true := by
  rw [bne_iff_ne]
  rintro rfl
  cases hc

theorem not_contains_colon {ds : Digits} (hdigits : ∀ c ∈ ds, c.isDigit = true) :
    ds.contains ':' = false := by
  rw [Bool.eq_false_iff, Ne, List.contains_iff_mem]
  intro hmem
  cases hdigits ':' hmem

theorem exists_dropWhile_colon (hcolon : ':' ∈ cs) :
    ∃ rest, cs.dropWhile (· != ':') = ':' :: rest := by
  have hhead := List.head?_dropWhile_not (· != ':') cs
  cases hdrop : cs.dropWhile (· != ':') with
  | nil => simpa using List.dropWhile_eq_nil_iff.1 hdrop ':' hcolon
  | cons c rest =>
    have hc : c = ':' := by simpa [hdrop] using hhead
    exact ⟨rest, by rw [hc]⟩

/-- The two texts of hours and minutes, as they are taken apart. -/
theorem spellsTime_iff : SpellsTime h m cs ↔ ∃ hs ms, split cs = (hs, ms) ∧
    Digits.isNumeral hs = true ∧ Digits.isNumeral ms = true ∧ h = Digits.toNat hs ∧
      m = Digits.toNat ms := by
  constructor
  · intro htime
    cases htime with
    | @colon hs ms hhour hminute =>
      have hstop : ∀ c ∈ hs, (c != ':') = true := fun c hc =>
        ne_colon_of_isDigit ((Digits.isNumeral_iff.1 hhour).2 c hc)
      refine ⟨hs, ms, ?_, hhour, hminute, rfl, rfl⟩
      rw [split, if_pos (by simp), takeWhile_append_stop hstop (by simp),
        dropWhile_append_stop hstop (by simp)]
      rfl
    | @digits hs ms hhour hhours hminute hminutes =>
      have hnone := not_contains_colon (List.forall_mem_append.2
        ⟨(Digits.isNumeral_iff.1 hhour).2, (Digits.isNumeral_iff.1 hminute).2⟩)
      refine ⟨hs, ms, ?_, hhour, hminute, rfl, rfl⟩
      rw [split, hnone, if_neg (by decide), if_pos (by simp [hhours, hminutes]),
        List.take_left' hhours, List.drop_left' hhours]
    | hour hhour hhours =>
      have hnone := not_contains_colon (Digits.isNumeral_iff.1 hhour).2
      refine ⟨cs, ['0'], ?_, hhour, by decide, rfl, by decide⟩
      rw [split, hnone, if_neg (by decide), if_neg hhours]
  · rintro ⟨hs, ms, hsplit, hhour, hminute, rfl, rfl⟩
    unfold split at hsplit
    split at hsplit
    · next hcolon =>
      obtain ⟨rest, hrest⟩ := exists_dropWhile_colon (by simpa using hcolon)
      have hcs := List.takeWhile_append_dropWhile (p := (· != ':')) (l := cs)
      rw [hrest] at hsplit hcs
      cases hsplit
      have htime := SpellsTime.colon hhour hminute
      rwa [List.drop_one, List.tail_cons, hcs] at htime
    split at hsplit
    · next hlength =>
      cases hsplit
      have htime := SpellsTime.digits hhour (by simp [hlength]) hminute (by simp [hlength])
      rwa [List.take_append_drop] at htime
    · next hlength =>
      cases hsplit
      exact .hour hhour hlength

theorem seconds?_eq_some_iff : seconds? cs = some n ↔
    ∃ h m, SpellsTime h m cs ∧ h ≤ 25 ∧ m ≤ 59 ∧ n = 3600 * h + 60 * m := by
  obtain ⟨⟨hs, ms⟩, hsplit⟩ : ∃ parts, split cs = parts := ⟨_, rfl⟩
  simp only [seconds?, hsplit, Option.ite_none_right_eq_some, spellsTime_iff]
  constructor
  · rintro ⟨⟨hhour, hminute, hhours, hminutes⟩, hn⟩
    cases hn
    exact ⟨_, _, ⟨hs, ms, rfl, hhour, hminute, rfl, rfl⟩, hhours, hminutes, rfl⟩
  · rintro ⟨h, m, ⟨hs', ms', hparts, hhour, hminute, rfl, rfl⟩, hhours, hminutes, rfl⟩
    cases hparts
    exact ⟨⟨hhour, hminute, hhours, hminutes⟩, rfl⟩

/-! ## Offsets -/

/-- The seconds of an offset, with a sign. -/
theorem signed_eq_some_iff {sign : Int → Int} :
    Option.map sign (do let n ← seconds? cs; pure (n : Int)) = some offset ↔
      ∃ h m, SpellsTime h m cs ∧ h ≤ 25 ∧ m ≤ 59 ∧ offset = sign (3600 * h + 60 * m) := by
  simp only [Option.map_eq_some_iff, Option.bind_eq_bind, Option.bind_eq_some_iff,
    seconds?_eq_some_iff, Option.pure_def, Option.some_inj]
  constructor
  · rintro ⟨_, ⟨_, ⟨h, m, htime, hhour, hminute, rfl⟩, rfl⟩, rfl⟩
    exact ⟨h, m, htime, hhour, hminute, by push_cast; rfl⟩
  · rintro ⟨h, m, htime, hhour, hminute, rfl⟩
    exact ⟨_, ⟨_, ⟨h, m, htime, hhour, hminute, rfl⟩, rfl⟩, by push_cast; rfl⟩

theorem offset?_eq_some_iff {zone : String} : offset? zone = some offset ↔
    SpellsOffset offset (withoutName (upperCase (trim zone)).toList) := by
  unfold offset?
  generalize withoutName (upperCase (trim zone)).toList = cs
  split
  · constructor
    · rintro ⟨⟩
      exact .missing
    · rintro ⟨⟩
      rfl
  · constructor
    · rintro ⟨⟩
      exact .zulu
    · rintro ⟨⟩
      rfl
  · rw [signed_eq_some_iff]
    constructor
    · rintro ⟨h, m, htime, hhour, hminute, rfl⟩
      exact .east htime hhour hminute
    · intro hoffset
      cases hoffset with
      | east htime hhour hminute => exact ⟨_, _, htime, hhour, hminute, rfl⟩
  · rw [signed_eq_some_iff]
    constructor
    · rintro ⟨h, m, htime, hhour, hminute, rfl⟩
      exact .west htime hhour hminute
    · intro hoffset
      cases hoffset with
      | west htime hhour hminute => exact ⟨_, _, htime, hhour, hminute, rfl⟩
  · next hmissing hzulu heast hwest =>
    refine iff_of_false nofun fun hoffset => ?_
    cases hoffset with
    | missing => exact hmissing rfl
    | zulu => exact hzulu rfl
    | east => exact heast _ rfl
    | west => exact hwest _ rfl

/-- No offset begins with a name, so it is clear which one is taken off. -/
theorem spells_iff : Spells offset cs ↔ SpellsOffset offset (withoutName cs) := by
  constructor
  · rintro (⟨h⟩ | ⟨h⟩ | ⟨h⟩)
    · exact h
    · exact h
    · cases h with
      | missing => exact .missing
      | zulu => exact .zulu
      | east htime hhour hminute => exact .east htime hhour hminute
      | west htime hhour hminute => exact .west htime hhour hminute
  · intro h
    unfold withoutName at h
    split at h
    · exact .gmt h
    · exact .utc h
    · exact .bare h

end TimeZone

/-- **Time zones are read by their grammar, as the offsets they spell.** Without the blanks around it
and in capitals, a zone is an optional name, `GMT` or `UTC`, and then nothing, `Z`, or a sign with
hours and minutes, which are two numbers beside a colon, four digits or the hours alone; the hours
are at most 25 and the minutes at most 59. Every other text is refused, and the error shows it
without the blanks around it. -/
theorem Codec.readTimeZone_spelled (zone : String) :
    (∀ offset, readTimeZone zone = .ok offset ↔ ∃ trimmed, TrimmedTo zone trimmed ∧
      TimeZone.Spells offset (trimmed.toList.map Char.toUpper)) ∧
    (∀ e, readTimeZone zone = .error e ↔ ∃ trimmed, TrimmedTo zone trimmed ∧
      e = .unsupportedTimeZone trimmed ∧
        ¬∃ offset, TimeZone.Spells offset (trimmed.toList.map Char.toUpper)) := by
  have hspells (offset : Int) : TimeZone.offset? zone = some offset ↔
      TimeZone.Spells offset ((trim zone).toList.map Char.toUpper) := by
    rw [TimeZone.offset?_eq_some_iff, ← TimeZone.spells_iff, upperCase, String.toList_ofList]
  simp only [← trim_eq_iff, exists_eq_left', ← hspells, readTimeZone]
  cases TimeZone.offset? zone with
  | some n => simp
  | none => simp [eq_comm]

/-- The sign is that of the minutes, too. -/
example : Codec.readTimeZone " utc-00:30" = .ok (-1800) := by rfl

end TableExchange
