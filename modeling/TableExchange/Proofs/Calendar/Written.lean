import TableExchange.Proofs.Calendar.Date
import TableExchange.Proofs.Text.Digits

/-!
# Dates and times as they are written

What a text of the forms `2024-01-31 23:59:59`, `2024-01-31` and `23:59:59` says, whether or not
there is such a date and such a time. A year has four digits and may have a sign.

* `Spells`: a text has a date, a time of day or both.
* `Spells.unique`: it has no others.
-/

namespace TableExchange

structure WrittenDate where
  year : Int
  month : Nat
  day : Nat
  deriving DecidableEq, Repr

structure WrittenTime where
  hour : Nat
  minute : Nat
  second : Nat
  deriving DecidableEq, Repr

namespace WrittenDate

/-- 1 January 1970. -/
def epoch : WrittenDate := ⟨1970, 1, 1⟩

/-- There is such a date. -/
def Exists (d : WrittenDate) : Prop := Date.Exists d.year d.month d.day

/-- Each part is in its range, as in 30 February. -/
def InRange (d : WrittenDate) : Prop := (1 ≤ d.month ∧ d.month ≤ 12) ∧ 1 ≤ d.day ∧ d.day ≤ 31

instance (d : WrittenDate) : Decidable d.Exists := inferInstanceAs (Decidable (Date.Exists _ _ _))

instance (d : WrittenDate) : Decidable d.InRange := inferInstanceAs (Decidable (_ ∧ _))

theorem Exists.inRange {d : WrittenDate} (h : d.Exists) : d.InRange := by
  obtain ⟨hmonth, hmonth', hday, hday'⟩ := h
  have hlength : Date.monthLength d.year d.month ≤ 31 := by
    unfold Date.monthLength
    split
    · split <;> omega
    · split <;> omega
  exact ⟨⟨hmonth, hmonth'⟩, hday, by omega⟩

end WrittenDate

namespace WrittenTime

def midnight : WrittenTime := ⟨0, 0, 0⟩

/-- There is such a time of day. -/
def Exists (t : WrittenTime) : Prop := t.hour < 24 ∧ t.minute < 60 ∧ t.second < 60

/-- Each part is in its range, where the second may be a leap second. -/
def InRange (t : WrittenTime) : Prop := t.hour ≤ 23 ∧ t.minute ≤ 59 ∧ t.second ≤ 60

instance (t : WrittenTime) : Decidable t.Exists := inferInstanceAs (Decidable (_ ∧ _))

instance (t : WrittenTime) : Decidable t.InRange := inferInstanceAs (Decidable (_ ∧ _))

theorem Exists.inRange {t : WrittenTime} (h : t.Exists) : t.InRange := by
  obtain ⟨hhour, hminute, hsecond⟩ := h
  exact ⟨by omega, by omega, by omega⟩

end WrittenTime

/-! ## Numbers -/

/-- A text has just `width` digits, and they denote `n`. -/
def SpellsNumber (width n : Nat) (cs : List Char) : Prop :=
  cs.length = width ∧ Digits.areDigits cs = true ∧ Digits.toNat cs = n

/-- A text has a year: four digits and, if any, a sign before them. -/
inductive SpellsYear : List Char → Int → Prop
  | plain {cs : List Char} {n : Nat} (h : SpellsNumber 4 n cs) : SpellsYear cs n
  | plus {cs : List Char} {n : Nat} (h : SpellsNumber 4 n cs) : SpellsYear ('+' :: cs) n
  | minus {cs : List Char} {n : Nat} (h : SpellsNumber 4 n cs) : SpellsYear ('-' :: cs) (-n)

theorem SpellsNumber.unique {width m n : Nat} {cs : List Char} (h : SpellsNumber width m cs)
    (h' : SpellsNumber width n cs) : m = n :=
  h.2.2.symm.trans h'.2.2

theorem SpellsNumber.not_sign {width n : Nat} {c : Char} {cs : List Char} (hc : c.isDigit = false) :
    ¬SpellsNumber width n (c :: cs) := by
  intro h
  obtain ⟨-, hdigits, -⟩ := h
  simp [Digits.areDigits, hc] at hdigits

theorem SpellsYear.unique {cs : List Char} {m n : Int} (h : SpellsYear cs m)
    (h' : SpellsYear cs n) : m = n := by
  cases h with
  | plain h =>
    cases h' with
    | plain h' => rw [h.unique h']
    | plus h' => exact absurd h (SpellsNumber.not_sign rfl)
    | minus h' => exact absurd h (SpellsNumber.not_sign rfl)
  | plus h =>
    cases h' with
    | plain h' => exact absurd h' (SpellsNumber.not_sign rfl)
    | plus h' => rw [h.unique h']
  | minus h =>
    cases h' with
    | plain h' => exact absurd h' (SpellsNumber.not_sign rfl)
    | minus h' => rw [h.unique h']

theorem SpellsYear.length {cs : List Char} {n : Int} (h : SpellsYear cs n) :
    cs.length = 4 ∨ cs.length = 5 := by
  cases h with
  | plain h => exact .inl h.1
  | plus h => exact .inr (congrArg (· + 1) h.1)
  | minus h => exact .inr (congrArg (· + 1) h.1)

theorem SpellsYear.isYear {cs : List Char} {n : Int} (h : SpellsYear cs n) :
    Date.isYear n = true := by
  have hnumber : ∀ {cs : List Char} {n : Nat}, SpellsNumber 4 n cs → n ≤ 9999 := by
    rintro cs n ⟨hlength, hdigits, rfl⟩
    have hlt := Digits.toNat_lt hdigits
    rw [hlength] at hlt
    omega
  unfold Date.isYear Date.minYear Date.maxYear
  rw [decide_eq_true_eq]
  cases h with
  | plain h =>
    have := hnumber h
    omega
  | plus h =>
    have := hnumber h
    omega
  | minus h =>
    have := hnumber h
    omega

/-! ## Dates and times -/

/-- A text has a date: year, month and day with hyphens between them. -/
inductive SpellsDate : List Char → WrittenDate → Prop
  | mk {y m d : List Char} {date : WrittenDate} (hy : SpellsYear y date.year)
      (hm : SpellsNumber 2 date.month m) (hd : SpellsNumber 2 date.day d) :
      SpellsDate (y ++ '-' :: (m ++ '-' :: d)) date

/-- A text has a time of day: hour, minute and second with colons between them. -/
inductive SpellsTime : List Char → WrittenTime → Prop
  | mk {h m s : List Char} {time : WrittenTime} (hh : SpellsNumber 2 time.hour h)
      (hm : SpellsNumber 2 time.minute m) (hs : SpellsNumber 2 time.second s) :
      SpellsTime (h ++ ':' :: (m ++ ':' :: s)) time

/-- A text has a date, a time of day, or a date and a time with a blank between them. -/
inductive Spells : List Char → Option WrittenDate → Option WrittenTime → Prop
  | both {ds ts : List Char} {d : WrittenDate} {t : WrittenTime} (hd : SpellsDate ds d)
      (ht : SpellsTime ts t) : Spells (ds ++ ' ' :: ts) (some d) (some t)
  | date {ds : List Char} {d : WrittenDate} (hd : SpellsDate ds d) : Spells ds (some d) none
  | time {ts : List Char} {t : WrittenTime} (ht : SpellsTime ts t) : Spells ts none (some t)

theorem spells_date {cs : List Char} {d : WrittenDate} :
    Spells cs (some d) none ↔ SpellsDate cs d := by
  constructor
  · intro h
    cases h with
    | date hd => exact hd
  · exact .date

theorem spells_time {cs : List Char} {t : WrittenTime} :
    Spells cs none (some t) ↔ SpellsTime cs t := by
  constructor
  · intro h
    cases h with
    | time ht => exact ht
  · exact .time

theorem spells_both {cs : List Char} {d : WrittenDate} {t : WrittenTime} :
    Spells cs (some d) (some t) ↔
      ∃ ds ts, SpellsDate ds d ∧ SpellsTime ts t ∧ cs = ds ++ ' ' :: ts := by
  constructor
  · intro h
    obtain ⟨hd, ht⟩ := h
    exact ⟨_, _, hd, ht, rfl⟩
  · intro h
    obtain ⟨ds, ts, hd, ht, rfl⟩ := h
    exact .both hd ht

theorem not_spells_nothing {cs : List Char} : ¬Spells cs none none := by
  intro h
  cases h

theorem Spells.isYear {cs : List Char} {d : WrittenDate} {t : Option WrittenTime}
    (h : Spells cs (some d) t) : Date.isYear d.year = true := by
  have hdate : ∀ {ds : List Char}, SpellsDate ds d → Date.isYear d.year = true := by
    intro ds hd
    cases hd with
    | mk hy hm hd => exact hy.isYear
  cases t with
  | none => exact hdate (spells_date.1 h)
  | some t =>
    obtain ⟨ds, ts, hd, -, -⟩ := spells_both.1 h
    exact hdate hd

theorem SpellsDate.length {cs : List Char} {d : WrittenDate} (h : SpellsDate cs d) :
    cs.length = 10 ∨ cs.length = 11 := by
  cases h with
  | mk hy hm hd =>
    have hyear := hy.length
    simp only [List.length_append, List.length_cons, hm.1, hd.1]
    omega

theorem SpellsTime.length {cs : List Char} {t : WrittenTime} (h : SpellsTime cs t) :
    cs.length = 8 := by
  cases h with
  | mk hh hm hs => simp only [List.length_append, List.length_cons, hh.1, hm.1, hs.1]

theorem SpellsDate.unique {cs : List Char} {d d' : WrittenDate} (h : SpellsDate cs d)
    (h' : SpellsDate cs d') : d = d' := by
  generalize hcs : cs = cs' at h'
  cases h with
  | @mk y m dd _ hy hm hd =>
    cases h' with
    | @mk y' m' dd' _ hy' hm' hd' =>
      have hlength : y.length = y'.length := by
        have := congrArg List.length hcs
        simp only [List.length_append, List.length_cons, hm.1, hd.1, hm'.1, hd'.1] at this
        omega
      obtain ⟨rfl, hrest⟩ := List.append_inj hcs hlength
      obtain ⟨rfl, hlast⟩ := List.append_inj (List.cons.inj hrest).2 (hm.1.trans hm'.1.symm)
      obtain rfl := (List.cons.inj hlast).2
      cases d
      cases d'
      simp only [WrittenDate.mk.injEq]
      exact ⟨hy.unique hy', hm.unique hm', hd.unique hd'⟩

theorem SpellsTime.unique {cs : List Char} {t t' : WrittenTime} (h : SpellsTime cs t)
    (h' : SpellsTime cs t') : t = t' := by
  generalize hcs : cs = cs' at h'
  cases h with
  | @mk hour minute second _ hh hm hs =>
    cases h' with
    | @mk hour' minute' second' _ hh' hm' hs' =>
      obtain ⟨rfl, hrest⟩ := List.append_inj hcs (hh.1.trans hh'.1.symm)
      obtain ⟨rfl, hlast⟩ := List.append_inj (List.cons.inj hrest).2 (hm.1.trans hm'.1.symm)
      obtain rfl := (List.cons.inj hlast).2
      cases t
      cases t'
      simp only [WrittenTime.mk.injEq]
      exact ⟨hh.unique hh', hm.unique hm', hs.unique hs'⟩

/-- The three forms differ in length. -/
theorem Spells.form {cs : List Char} {d : Option WrittenDate} {t : Option WrittenTime}
    (h : Spells cs d t) :
    (d = none ↔ cs.length = 8) ∧ (t = none ↔ cs.length = 10 ∨ cs.length = 11) := by
  cases h with
  | both hd ht =>
    have hdate := hd.length
    have htime := ht.length
    simp only [List.length_append, List.length_cons, reduceCtorEq, false_iff]
    omega
  | date hd =>
    have hdate := hd.length
    simp only [reduceCtorEq, false_iff, true_iff]
    omega
  | time ht => simp [ht.length]

/-- A text has no other date and no other time of day. -/
theorem Spells.unique {cs : List Char} {d d' : Option WrittenDate} {t t' : Option WrittenTime}
    (h : Spells cs d t) (h' : Spells cs d' t') : d = d' ∧ t = t' := by
  have hdate : d = none ↔ d' = none := h.form.1.trans h'.form.1.symm
  have htime : t = none ↔ t' = none := h.form.2.trans h'.form.2.symm
  cases h with
  | @both ds ts d t hd ht =>
    obtain ⟨d', rfl⟩ := Option.ne_none_iff_exists'.1 fun hnone => absurd (hdate.2 hnone) (by simp)
    obtain ⟨t', rfl⟩ := Option.ne_none_iff_exists'.1 fun hnone => absurd (htime.2 hnone) (by simp)
    obtain ⟨ds', ts', hd', ht', hcs⟩ := spells_both.1 h'
    have hlength : ts.length = ts'.length := ht.length.trans ht'.length.symm
    obtain ⟨rfl, hrest⟩ := List.append_inj' hcs (by simp [hlength])
    obtain rfl := (List.cons.inj hrest).2
    rw [hd.unique hd', ht.unique ht']
    exact ⟨rfl, rfl⟩
  | date hd =>
    obtain ⟨d', rfl⟩ := Option.ne_none_iff_exists'.1 fun hnone => absurd (hdate.2 hnone) (by simp)
    obtain rfl := htime.1 rfl
    rw [hd.unique (spells_date.1 h')]
    exact ⟨rfl, rfl⟩
  | time ht =>
    obtain ⟨t', rfl⟩ := Option.ne_none_iff_exists'.1 fun hnone => absurd (htime.2 hnone) (by simp)
    obtain rfl := hdate.1 rfl
    rw [ht.unique (spells_time.1 h')]
    exact ⟨rfl, rfl⟩

end TableExchange
