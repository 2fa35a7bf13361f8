import TableExchange.Calendar.Parsing
import TableExchange.Proofs.Calendar.Written

/-!
# Texts under the plain formats

Which texts match the formats of plain dates and times, and what is read from them.

* `matchItems_dateItems`, `matchItems_timeItems`: a date, a time of day at the front of a text.
* `matchItems_dateTimeItems`: both of them.
-/

namespace TableExchange

namespace Format

/-- Year, month and day, with hyphens between them. -/
def dateItems : Format :=
  [.part (.year .zero false), .literal '-', .part (.month .zero .number), .literal '-',
    .part (.day .zero)]

/-- Hour, minute and second, with colons between them. -/
def timeItems : Format :=
  [.part (.hour .zero false), .literal ':', .part (.minute .zero), .literal ':',
    .part (.second .zero)]

def dateTimeItems : Format := dateItems ++ .literal ' ' :: timeItems

theorem read?_dateItems : read? "[year]-[month]-[day]" = some dateItems := by rfl

theorem read?_timeItems : read? "[hour]:[minute]:[second]" = some timeItems := by rfl

theorem read?_dateTimeItems :
    read? "[year]-[month]-[day] [hour]:[minute]:[second]" = some dateTimeItems := by rfl

variable {f f' : Fields} {cs rest : List Char}

/-! ## Components -/

theorem takeExactly_eq_some {width n : Nat} :
    takeExactly width cs = some (n, rest) ↔ ∃ ds, SpellsNumber width n ds ∧ cs = ds ++ rest := by
  unfold takeExactly
  constructor
  · intro h
    split at h
    · next hdigits =>
      cases h
      exact ⟨cs.take width, ⟨hdigits.1, hdigits.2, rfl⟩, (List.take_append_drop width cs).symm⟩
    · cases h
  · intro h
    obtain ⟨ds, ⟨rfl, hdigits, rfl⟩, rfl⟩ := h
    rw [List.take_left, List.drop_left, if_pos ⟨rfl, hdigits⟩]

theorem takeWithin_eq_some {width low high n : Nat} :
    takeWithin .zero width low high cs = some (n, rest) ↔
      (∃ ds, SpellsNumber width n ds ∧ cs = ds ++ rest) ∧ low ≤ n ∧ n ≤ high := by
  rw [← takeExactly_eq_some]
  unfold takeWithin takeNumber
  dsimp only
  cases h : takeExactly width cs with
  | none => simp
  | some found =>
    obtain ⟨m, left⟩ := found
    by_cases hbounds : low ≤ m ∧ m ≤ high
    · simp only [Option.bind_eq_bind, Option.bind_some, hbounds, and_self, if_true,
        Option.some.injEq, Prod.mk.injEq]
      constructor
      · intro h
        obtain ⟨rfl, rfl⟩ := h
        exact ⟨⟨rfl, rfl⟩, hbounds⟩
      · exact fun h => h.1
    · simp only [Option.bind_eq_bind, Option.bind_some, hbounds, if_false, Option.some.injEq,
        Prod.mk.injEq, reduceCtorEq, false_iff]
      intro h
      obtain ⟨⟨rfl, rfl⟩, h⟩ := h
      exact hbounds h

/-- A number that was taken is put into the fields. -/
def stored (store : Nat → Fields) (taken : Option (Nat × List Char)) :
    Option (Fields × List Char) := do
  let (n, rest) ← taken
  return (store n, rest)

theorem stored_eq_some {store : Nat → Fields} {taken : Option (Nat × List Char)} :
    stored store taken = some (f', rest) ↔ ∃ n, taken = some (n, rest) ∧ f' = store n := by
  unfold stored
  constructor
  · intro h
    obtain ⟨⟨n, left⟩, hn, h⟩ := Option.bind_eq_some_iff.1 h
    cases h
    exact ⟨n, hn, rfl⟩
  · intro h
    obtain ⟨n, rfl, rfl⟩ := h
    rfl

theorem matchPart_year_eq (f : Fields) (cs : List Char) :
    matchPart f cs (.year .zero false) =
      stored (fun n => { f with year := some (if (takeSign cs).1 = some true then -(n : Int) else n) })
        (takeExactly 4 (takeSign cs).2) := by
  rfl

theorem takeSign_digits {n : Nat} {ds : List Char} (hds : SpellsNumber 4 n ds)
    (rest : List Char) : takeSign (ds ++ rest) = (none, ds ++ rest) := by
  cases ds with
  | nil => cases hds.1
  | cons c ds =>
    have hplus : c ≠ '+' := by
      rintro rfl
      exact SpellsNumber.not_sign rfl hds
    have hminus : c ≠ '-' := by
      rintro rfl
      exact SpellsNumber.not_sign rfl hds
    rw [List.cons_append]
    unfold takeSign
    split
    · next h => exact absurd (List.cons.inj h).1 hplus
    · next h => exact absurd (List.cons.inj h).1 hminus
    · rfl

theorem matchPart_year :
    matchPart f cs (.year .zero false) = some (f', rest) ↔
      ∃ y year, SpellsYear y year ∧ cs = y ++ rest ∧ f' = { f with year := some year } := by
  rw [matchPart_year_eq, stored_eq_some]
  constructor
  · intro h
    obtain ⟨n, hn, rfl⟩ := h
    obtain ⟨ds, hds, hrest⟩ := takeExactly_eq_some.1 hn
    unfold takeSign at hrest ⊢
    split at hrest
    · exact ⟨'+' :: ds, n, .plus hds, congrArg _ hrest, rfl⟩
    · exact ⟨'-' :: ds, -n, .minus hds, congrArg _ hrest, rfl⟩
    · exact ⟨ds, n, .plain hds, hrest, rfl⟩
  · intro h
    obtain ⟨y, year, hy, rfl, rfl⟩ := h
    cases hy with
    | @plain _ n hds =>
      rw [takeSign_digits hds]
      exact ⟨n, takeExactly_eq_some.2 ⟨y, hds, rfl⟩, rfl⟩
    | @plus ds n hds => exact ⟨n, takeExactly_eq_some.2 ⟨ds, hds, rfl⟩, rfl⟩
    | @minus ds n hds => exact ⟨n, takeExactly_eq_some.2 ⟨ds, hds, rfl⟩, rfl⟩

/-! ## Sequences -/

theorem matchItems_nil : matchItems f cs [] = some (f', rest) ↔ f' = f ∧ cs = rest := by
  rw [matchItems]
  simp [eq_comm]

theorem matchItems_part {p : FormatPart} {items : List FormatItem} :
    matchItems f cs (.part p :: items) = some (f', rest) ↔
      ∃ g left, matchPart f cs p = some (g, left) ∧ matchItems g left items = some (f', rest) := by
  rw [matchItems, matchItem]
  cases h : matchPart f cs p with
  | none => simp
  | some found =>
    obtain ⟨g, left⟩ := found
    constructor
    · intro h
      exact ⟨g, left, rfl, h⟩
    · intro h
      obtain ⟨_, _, hfound, h⟩ := h
      cases hfound
      exact h

theorem matchItems_literal {c : Char} {items : List FormatItem} :
    matchItems f cs (.literal c :: items) = some (f', rest) ↔
      ∃ left, cs = c :: left ∧ matchItems f left items = some (f', rest) := by
  rw [matchItems, matchItem]
  cases cs with
  | nil => simp
  | cons d cs =>
    by_cases h : d = c
    · subst h
      simp
    · simp [h]

theorem matchItems_year {items : List FormatItem} :
    matchItems f cs (.part (.year .zero false) :: items) = some (f', rest) ↔
      ∃ y year left, SpellsYear y year ∧ cs = y ++ left ∧
        matchItems { f with year := some year } left items = some (f', rest) := by
  rw [matchItems_part]
  constructor
  · intro h
    obtain ⟨g, left, hpart, h⟩ := h
    obtain ⟨y, year, hy, rfl, rfl⟩ := matchPart_year.1 hpart
    exact ⟨y, year, left, hy, rfl, h⟩
  · intro h
    obtain ⟨y, year, left, hy, rfl, h⟩ := h
    exact ⟨_, left, matchPart_year.2 ⟨y, year, hy, rfl, rfl⟩, h⟩

theorem matchItems_number {p : FormatPart} {store : Fields → Nat → Fields} {low high : Nat}
    (hp : ∀ f cs, matchPart f cs p = stored (store f) (takeWithin .zero 2 low high cs))
    {items : List FormatItem} :
    matchItems f cs (.part p :: items) = some (f', rest) ↔
      ∃ ds n left, SpellsNumber 2 n ds ∧ (low ≤ n ∧ n ≤ high) ∧ cs = ds ++ left ∧
        matchItems (store f n) left items = some (f', rest) := by
  rw [matchItems_part, hp]
  constructor
  · intro h
    obtain ⟨g, left, hpart, h⟩ := h
    obtain ⟨n, hn, rfl⟩ := stored_eq_some.1 hpart
    obtain ⟨⟨ds, hds, rfl⟩, hbounds⟩ := takeWithin_eq_some.1 hn
    exact ⟨ds, n, left, hds, hbounds, rfl, h⟩
  · intro h
    obtain ⟨ds, n, left, hds, hbounds, rfl, h⟩ := h
    exact ⟨_, left, stored_eq_some.2 ⟨n, takeWithin_eq_some.2 ⟨⟨ds, hds, rfl⟩, hbounds⟩, rfl⟩, h⟩

theorem matchItems_append (xs ys : List FormatItem) (f : Fields) (cs : List Char) :
    matchItems f cs (xs ++ ys) = (matchItems f cs xs).bind fun (g, left) => matchItems g left ys := by
  induction xs generalizing f cs with
  | nil => rfl
  | cons item xs ih =>
    rw [List.cons_append, matchItems, matchItems]
    cases h : matchItem f cs item with
    | none => rfl
    | some found => exact ih found.1 found.2

/-! ## Dates and times -/

def withDate (f : Fields) (d : WrittenDate) : Fields :=
  { f with year := some d.year, month := some d.month, day := some d.day }

def withTime (f : Fields) (t : WrittenTime) : Fields :=
  { f with hour := some t.hour, minute := some t.minute, second := some t.second }

theorem matchItems_dateItems :
    matchItems f cs dateItems = some (f', rest) ↔
      ∃ ds d, SpellsDate ds d ∧ d.InRange ∧ cs = ds ++ rest ∧ f' = withDate f d := by
  have hmonth : ∀ f cs, matchPart f cs (.month .zero .number) =
      stored (fun n => { f with month := some n }) (takeWithin .zero 2 1 12 cs) := fun _ _ => rfl
  have hday : ∀ f cs, matchPart f cs (.day .zero) =
      stored (fun n => { f with day := some n }) (takeWithin .zero 2 1 31 cs) := fun _ _ => rfl
  rw [dateItems, matchItems_year]
  constructor
  · intro h
    obtain ⟨y, year, left, hy, rfl, h₁⟩ := h
    obtain ⟨left, rfl, h₂⟩ := matchItems_literal.1 h₁
    obtain ⟨m, month, left, hm, hmonths, rfl, h₃⟩ := (matchItems_number hmonth).1 h₂
    obtain ⟨left, rfl, h₄⟩ := matchItems_literal.1 h₃
    obtain ⟨dd, day, left, hd, hdays, rfl, h₅⟩ := (matchItems_number hday).1 h₄
    obtain ⟨rfl, rfl⟩ := matchItems_nil.1 h₅
    exact ⟨_, ⟨year, month, day⟩, .mk hy hm hd, ⟨hmonths, hdays⟩, by simp, rfl⟩
  · intro h
    obtain ⟨_, d, hd, hrange, rfl, rfl⟩ := h
    cases hd with
    | @mk y m dd _ hy hm hd =>
      refine ⟨y, d.year, '-' :: (m ++ '-' :: (dd ++ rest)), hy, by simp, ?_⟩
      refine matchItems_literal.2 ⟨_, rfl, ?_⟩
      refine (matchItems_number hmonth).2 ⟨m, d.month, '-' :: (dd ++ rest), hm, hrange.1, by simp, ?_⟩
      refine matchItems_literal.2 ⟨_, rfl, ?_⟩
      refine (matchItems_number hday).2 ⟨dd, d.day, rest, hd, hrange.2, rfl, ?_⟩
      exact matchItems_nil.2 ⟨rfl, rfl⟩

theorem matchItems_timeItems :
    matchItems f cs timeItems = some (f', rest) ↔
      ∃ ts t, SpellsTime ts t ∧ t.InRange ∧ cs = ts ++ rest ∧ f' = withTime f t := by
  have hhour : ∀ f cs, matchPart f cs (.hour .zero false) =
      stored (fun n => { f with hour := some n }) (takeWithin .zero 2 0 23 cs) := fun _ _ => rfl
  have hminute : ∀ f cs, matchPart f cs (.minute .zero) =
      stored (fun n => { f with minute := some n }) (takeWithin .zero 2 0 59 cs) := fun _ _ => rfl
  have hsecond : ∀ f cs, matchPart f cs (.second .zero) =
      stored (fun n => { f with second := some n }) (takeWithin .zero 2 0 60 cs) := fun _ _ => rfl
  rw [timeItems, matchItems_number hhour]
  constructor
  · intro h
    obtain ⟨h, hour, left, hh, hhours, rfl, h₁⟩ := h
    obtain ⟨left, rfl, h₂⟩ := matchItems_literal.1 h₁
    obtain ⟨m, minute, left, hm, hminutes, rfl, h₃⟩ := (matchItems_number hminute).1 h₂
    obtain ⟨left, rfl, h₄⟩ := matchItems_literal.1 h₃
    obtain ⟨s, second, left, hs, hseconds, rfl, h₅⟩ := (matchItems_number hsecond).1 h₄
    obtain ⟨rfl, rfl⟩ := matchItems_nil.1 h₅
    exact ⟨_, ⟨hour, minute, second⟩, .mk hh hm hs, ⟨hhours.2, hminutes.2, hseconds.2⟩, by simp, rfl⟩
  · intro h
    obtain ⟨_, t, ht, ⟨hhours, hminutes, hseconds⟩, rfl, rfl⟩ := h
    cases ht with
    | @mk h m s _ hh hm hs =>
      refine ⟨h, t.hour, ':' :: (m ++ ':' :: (s ++ rest)), hh, ⟨Nat.zero_le _, hhours⟩, by simp, ?_⟩
      refine matchItems_literal.2 ⟨_, rfl, ?_⟩
      refine (matchItems_number hminute).2
        ⟨m, t.minute, ':' :: (s ++ rest), hm, ⟨Nat.zero_le _, hminutes⟩, by simp, ?_⟩
      refine matchItems_literal.2 ⟨_, rfl, ?_⟩
      refine (matchItems_number hsecond).2
        ⟨s, t.second, rest, hs, ⟨Nat.zero_le _, hseconds⟩, rfl, ?_⟩
      exact matchItems_nil.2 ⟨rfl, rfl⟩

theorem matchItems_dateTimeItems :
    matchItems f cs dateTimeItems = some (f', rest) ↔
      ∃ ds ts d t, (SpellsDate ds d ∧ d.InRange) ∧ (SpellsTime ts t ∧ t.InRange) ∧
        cs = ds ++ ' ' :: (ts ++ rest) ∧ f' = withTime (withDate f d) t := by
  rw [dateTimeItems, matchItems_append, Option.bind_eq_some_iff]
  constructor
  · intro h
    obtain ⟨⟨g, left⟩, hdate, h⟩ := h
    obtain ⟨ds, d, hd, hdrange, rfl, rfl⟩ := matchItems_dateItems.1 hdate
    obtain ⟨left, rfl, h⟩ := matchItems_literal.1 h
    obtain ⟨ts, t, ht, htrange, rfl, rfl⟩ := matchItems_timeItems.1 h
    exact ⟨ds, ts, d, t, ⟨hd, hdrange⟩, ⟨ht, htrange⟩, rfl, rfl⟩
  · intro h
    obtain ⟨ds, ts, d, t, ⟨hd, hdrange⟩, ⟨ht, htrange⟩, rfl, rfl⟩ := h
    refine ⟨(withDate f d, ' ' :: (ts ++ rest)), ?_, ?_⟩
    · exact matchItems_dateItems.2 ⟨ds, d, hd, hdrange, rfl, rfl⟩
    · refine matchItems_literal.2 ⟨_, rfl, ?_⟩
      exact matchItems_timeItems.2 ⟨ts, t, ht, htrange, rfl, rfl⟩

end Format

end TableExchange
