import TableExchange.Calendar.Instant

/-!
# Dates and days counted from the epoch

* `Date.ofEpochDay_toEpochDay`, `Date.toEpochDay_ofEpochDay`: dates and days counted from the epoch
  give each other back.
* `Date.ofMonthDay?_of_exists`: which month and day make a date, and that the date has them.
* `Date.ofMonthDay?_month_day`: a date is made by its own month and day.
* `Instant.local_ofLocal`, `Instant.ofLocal_local`: an instant made from a date and a time of day
  shows them at its offset, and what an instant shows makes it again.
-/

namespace TableExchange

/-! ## Years -/

theorem daysBeforeYear_succ (year : Int) :
    daysBeforeYear (year + 1) = daysBeforeYear year + daysInYear year := by
  unfold daysBeforeYear daysInYear
  by_cases h : isLeapYear year = true
  · rw [if_pos h]
    simp only [isLeapYear, decide_eq_true_eq] at h
    omega
  · rw [if_neg h]
    simp only [isLeapYear, decide_eq_true_eq] at h
    omega

namespace Date

/-- The year that the mean length of a year gives is right, or a neighbour of the right one. -/
theorem yearOfDay_eq {n year : Int} (hlow : daysBeforeYear year ≤ n)
    (hhigh : n < daysBeforeYear (year + 1)) : yearOfDay n = year := by
  have hguess : 400 * n / 146097 = year - 1 ∨ 400 * n / 146097 = year ∨
      400 * n / 146097 = year + 1 := by
    unfold daysBeforeYear at hlow hhigh
    omega
  have hsucc := daysBeforeYear_succ year
  have hpred := daysBeforeYear_succ (year - 1)
  rw [Int.sub_add_cancel] at hpred
  unfold yearOfDay
  rcases hguess with h | h | h <;> rw [h]
  · rw [if_neg (by omega), Int.sub_add_cancel, if_pos hlow]
  · rw [if_neg (by omega), if_neg (by omega)]
  · rw [if_pos hhigh, Int.add_sub_cancel]

theorem ofEpochDay_toEpochDay {d : Date} (hlow : 1 ≤ d.ordinal)
    (hhigh : d.ordinal ≤ daysInYear d.year) : ofEpochDay d.toEpochDay = d := by
  have hsucc := daysBeforeYear_succ d.year
  have hyear : yearOfDay (d.toEpochDay + epochOffset) = d.year := by
    apply yearOfDay_eq
    · unfold toEpochDay
      omega
    · unfold toEpochDay
      omega
  have hday : (d.toEpochDay + epochOffset - daysBeforeYear d.year + 1).toNat = d.ordinal := by
    unfold toEpochDay
    omega
  simp only [ofEpochDay, hyear, hday]

/-- The year that the mean length of a year gives holds the day. -/
theorem yearOfDay_spec (n : Int) :
    daysBeforeYear (yearOfDay n) ≤ n ∧ n < daysBeforeYear (yearOfDay n + 1) := by
  unfold yearOfDay
  generalize hguess : 400 * n / 146097 = guess
  dsimp only
  split
  · next hlow =>
    rw [Int.sub_add_cancel]
    refine ⟨?_, hlow⟩
    unfold daysBeforeYear
    omega
  · next hlow =>
    split
    · next hhigh =>
      refine ⟨hhigh, ?_⟩
      unfold daysBeforeYear
      omega
    · next hhigh => exact ⟨by omega, by omega⟩

/-- A day counted from the epoch is a day of its year. -/
theorem ordinal_ofEpochDay (n : Int) :
    1 ≤ (ofEpochDay n).ordinal ∧ (ofEpochDay n).ordinal ≤ daysInYear (ofEpochDay n).year := by
  obtain ⟨hlow, hhigh⟩ := yearOfDay_spec (n + epochOffset)
  rw [daysBeforeYear_succ] at hhigh
  simp only [ofEpochDay]
  omega

theorem toEpochDay_ofEpochDay (n : Int) : (ofEpochDay n).toEpochDay = n := by
  obtain ⟨hlow, -⟩ := yearOfDay_spec (n + epochOffset)
  simp only [ofEpochDay, toEpochDay]
  omega

/-! ## Months -/

/-- How many days a month has. -/
def monthLength (year : Int) (month : Nat) : Nat :=
  if month = 2 then if isLeapYear year then 29 else 28
  else if month = 4 ∨ month = 6 ∨ month = 9 ∨ month = 11 then 30
  else 31

/-- Whether a year has a month and a day of it. -/
def Exists (year : Int) (month day : Nat) : Prop :=
  1 ≤ month ∧ month ≤ 12 ∧ 1 ≤ day ∧ day ≤ monthLength year month

instance (year : Int) (month day : Nat) : Decidable (Exists year month day) :=
  inferInstanceAs (Decidable (_ ∧ _))

theorem length_monthLengths (leap : Bool) : (monthLengths leap).length = 12 := rfl

theorem monthLengths_getElem (year : Int) {month : Nat} (h : 1 ≤ month) (h' : month ≤ 12) :
    (monthLengths (isLeapYear year))[month - 1]? = some (monthLength year month) := by
  obtain rfl | rfl | rfl | rfl | rfl | rfl | rfl | rfl | rfl | rfl | rfl | rfl :
      month = 1 ∨ month = 2 ∨ month = 3 ∨ month = 4 ∨ month = 5 ∨ month = 6 ∨ month = 7 ∨
        month = 8 ∨ month = 9 ∨ month = 10 ∨ month = 11 ∨ month = 12 := by omega
  all_goals rfl

theorem sum_monthLengths (year : Int) :
    (monthLengths (isLeapYear year)).foldr (· + ·) 0 = daysInYear year := by
  unfold daysInYear
  cases isLeapYear year <;> rfl

/-- Going through the months from the days before one of them and a day of it leads to that month
and that day. -/
theorem walkMonths_take {lengths : List Nat} {i day length : Nat} (start : Nat)
    (hlength : lengths[i]? = some length) (hlow : 1 ≤ day) (hhigh : day ≤ length) :
    walkMonths start ((lengths.take i).foldr (· + ·) 0 + day) lengths = (start + i, day) := by
  induction lengths generalizing start i with
  | nil => simp at hlength
  | cons first rest ih =>
    cases i with
    | zero =>
      obtain rfl : first = length := by simpa using hlength
      simp [walkMonths, hhigh]
    | succ i =>
      have hrest : rest[i]? = some length := by simpa using hlength
      rw [List.take_succ_cons, List.foldr_cons, walkMonths, if_neg (by omega)]
      have hdays : first + (rest.take i).foldr (· + ·) 0 + day - first =
          (rest.take i).foldr (· + ·) 0 + day := by omega
      rw [hdays, ih (start + 1) hrest]
      congr 1
      omega

/-- Going through the months leads to one of them and a day of it, and the days before it and that
day are all the days there were. -/
theorem walkMonths_spec {lengths : List Nat} {day : Nat} (start : Nat) (hlow : 1 ≤ day)
    (hhigh : day ≤ lengths.foldr (· + ·) 0) :
    ∃ i length, lengths[i]? = some length ∧ (walkMonths start day lengths).1 = start + i ∧
      1 ≤ (walkMonths start day lengths).2 ∧ (walkMonths start day lengths).2 ≤ length ∧
      (lengths.take i).foldr (· + ·) 0 + (walkMonths start day lengths).2 = day := by
  induction lengths generalizing start day with
  | nil =>
    simp only [List.foldr_nil] at hhigh
    omega
  | cons first rest ih =>
    rw [walkMonths]
    by_cases hday : day ≤ first
    · rw [if_pos hday]
      exact ⟨0, first, rfl, rfl, hlow, hday, by simp⟩
    · rw [if_neg hday]
      rw [List.foldr_cons] at hhigh
      have hlow' : 1 ≤ day - first := by omega
      have hhigh' : day - first ≤ rest.foldr (· + ·) 0 := by omega
      obtain ⟨i, length, hlength, hmonth, hfirst, hlast, hdays⟩ := ih (start + 1) hlow' hhigh'
      refine ⟨i + 1, length, hlength, by omega, hfirst, hlast, ?_⟩
      rw [List.take_succ_cons, List.foldr_cons]
      omega

theorem foldr_take_add_le {lengths : List Nat} {i length : Nat}
    (hlength : lengths[i]? = some length) :
    (lengths.take i).foldr (· + ·) 0 + length ≤ lengths.foldr (· + ·) 0 := by
  induction lengths generalizing i with
  | nil => simp at hlength
  | cons first rest ih =>
    cases i with
    | zero =>
      obtain rfl : first = length := by simpa using hlength
      simp
    | succ i =>
      have hrest : rest[i]? = some length := by simpa using hlength
      have := ih hrest
      simp only [List.take_succ_cons, List.foldr_cons]
      omega

/-- A month and a day that exist make a date, and the date has them. -/
theorem ofMonthDay?_of_exists {year : Int} {month day : Nat} (hyear : isYear year = true)
    (h : Exists year month day) :
    ∃ d, ofMonthDay? year month day = some d ∧ d.year = year ∧ d.month = month ∧ d.day = day ∧
      1 ≤ d.ordinal ∧ d.ordinal ≤ daysInYear year := by
  obtain ⟨hmonth, hmonth', hday, hday'⟩ := h
  have hlength := monthLengths_getElem year hmonth hmonth'
  have hwalk := walkMonths_take 1 hlength hday hday'
  have hsum := foldr_take_add_le hlength
  rw [sum_monthLengths] at hsum
  rw [Nat.add_sub_cancel' hmonth] at hwalk
  refine ⟨⟨year, ((monthLengths (isLeapYear year)).take (month - 1)).foldr (· + ·) 0 + day⟩, ?_,
    rfl, ?_, ?_, ?_, ?_⟩
  · simp only [ofMonthDay?, hlength, hyear, Bool.true_and, decide_eq_true_eq]
    rw [if_pos ⟨hmonth, hday, hday'⟩]
  · rw [Date.month, monthDay, hwalk]
  · rw [Date.day, monthDay, hwalk]
  · show 1 ≤ _ + day
    omega
  · show _ + day ≤ daysInYear year
    omega

theorem ofMonthDay?_of_not_exists {year : Int} {month day : Nat} (h : ¬Exists year month day) :
    ofMonthDay? year month day = none := by
  unfold ofMonthDay?
  dsimp only
  by_cases hmonth : 1 ≤ month ∧ month ≤ 12
  · rw [monthLengths_getElem year hmonth.1 hmonth.2]
    dsimp only
    rw [if_neg]
    rw [Bool.and_eq_true, decide_eq_true_eq]
    intro h
    obtain ⟨-, -, hday, hday'⟩ := h
    exact h ⟨hmonth.1, hmonth.2, hday, hday'⟩
  · split
    · rename_i length hlength
      have hbound := (List.getElem?_eq_some_iff.1 hlength).1
      rw [length_monthLengths] at hbound
      rw [if_neg]
      rw [Bool.and_eq_true, decide_eq_true_eq]
      intro h
      obtain ⟨-, hmonth', -⟩ := h
      omega
    · rfl

/-- A date has a month and a day that exist, and they make the date. -/
theorem ofMonthDay?_month_day {d : Date} (hyear : isYear d.year = true) (hlow : 1 ≤ d.ordinal)
    (hhigh : d.ordinal ≤ daysInYear d.year) :
    Exists d.year d.month d.day ∧ ofMonthDay? d.year d.month d.day = some d := by
  rw [← sum_monthLengths] at hhigh
  obtain ⟨i, length, hlength, hmonth, hfirst, hlast, hdays⟩ := walkMonths_spec 1 hlow hhigh
  have hi := (List.getElem?_eq_some_iff.1 hlength).1
  rw [length_monthLengths] at hi
  change d.month = 1 + i at hmonth
  change 1 ≤ d.day at hfirst
  change d.day ≤ length at hlast
  change _ + d.day = d.ordinal at hdays
  have hindex : d.month - 1 = i := by omega
  have hfirstMonth : 1 ≤ d.month := by omega
  have hlastMonth : d.month ≤ 12 := by omega
  have hmonthLength := monthLengths_getElem d.year hfirstMonth hlastMonth
  rw [hindex, hlength, Option.some.injEq] at hmonthLength
  refine ⟨⟨hfirstMonth, hlastMonth, hfirst, by omega⟩, ?_⟩
  simp only [ofMonthDay?, hindex, hlength, hyear, Bool.true_and, decide_eq_true_eq]
  rw [if_pos ⟨hfirstMonth, hfirst, hlast⟩, hdays]

end Date

/-! ## Times of day -/

theorem TimeOfDay.toSeconds_lt {t : TimeOfDay} (hhour : t.hour < 24) (hminute : t.minute < 60)
    (hsecond : t.second < 60) : t.toSeconds < secondsPerDay := by
  unfold toSeconds secondsPerDay
  omega

namespace Instant

/-- An instant made from a date and a time of day shows them at its offset. -/
theorem local_ofLocal {date : Date} {hour minute second : Nat} (offset : Int)
    (hyear : Date.isYear date.year = true) (hlow : 1 ≤ date.ordinal)
    (hhigh : date.ordinal ≤ daysInYear date.year) (hhour : hour < 24) (hminute : minute < 60)
    (hsecond : second < 60) :
    (ofLocal date ⟨hour, minute, second, 0⟩ offset).local? offset =
      some (date, ⟨hour, minute, second, 0⟩) := by
  have hlt := TimeOfDay.toSeconds_lt (t := ⟨hour, minute, second, 0⟩) hhour hminute hsecond
  generalize hclock : TimeOfDay.toSeconds ⟨hour, minute, second, 0⟩ = clock at hlt
  have hnanos : (ofLocal date ⟨hour, minute, second, 0⟩ offset).nanos =
      (date.toEpochDay * secondsPerDay + clock - offset) * nanosPerSecond := by
    simp [ofLocal, hclock]
  have hlocal : (ofLocal date ⟨hour, minute, second, 0⟩ offset).localSeconds offset =
      date.toEpochDay * secondsPerDay + clock := by
    rw [localSeconds, seconds, hnanos, Int.mul_ediv_cancel _ (by decide)]
    omega
  have hnanosecond : (ofLocal date ⟨hour, minute, second, 0⟩ offset).nanosecond = 0 := by
    rw [nanosecond, hnanos, Int.mul_emod_left]
    rfl
  have hdate : (ofLocal date ⟨hour, minute, second, 0⟩ offset).localDate offset = date := by
    have hday : (date.toEpochDay * secondsPerDay + clock) / secondsPerDay = date.toEpochDay := by
      unfold secondsPerDay at hlt ⊢
      omega
    rw [localDate, hlocal, hday, Date.ofEpochDay_toEpochDay hlow hhigh]
  have htime : (ofLocal date ⟨hour, minute, second, 0⟩ offset).localTime offset =
      ⟨hour, minute, second, 0⟩ := by
    have hrest : ((date.toEpochDay * secondsPerDay + clock) % secondsPerDay).toNat = clock := by
      unfold secondsPerDay at hlt ⊢
      omega
    simp only [localTime, hlocal, hrest, hnanosecond, TimeOfDay.mk.injEq, and_true]
    unfold TimeOfDay.toSeconds at hclock
    dsimp only at hclock
    omega
  rw [local?, hdate, htime, if_pos hyear]

/-- The same point in time without the fraction of its second: the whole second at or before it. -/
def wholeSecond (t : Instant) : Instant := ⟨t.seconds * nanosPerSecond, t.offset⟩

theorem localTime_exists (t : Instant) (offset : Int) :
    (t.localTime offset).hour < 24 ∧ (t.localTime offset).minute < 60 ∧
      (t.localTime offset).second < 60 := by
  simp only [localTime, secondsPerDay]
  omega

/-- The date and the time of day that an instant shows make it again, up to its fraction, and with
any fraction in its place. -/
theorem ofLocal_local_fraction (t : Instant) (offset : Int) (fraction : Nat) :
    ofLocal (t.localDate offset) { t.localTime offset with nanosecond := fraction } offset =
      ⟨t.seconds * nanosPerSecond + fraction, offset⟩ := by
  have hclock : (TimeOfDay.toSeconds { t.localTime offset with nanosecond := fraction } : Int) =
      t.localSeconds offset % secondsPerDay := by
    simp only [TimeOfDay.toSeconds, localTime, secondsPerDay]
    omega
  have hseconds : t.localSeconds offset / secondsPerDay * secondsPerDay +
      t.localSeconds offset % secondsPerDay - offset = t.seconds := by
    rw [Int.ediv_mul_add_emod, localSeconds, Int.add_sub_cancel]
  simp only [ofLocal, localDate, Date.toEpochDay_ofEpochDay, hclock, hseconds]

theorem ofLocal_local (t : Instant) (offset : Int) :
    ofLocal (t.localDate offset) { t.localTime offset with nanosecond := 0 } offset =
      (t.atOffset offset).wholeSecond := by
  rw [ofLocal_local_fraction, Int.natCast_zero, Int.add_zero]
  rfl

end Instant

end TableExchange
