import TableExchange.Proofs.Calendar.Matching

/-!
# Dates and times of day as the plain formats write them

* `Digits.spellsNumber_padded`: a number that fits a width is spelled by its padded digits.
* `spells_render_dateItems`, `spells_render_timeItems`, `spells_render_dateTimeItems`: what the
  plain formats write spells the date, the time of day, or both.
-/

namespace TableExchange

/-- A number that fits a width is spelled by its padded digits. -/
theorem Digits.spellsNumber_padded {width n : Nat} (hwidth : 0 < width) (h : n < 10 ^ width) :
    SpellsNumber width n (padded width n) := by
  have hlength := (length_ofNat_le_iff hwidth).2 h
  refine ⟨?_, areDigits_padded width n, ?_⟩
  · rw [padded, fill, List.length_append, List.length_replicate]
    omega
  · rw [padded, fill, toNat_replicate_zero_append, toNat_ofNat]

/-- A date as it is written: by its month and the day of it. -/
def Date.written (d : Date) : WrittenDate := ⟨d.year, d.month, d.day⟩

/-- A time of day as it is written, without its fraction. -/
def TimeOfDay.written (t : TimeOfDay) : WrittenTime := ⟨t.hour, t.minute, t.second⟩

/-- The sign and the digits of a year within the calendar spell it. -/
theorem spellsYear_padded {year : Int} (h : Date.isYear year = true) :
    SpellsYear (Format.signChars (decide (year < 0)) false ++ Digits.padded 4 year.natAbs)
      year := by
  have hbounds : -9999 ≤ year ∧ year ≤ 9999 := of_decide_eq_true h
  have hdigits : SpellsNumber 4 year.natAbs (Digits.padded 4 year.natAbs) :=
    Digits.spellsNumber_padded (by decide) (by omega)
  by_cases hsign : year < 0
  · have hspells := SpellsYear.minus hdigits
    rw [show -(year.natAbs : Int) = year by omega] at hspells
    simpa [Format.signChars, hsign] using hspells
  · have hspells := SpellsYear.plain hdigits
    rw [show (year.natAbs : Int) = year by omega] at hspells
    simpa [Format.signChars, hsign] using hspells

namespace Format

variable {date : Date} {time : TimeOfDay}

theorem renderChars_append (date : Date) (time : TimeOfDay) (offset : Int)
    (xs ys : List FormatItem) :
    renderChars date time offset (xs ++ ys) =
      renderChars date time offset xs ++ renderChars date time offset ys := by
  induction xs with
  | nil => rfl
  | cons item xs ih => rw [List.cons_append, renderChars, renderChars, ih, List.append_assoc]

theorem renderChars_dateItems (date : Date) (time : TimeOfDay) (offset : Int) :
    renderChars date time offset dateItems =
      (signChars (decide (date.year < 0)) false ++ Digits.padded 4 date.year.natAbs) ++
        '-' :: (Digits.padded 2 date.month ++ '-' :: Digits.padded 2 date.day) := by
  simp [dateItems, renderChars, itemChars, partChars, numberChars]

theorem renderChars_timeItems (date : Date) (time : TimeOfDay) (offset : Int) :
    renderChars date time offset timeItems =
      Digits.padded 2 time.hour ++
        ':' :: (Digits.padded 2 time.minute ++ ':' :: Digits.padded 2 time.second) := by
  simp [timeItems, renderChars, itemChars, partChars, numberChars]

theorem spellsDate_renderChars (hyear : Date.isYear date.year = true)
    (hdate : date.written.Exists) (time : TimeOfDay) (offset : Int) :
    SpellsDate (renderChars date time offset dateItems) date.written := by
  obtain ⟨⟨-, hmonth⟩, -, hday⟩ := hdate.inRange
  rw [renderChars_dateItems]
  refine .mk (spellsYear_padded hyear) ?_ ?_
  · exact Digits.spellsNumber_padded (by decide) (by omega)
  · exact Digits.spellsNumber_padded (by decide) (by omega)

theorem spellsTime_renderChars (htime : time.written.Exists) (date : Date) (offset : Int) :
    SpellsTime (renderChars date time offset timeItems) time.written := by
  obtain ⟨hhour, hminute, hsecond⟩ := htime.inRange
  rw [renderChars_timeItems]
  refine .mk ?_ ?_ ?_
  · exact Digits.spellsNumber_padded (by decide) (by omega)
  · exact Digits.spellsNumber_padded (by decide) (by omega)
  · exact Digits.spellsNumber_padded (by decide) (by omega)

/-- The text of a date under the plain date format is the date. -/
theorem spells_render_dateItems (hyear : Date.isYear date.year = true)
    (hdate : date.written.Exists) (time : TimeOfDay) (offset : Int) :
    Spells (dateItems.render date time offset).toList (some date.written) none := by
  rw [render, String.toList_ofList]
  exact .date (spellsDate_renderChars hyear hdate time offset)

/-- The text of a time of day under the plain time format is the time, without its fraction. -/
theorem spells_render_timeItems (htime : time.written.Exists) (date : Date) (offset : Int) :
    Spells (timeItems.render date time offset).toList none (some time.written) := by
  rw [render, String.toList_ofList]
  exact .time (spellsTime_renderChars htime date offset)

theorem spells_render_dateTimeItems (hyear : Date.isYear date.year = true)
    (hdate : date.written.Exists) (htime : time.written.Exists) (offset : Int) :
    Spells (dateTimeItems.render date time offset).toList (some date.written)
      (some time.written) := by
  rw [render, String.toList_ofList, dateTimeItems, renderChars_append, renderChars, itemChars]
  exact .both (spellsDate_renderChars hyear hdate time offset)
    (spellsTime_renderChars htime date offset)

end Format

end TableExchange
