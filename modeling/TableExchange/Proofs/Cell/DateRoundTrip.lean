import TableExchange.Proofs.Calendar.Rendering
import TableExchange.Proofs.Cell.DateText

/-!
# Instants written and read back

What a codec with the plain formats reads from the text that it has written for an instant.

* `Codec.render_eq_ok`: an instant has a text just where its local year is one of the calendar.
* `Codec.parseInstant_formatDate`: the text of an instant gives back what it shows of it.
-/

namespace TableExchange

namespace Instant

/-- What an instant shows at an offset exists, if its local year is one of the calendar. -/
theorem local_exists {t : Instant} {offset : Int}
    (hyear : Date.isYear (t.localDate offset).year = true) :
    (t.localDate offset).written.Exists ∧
      (t.localDate offset).written.date? = some (t.localDate offset) ∧
      (t.localTime offset).written.Exists := by
  obtain ⟨hlow, hhigh⟩ := Date.ordinal_ofEpochDay (t.localSeconds offset / secondsPerDay)
  obtain ⟨hexists, hdate⟩ := Date.ofMonthDay?_month_day hyear hlow hhigh
  exact ⟨hexists, hdate, t.localTime_exists offset⟩

end Instant

namespace Codec

variable {zone encoding : String} {codec : Codec} {t : Instant} {text : String}

theorem render_eq_ok {format : Format} :
    codec.render t format = .ok text ↔ Date.isYear (t.localDate codec.offset).year = true ∧
      text = format.render (t.localDate codec.offset) (t.localTime codec.offset) codec.offset := by
  unfold render Instant.local?
  by_cases hyear : Date.isYear (t.localDate codec.offset).year = true
  · rw [if_pos hyear]
    simp [hyear, eq_comm]
  · rw [if_neg hyear]
    simp [hyear]

/-- A time of day is written without a fraction if no digits of one are asked for. -/
theorem formatDate_time {precision : Option Nat} (hprecision : precision.getD 0 = 0) :
    codec.formatDate t .time precision = codec.render t codec.timeFormat := by
  cases precision with
  | none => exact bind_pure _
  | some digits =>
    obtain rfl : digits = 0 := hprecision
    exact bind_pure _

/-- A text is read as the date and the time of day that it spells, if they exist. -/
theorem parseInstant_of_spells
    (hcodec : ofSettings { timeZone := zone, encoding := encoding } = .ok codec)
    {d : Option WrittenDate} {w : Option WrittenTime} (hspells : Spells text.toList d w)
    (hd : ∀ x ∈ d, x.Exists) (hw : ∀ x ∈ w, x.Exists)
    (hsome : d.bind WrittenDate.date? ≠ none ∨ w.bind WrittenTime.time? ≠ none) :
    codec.parseInstant text = .ok (Instant.ofLocal ((d.bind WrittenDate.date?).getD Date.epoch)
      ((w.bind WrittenTime.time?).getD TimeOfDay.midnight) codec.offset) :=
  (parseInstant_eq_ok hcodec).2 ⟨d, w, hspells, fun x hx => (hd x hx).inRange,
    fun x hx => (hw x hx).inRange, instantOf?_eq_some codec.offset hsome⟩

/-- **The text of an instant gives back what it shows.** With the plain formats, in each time zone:
the text of an instant as date and time is read as the instant without the fraction of its second,
its text as a date as midnight of its local date, and its text as a time of day without a fraction
as its local time, in whole seconds, of 1 January 1970. -/
theorem parseInstant_formatDate
    (hcodec : ofSettings { timeZone := zone, encoding := encoding } = .ok codec) (t : Instant)
    (precision : Option Nat) (text : String) :
    (codec.formatDate t .dateTime precision = .ok text →
      codec.parseInstant text = .ok (t.atOffset codec.offset).wholeSecond) ∧
    (codec.formatDate t .date precision = .ok text →
      codec.parseInstant text =
        .ok (Instant.ofLocal (t.localDate codec.offset) TimeOfDay.midnight codec.offset)) ∧
    (precision = none ∨ precision = some 0 → codec.formatDate t .time precision = .ok text →
      codec.parseInstant text = .ok (Instant.ofLocal Date.epoch
        { t.localTime codec.offset with nanosecond := 0 } codec.offset)) := by
  have hformats := formats_ofSettings hcodec
  rw [formats, List.cons.injEq, List.cons.injEq, List.cons.injEq] at hformats
  obtain ⟨hdateTime, hdate, htime, -⟩ := hformats
  refine ⟨?_, ?_, ?_⟩
  · intro h
    rw [formatDate, hdateTime] at h
    obtain ⟨hyear, rfl⟩ := render_eq_ok.1 h
    obtain ⟨hdexists, hdate?, htexists⟩ := Instant.local_exists hyear
    have htime? := WrittenTime.time?_of_exists htexists
    have hread := parseInstant_of_spells hcodec
      (Format.spells_render_dateTimeItems hyear hdexists htexists codec.offset)
      (by simpa using hdexists) (by simpa using htexists) (.inr (by simp [htime?]))
    rw [hread, Option.bind_some, Option.bind_some, hdate?, htime?, ← Instant.ofLocal_local]
    rfl
  · intro h
    rw [formatDate, hdate] at h
    obtain ⟨hyear, rfl⟩ := render_eq_ok.1 h
    obtain ⟨hdexists, hdate?, -⟩ := Instant.local_exists hyear
    have hread := parseInstant_of_spells hcodec
      (Format.spells_render_dateItems hyear hdexists (t.localTime codec.offset) codec.offset)
      (by simpa using hdexists) (by simp) (.inl (by simp [hdate?]))
    rw [hread, Option.bind_some, hdate?]
    rfl
  · intro hprecision h
    have hdigits : precision.getD 0 = 0 := by
      rcases hprecision with rfl | rfl <;> rfl
    rw [formatDate_time hdigits, htime] at h
    obtain ⟨hyear, rfl⟩ := render_eq_ok.1 h
    obtain ⟨-, -, htexists⟩ := Instant.local_exists hyear
    have htime? := WrittenTime.time?_of_exists htexists
    have hread := parseInstant_of_spells hcodec
      (Format.spells_render_timeItems htexists (t.localDate codec.offset) codec.offset)
      (by simp) (by simpa using htexists) (.inr (by simp [htime?]))
    rw [hread, Option.bind_some, htime?]
    rfl

/-- Three quarters of a second past a whole one in the year -1: the fraction is dropped, not rounded
toward the epoch. -/
theorem parseInstant_formatDate_yearMinusOne :
    ∃ codec t, ofSettings { timeZone := "GMT-3:30" } = .ok codec ∧
      t.nanos = -62167219200250000000 ∧
      codec.formatDate t .dateTime none = .ok "-0001-12-31 20:29:59" ∧
      codec.parseInstant "-0001-12-31 20:29:59" = .ok ⟨-62167219201000000000, -12600⟩ ∧
      codec.formatDate t .date none = .ok "-0001-12-31" ∧
      codec.parseInstant "-0001-12-31" =
        .ok (Instant.ofLocal ⟨-1, 365⟩ TimeOfDay.midnight (-12600)) ∧
      codec.formatDate t .time (some 0) = .ok "20:29:59" ∧
      codec.parseInstant "20:29:59" = .ok (Instant.ofLocal Date.epoch ⟨20, 29, 59, 0⟩ (-12600)) := by
  let codec : Codec :=
    ⟨Format.dateTimeItems, Format.dateItems, Format.timeItems, [], -12600, .utf8⟩
  let t : Instant := ⟨-62167219200250000000, 0⟩
  have hcodec : ofSettings { timeZone := "GMT-3:30" } = .ok codec := rfl
  have hdate : t.localDate (-12600) = ⟨-1, 365⟩ := by decide
  have htime : t.localTime (-12600) = ⟨20, 29, 59, 750000000⟩ := by decide
  have hwhole : (t.atOffset (-12600)).wholeSecond = ⟨-62167219201000000000, -12600⟩ := by decide
  have hrender : ∀ format text,
      format.render ⟨-1, 365⟩ ⟨20, 29, 59, 750000000⟩ (-12600) = text →
      codec.render t format = .ok text := by
    intro format text h
    rw [render_eq_ok, hdate, htime]
    exact ⟨by decide, h.symm⟩
  have hdateTimeText := hrender Format.dateTimeItems "-0001-12-31 20:29:59" (by decide +kernel)
  have hdateText := hrender Format.dateItems "-0001-12-31" (by decide +kernel)
  have htimeText : codec.formatDate t .time (some 0) = .ok "20:29:59" := by
    rw [formatDate_time rfl]
    exact hrender Format.timeItems _ (by decide +kernel)
  have hreadDateTime := (parseInstant_formatDate hcodec t none _).1 hdateTimeText
  have hreadDate := (parseInstant_formatDate hcodec t none _).2.1 hdateText
  have hreadTime := (parseInstant_formatDate hcodec t (some 0) _).2.2 (.inr rfl) htimeText
  rw [hwhole] at hreadDateTime
  rw [hdate] at hreadDate
  rw [htime] at hreadTime
  exact ⟨codec, t, hcodec, rfl, hdateTimeText, hreadDateTime, hdateText, hreadDate, htimeText,
    hreadTime⟩

end Codec

end TableExchange
