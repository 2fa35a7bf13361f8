import TableExchange.Proofs.Calendar.Fraction
import TableExchange.Proofs.Cell.DateRoundTrip

/-!
# Timestamps written and read back

With one more format, which has a fraction behind the time of day, a codec reads back the timestamps
that it writes. The plain formats are tried before it; none of them fits a text with a fraction.

* `Codec.timestampSettings`: the plain formats and the one with a fraction.
* `Codec.plainFormats_pass`: the plain formats pass over texts that are too long for them.
* `Codec.parseInstant_fraction`: a text with some fraction digits gives the instant down to these.
* `Codec.parseInstant_formatTimestamp`: what comes back of a timestamp, with a declared precision
  and without one.
-/

namespace TableExchange

/-- A date and a time of day without a fraction have at most 20 characters. -/
theorem Spells.length_le {cs : List Char} {d : Option WrittenDate} {t : Option WrittenTime}
    (h : Spells cs d t) : cs.length ≤ 20 := by
  cases h with
  | both hd ht =>
    have hdate := hd.length
    have htime := ht.length
    rw [List.length_append, List.length_cons]
    omega
  | date hd =>
    have hdate := hd.length
    omega
  | time ht =>
    have htime := ht.length
    omega

namespace Codec

variable {zone encoding : String} {codec : Codec} {t : Instant} {text : String}

/-- Settings with the plain formats and one for date and time of day with a fraction. -/
def timestampSettings (zone encoding : String) : CastSettings :=
  { timeZone := zone, encoding := encoding
    extraFormats := ["[year]-[month]-[day] [hour]:[minute]:[second].[subsecond]"] }

theorem formats_timestampSettings
    (hcodec : ofSettings (timestampSettings zone encoding) = .ok codec) :
    codec.formats =
      [Format.dateTimeItems, Format.dateItems, Format.timeItems, Format.timestampItems] := by
  apply formats_ofSettings_extra ?_ hcodec
  rw [List.mapM_cons, readFormat_of_read? Format.read?_timestampItems]
  rfl

/-- What the plain formats fit is short. -/
theorem plainFormats_pass (hlong : 20 < text.length) (offset : Int) :
    ∀ format ∈ [Format.dateTimeItems, Format.dateItems, Format.timeItems],
      format.parse? offset text = none := by
  have hnone : ∀ d t, ¬Spells text.toList d t := by
    intro d t hspells
    have hshort := hspells.length_le
    rw [String.length_toList] at hshort
    omega
  intro format hformat
  rw [Option.eq_none_iff_forall_ne_some]
  intro i hi
  simp only [List.mem_cons, List.not_mem_nil, or_false] at hformat
  rcases hformat with rfl | rfl | rfl
  · obtain ⟨d, t, hspells, -⟩ := Format.parse?_dateTimeItems.1 hi
    exact hnone _ _ hspells
  · obtain ⟨d, hspells, -⟩ := Format.parse?_dateItems.1 hi
    exact hnone _ _ hspells
  · obtain ⟨t, hspells, -⟩ := Format.parse?_timeItems.1 hi
    exact hnone _ _ hspells

/-- The text of a date and a time of day with a point and more characters behind it. -/
theorem toList_withPoint (date : Date) (time : TimeOfDay) (offset : Int) (cs : List Char) :
    (Format.dateTimeItems.render date time offset ++ "." ++ String.ofList cs).toList =
      Format.renderChars date time offset Format.dateItems ++
        ' ' :: (Format.renderChars date time offset Format.timeItems ++ '.' :: cs) := by
  rw [Format.render, Format.dateTimeItems, Format.renderChars_append, Format.renderChars,
    Format.itemChars]
  simp

/-- A date and a time of day that exist give an instant together with the fraction behind them. -/
theorem parse?_timestampItems {ds ts cs : List Char} {d : WrittenDate} {w : WrittenTime}
    {date : Date} (htext : text.toList = ds ++ ' ' :: (ts ++ '.' :: cs)) (hd : SpellsDate ds d)
    (hdexists : d.Exists) (hdate : d.date? = some date) (hw : SpellsTime ts w)
    (hwexists : w.Exists) (hne : cs ≠ []) (hlength : cs.length ≤ 9)
    (hdigits : Digits.areDigits cs = true) (hnanos : Format.nanosOfFraction cs < 10 ^ 9)
    (offset : Int) :
    Format.timestampItems.parse? offset text =
      some (Instant.ofLocal date ⟨w.hour, w.minute, w.second, Format.nanosOfFraction cs⟩
        offset) := by
  have hmatch := Format.matchItems_timestampItems hd hdexists.inRange hw hwexists.inRange hne
    (hlength.trans (by decide)) hdigits {}
  rw [← htext] at hmatch
  refine Format.parse?_eq_some.2 ⟨_, Format.match?_eq_some.2 hmatch, ?_⟩
  have htime : TimeOfDay.ofParts? w.hour w.minute w.second (Format.nanosOfFraction cs) =
      some ⟨w.hour, w.minute, w.second, Format.nanosOfFraction cs⟩ := by
    rw [TimeOfDay.ofParts?, if_pos ⟨hwexists.1, hwexists.2.1, hwexists.2.2, hnanos⟩]
  show instantOf? d.date? (TimeOfDay.ofParts? w.hour w.minute w.second _) offset = _
  rw [hdate, htime]
  rfl

/-- The format with a fraction reads what the plain formats pass over. -/
theorem parseInstant_of_fraction
    (hcodec : ofSettings (timestampSettings zone encoding) = .ok codec) (hlong : 20 < text.length)
    (hread : Format.timestampItems.parse? codec.offset text = some t) :
    codec.parseInstant text = .ok t := by
  obtain ⟨hboth, hdate, htime⟩ : Format.dateTimeItems.parse? codec.offset text = none ∧
      Format.dateItems.parse? codec.offset text = none ∧
      Format.timeItems.parse? codec.offset text = none := by
    simpa using plainFormats_pass hlong codec.offset
  rw [parseInstant, formats_timestampSettings hcodec, List.findSome?_cons, hboth,
    List.findSome?_cons, hdate, List.findSome?_cons, htime, List.findSome?_cons, hread]

/-- The text of an instant with some digits of its fraction gives it back down to these digits. -/
theorem parseInstant_fraction
    (hcodec : ofSettings (timestampSettings zone encoding) = .ok codec)
    (hyear : Date.isYear (t.localDate codec.offset).year = true) {digits : Nat}
    (hdigits : 1 ≤ digits) :
    codec.parseInstant
        (Format.dateTimeItems.render (t.localDate codec.offset) (t.localTime codec.offset)
            codec.offset ++ "." ++
          String.ofList ((Digits.padded 9 t.nanosecond).take (min digits 9))) =
      .ok ((t.atOffset codec.offset).floorTo digits) := by
  obtain ⟨hdexists, hdate?, htexists⟩ := Instant.local_exists hyear
  have hdate := Format.spellsDate_renderChars hyear hdexists (t.localTime codec.offset) codec.offset
  have htime := Format.spellsTime_renderChars htexists (t.localDate codec.offset) codec.offset
  obtain ⟨hwidth, hall, -⟩ :=
    Digits.spellsNumber_padded (by decide : 0 < 9) (Instant.nanosecond_lt t)
  have hnanos := Format.nanosOfFraction_take (Instant.nanosecond_lt t) digits
  generalize hcs : (Digits.padded 9 t.nanosecond).take (min digits 9) = cs at hnanos ⊢
  have hlength : cs.length = min digits 9 := by
    rw [← hcs, List.length_take]
    omega
  have hfraction : Digits.areDigits cs = true := hcs ▸ Digits.areDigits_take hall _
  have hchars := toList_withPoint (t.localDate codec.offset) (t.localTime codec.offset)
    codec.offset cs
  generalize Format.dateTimeItems.render (t.localDate codec.offset)
    (t.localTime codec.offset) codec.offset ++ "." ++ String.ofList cs = text at *
  have hlong : 20 < text.length := by
    have hdateLength := hdate.length
    have htimeLength := htime.length
    rw [← String.length_toList, hchars, List.length_append, List.length_cons, List.length_append,
      List.length_cons]
    omega
  have hread := parse?_timestampItems hchars hdate hdexists hdate? htime htexists
    (List.ne_nil_of_length_pos (by omega)) (by omega) hfraction
    (by rw [hnanos]; exact (Nat.div_mul_le_self _ _).trans_lt (Instant.nanosecond_lt t))
    codec.offset
  rw [parseInstant_of_fraction hcodec hlong hread, hnanos, ← Instant.ofLocal_floorTo]
  rfl

/-- The text without a fraction is read by the first of the formats, as a whole second. -/
theorem parseInstant_wholeSecond
    (hcodec : ofSettings (timestampSettings zone encoding) = .ok codec)
    (hyear : Date.isYear (t.localDate codec.offset).year = true) :
    codec.parseInstant (Format.dateTimeItems.render (t.localDate codec.offset)
        (t.localTime codec.offset) codec.offset) =
      .ok ((t.atOffset codec.offset).floorTo 0) := by
  obtain ⟨hdexists, hdate?, htexists⟩ := Instant.local_exists hyear
  have hread := Format.parse?_dateTimeItems.2 ⟨_, _,
    Format.spells_render_dateTimeItems hyear hdexists htexists codec.offset, hdexists.inRange,
    htexists.inRange, instantOf?_eq_some codec.offset (.inl (by simp [hdate?]))⟩
  rw [parseInstant, formats_timestampSettings hcodec, List.findSome?_cons, hread, hdate?,
    WrittenTime.time?_of_exists htexists, Instant.floorTo_zero, ← Instant.ofLocal_local]
  rfl

theorem formatTimestamp_eq_ok (hcodec : ofSettings (timestampSettings zone encoding) = .ok codec)
    {precision : Option Nat} :
    codec.formatTimestamp t precision = .ok text ↔
      Date.isYear (t.localDate codec.offset).year = true ∧
        text = withFraction (Format.dateTimeItems.render (t.localDate codec.offset)
          (t.localTime codec.offset) codec.offset) t precision := by
  have hformats := formats_timestampSettings hcodec
  rw [formats, List.cons.injEq] at hformats
  rw [formatTimestamp, bind_eq_ok]
  simp only [render_eq_ok, hformats.1, pure, Except.pure, Except.ok.injEq, and_assoc,
    exists_and_left, exists_eq_left, eq_comm (a := text)]

/-- **Timestamps come back as they are written, to the nanosecond.** With the plain formats and the
one with a fraction, in each time zone: the text of a timestamp without a declared precision is read
as the same instant, and the text with one as the instant down to that number of fraction digits,
nine at most, also before 1970. Without a declared precision, from one to nine fraction digits stand
behind the point, and the last of them is no zero unless it is the only one. -/
theorem parseInstant_formatTimestamp
    (hcodec : ofSettings (timestampSettings zone encoding) = .ok codec) (t : Instant)
    (text : String) :
    (codec.formatTimestamp t none = .ok text →
      codec.parseInstant text = .ok (t.atOffset codec.offset) ∧
      ∃ base fraction, codec.render t codec.dateTimeFormat = .ok base ∧
        text = base ++ "." ++ String.ofList fraction ∧ Digits.areDigits fraction = true ∧
        1 ≤ fraction.length ∧ fraction.length ≤ 9 ∧
        (fraction.getLast? = some '0' → fraction = ['0'])) ∧
    ∀ precision, codec.formatTimestamp t (some precision) = .ok text →
      codec.parseInstant text = .ok ((t.atOffset codec.offset).floorTo precision) := by
  have hformats := formats_timestampSettings hcodec
  rw [formats, List.cons.injEq] at hformats
  constructor
  · intro h
    obtain ⟨hyear, rfl⟩ := (formatTimestamp_eq_ok hcodec).1 h
    obtain ⟨digits, hpos, hle, hfraction, hdvd⟩ :=
      Format.exists_fractionChars (Instant.nanosecond_lt t)
    obtain ⟨hwidth, hall, -⟩ :=
      Digits.spellsNumber_padded (by decide : 0 < 9) (Instant.nanosecond_lt t)
    have hlength : (Format.fractionChars t.nanosecond).length = digits := by
      rw [hfraction, List.length_take]
      omega
    refine ⟨?_, _, Format.fractionChars t.nanosecond, ?_, rfl, ?_, by omega, by omega,
      Format.fractionChars_getLast? t.nanosecond⟩
    · have hread := parseInstant_fraction hcodec hyear hpos
      rw [← hfraction, Instant.floorTo_of_dvd (t := t.atOffset codec.offset) hdvd] at hread
      exact hread
    · rw [render_eq_ok, hformats.1]
      exact ⟨hyear, rfl⟩
    · rw [hfraction]
      exact Digits.areDigits_take hall _
  · intro precision h
    obtain ⟨hyear, rfl⟩ := (formatTimestamp_eq_ok hcodec).1 h
    cases precision with
    | zero => exact parseInstant_wholeSecond hcodec hyear
    | succ precision => exact parseInstant_fraction hcodec hyear (Nat.succ_pos precision)

/-- A quarter of a second before a whole one in the year -1: the last digit goes with a precision of
one, and comes back with one beyond nine. -/
theorem parseInstant_formatTimestamp_yearMinusOne :
    ∃ codec t, ofSettings (timestampSettings "GMT-3:30" "UTF-8") = .ok codec ∧
      t.nanos = -62167219200250000000 ∧
      codec.formatTimestamp t none = .ok "-0001-12-31 20:29:59.75" ∧
      codec.parseInstant "-0001-12-31 20:29:59.75" = .ok ⟨-62167219200250000000, -12600⟩ ∧
      codec.formatTimestamp t (some 0) = .ok "-0001-12-31 20:29:59" ∧
      codec.parseInstant "-0001-12-31 20:29:59" = .ok ⟨-62167219201000000000, -12600⟩ ∧
      codec.formatTimestamp t (some 1) = .ok "-0001-12-31 20:29:59.7" ∧
      codec.parseInstant "-0001-12-31 20:29:59.7" = .ok ⟨-62167219200300000000, -12600⟩ ∧
      codec.formatTimestamp t (some 12) = .ok "-0001-12-31 20:29:59.750000000" ∧
      codec.parseInstant "-0001-12-31 20:29:59.750000000" =
        .ok ⟨-62167219200250000000, -12600⟩ := by
  let codec : Codec := ⟨Format.dateTimeItems, Format.dateItems, Format.timeItems,
    [Format.timestampItems], -12600, .utf8⟩
  let t : Instant := ⟨-62167219200250000000, 0⟩
  have hcodec : ofSettings (timestampSettings "GMT-3:30" "UTF-8") = .ok codec := rfl
  have hdate : t.localDate (-12600) = ⟨-1, 365⟩ := by decide
  have htime : t.localTime (-12600) = ⟨20, 29, 59, 750000000⟩ := by decide
  have hwritten : ∀ precision text,
      withFraction (Format.dateTimeItems.render ⟨-1, 365⟩ ⟨20, 29, 59, 750000000⟩ (-12600)) t
        precision = text →
      codec.formatTimestamp t precision = .ok text := by
    intro precision text h
    rw [formatTimestamp_eq_ok hcodec, hdate, htime]
    exact ⟨by decide, h.symm⟩
  have hfull := hwritten none "-0001-12-31 20:29:59.75" (by decide +kernel)
  have hsecond := hwritten (some 0) "-0001-12-31 20:29:59" (by decide +kernel)
  have hone := hwritten (some 1) "-0001-12-31 20:29:59.7" (by decide +kernel)
  have hmany := hwritten (some 12) "-0001-12-31 20:29:59.750000000" (by decide +kernel)
  have hreadFull := ((parseInstant_formatTimestamp hcodec t _).1 hfull).1
  have hreadSecond := (parseInstant_formatTimestamp hcodec t _).2 0 hsecond
  have hreadOne := (parseInstant_formatTimestamp hcodec t _).2 1 hone
  have hreadMany := (parseInstant_formatTimestamp hcodec t _).2 12 hmany
  exact ⟨codec, t, hcodec, rfl, hfull, hreadFull, hsecond, hreadSecond, hone, hreadOne, hmany,
    hreadMany⟩

end Codec

end TableExchange
