import TableExchange.Cell.Conversion
import TableExchange.Proofs.Calendar.Matching
import TableExchange.Proofs.Results

/-!
# Instants of texts

What a codec with the plain formats makes of each text.

* `Codec.parseInstant_eq_ok`: the texts that have an instant, and the instant.
* `Codec.readsAsWritten_iff`: a text is read as it is written, or refused, unless it has a date and
  a time of day of which just one exists.
-/

namespace TableExchange

/-! ## What exists of what is written -/

/-- The date that is written, if it exists. -/
def WrittenDate.date? (d : WrittenDate) : Option Date := Date.ofMonthDay? d.year d.month d.day

def WrittenTime.time? (t : WrittenTime) : Option TimeOfDay :=
  TimeOfDay.ofParts? t.hour t.minute t.second 0

/-- An instant has just this date and this time of day at an offset. -/
def Instant.Shows (i : Instant) (offset : Int) (d : WrittenDate) (t : WrittenTime) : Prop :=
  ∃ date, i.local? offset = some (date, ⟨t.hour, t.minute, t.second, 0⟩) ∧ date.year = d.year ∧
    date.month = d.month ∧ date.day = d.day

theorem WrittenTime.time?_of_exists {t : WrittenTime} (h : t.Exists) :
    t.time? = some ⟨t.hour, t.minute, t.second, 0⟩ := by
  rw [time?, TimeOfDay.ofParts?, if_pos ⟨h.1, h.2.1, h.2.2, by decide⟩]

theorem WrittenTime.time?_of_not_exists {t : WrittenTime} (h : ¬t.Exists) : t.time? = none := by
  rw [time?, TimeOfDay.ofParts?, if_neg]
  intro hparts
  exact h ⟨hparts.1, hparts.2.1, hparts.2.2.1⟩

theorem WrittenDate.date?_of_not_exists {d : WrittenDate} (h : ¬d.Exists) : d.date? = none :=
  Date.ofMonthDay?_of_not_exists h

theorem shows_ofLocal {d : WrittenDate} {t : WrittenTime} (hyear : Date.isYear d.year = true)
    (hd : d.Exists) (ht : t.Exists) (offset : Int) :
    ∃ date time, d.date? = some date ∧ t.time? = some time ∧
      (Instant.ofLocal date time offset).Shows offset d t := by
  obtain ⟨date, hdate, hy, hm, hday, hlow, hhigh⟩ := Date.ofMonthDay?_of_exists hyear hd
  rw [← hy] at hyear hhigh
  refine ⟨date, _, hdate, WrittenTime.time?_of_exists ht, date, ?_, hy, hm, hday⟩
  exact Instant.local_ofLocal offset hyear hlow hhigh ht.1 ht.2.1 ht.2.2

/-- The instant of a date and a time of day, of which one may be missing. -/
def instantOf? (date : Option Date) (time : Option TimeOfDay) (offset : Int) : Option Instant :=
  match date, time with
  | none, none => none
  | date, time =>
    some (Instant.ofLocal (date.getD Date.epoch) (time.getD TimeOfDay.midnight) offset)

theorem instantOf?_eq_some {date : Option Date} {time : Option TimeOfDay} (offset : Int)
    (h : date ≠ none ∨ time ≠ none) :
    instantOf? date time offset =
      some (Instant.ofLocal (date.getD Date.epoch) (time.getD TimeOfDay.midnight) offset) := by
  cases date <;> cases time
  case none.none => simp at h
  all_goals rfl

/-- The date that an instant is given: the one that is written, if it exists. -/
def keptDate : Option WrittenDate → WrittenDate
  | some d => if d.Exists then d else .epoch
  | none => .epoch

def keptTime : Option WrittenTime → WrittenTime
  | some t => if t.Exists then t else .midnight
  | none => .midnight

def SomeExists (d : Option WrittenDate) (t : Option WrittenTime) : Prop :=
  (∃ x ∈ d, x.Exists) ∨ ∃ x ∈ t, x.Exists

def AllExist (d : Option WrittenDate) (t : Option WrittenTime) : Prop :=
  (∀ x ∈ d, x.Exists) ∧ ∀ x ∈ t, x.Exists

theorem keptDate_spec {d : Option WrittenDate} (hyear : ∀ x ∈ d, Date.isYear x.year = true) :
    Date.isYear (keptDate d).year = true ∧ (keptDate d).Exists ∧
      (keptDate d).date? = some ((d.bind WrittenDate.date?).getD Date.epoch) := by
  cases d with
  | none => exact ⟨rfl, by decide, rfl⟩
  | some d =>
    by_cases h : d.Exists
    · obtain ⟨date, hdate, -⟩ := Date.ofMonthDay?_of_exists (hyear d rfl) h
      rw [keptDate, if_pos h, Option.bind_some, WrittenDate.date?, hdate]
      exact ⟨hyear d rfl, h, rfl⟩
    · rw [keptDate, if_neg h, Option.bind_some, WrittenDate.date?_of_not_exists h]
      exact ⟨rfl, by decide, rfl⟩

theorem keptTime_spec (t : Option WrittenTime) :
    (keptTime t).Exists ∧
      (keptTime t).time? = some ((t.bind WrittenTime.time?).getD TimeOfDay.midnight) := by
  cases t with
  | none => exact ⟨by decide, rfl⟩
  | some t =>
    by_cases h : t.Exists
    · rw [keptTime, if_pos h, Option.bind_some, WrittenTime.time?_of_exists h]
      exact ⟨h, rfl⟩
    · rw [keptTime, if_neg h, Option.bind_some, WrittenTime.time?_of_not_exists h]
      exact ⟨by decide, rfl⟩

theorem kept_of_allExist {d : Option WrittenDate} {t : Option WrittenTime} (h : AllExist d t) :
    keptDate d = d.getD .epoch ∧ keptTime t = t.getD .midnight := by
  constructor
  · cases d with
    | none => rfl
    | some d => rw [keptDate, if_pos (h.1 d rfl), Option.getD_some]
  · cases t with
    | none => rfl
    | some t => rw [keptTime, if_pos (h.2 t rfl), Option.getD_some]

theorem instantOf?_of_someExists {d : Option WrittenDate} {t : Option WrittenTime}
    (hyear : ∀ x ∈ d, Date.isYear x.year = true) (h : SomeExists d t) (offset : Int) :
    ∃ i, instantOf? (d.bind WrittenDate.date?) (t.bind WrittenTime.time?) offset = some i ∧
      i.Shows offset (keptDate d) (keptTime t) := by
  obtain ⟨hkeptyear, hkeptdate, hdate⟩ := keptDate_spec hyear
  obtain ⟨hkepttime, htime⟩ := keptTime_spec t
  obtain ⟨date, time, hdate', htime', hshows⟩ := shows_ofLocal hkeptyear hkeptdate hkepttime offset
  cases hdate.symm.trans hdate'
  cases htime.symm.trans htime'
  refine ⟨_, instantOf?_eq_some offset ?_, hshows⟩
  rcases h with ⟨x, hx, hexists⟩ | ⟨x, hx, hexists⟩
  · obtain ⟨date, hdate, -⟩ := Date.ofMonthDay?_of_exists (hyear x hx) hexists
    rw [Option.mem_def.1 hx, Option.bind_some, WrittenDate.date?, hdate]
    exact .inl (Option.some_ne_none _)
  · rw [Option.mem_def.1 hx, Option.bind_some, WrittenTime.time?_of_exists hexists]
    exact .inr (Option.some_ne_none _)

theorem instantOf?_of_not_someExists {d : Option WrittenDate} {t : Option WrittenTime}
    (h : ¬SomeExists d t) (offset : Int) :
    instantOf? (d.bind WrittenDate.date?) (t.bind WrittenTime.time?) offset = none := by
  have hdate : d.bind WrittenDate.date? = none := by
    cases d with
    | none => rfl
    | some d => exact WrittenDate.date?_of_not_exists fun hd => h (.inl ⟨d, rfl, hd⟩)
  have htime : t.bind WrittenTime.time? = none := by
    cases t with
    | none => rfl
    | some t => exact WrittenTime.time?_of_not_exists fun ht => h (.inr ⟨t, rfl, ht⟩)
  rw [hdate, htime]
  rfl

namespace Format

variable {text : String} {offset : Int} {i : Instant}

theorem match?_eq_some {format : Format} {f : Fields} :
    format.match? text = some f ↔ matchItems {} text.toList format = some (f, []) := by
  unfold match?
  split
  · next h => simp [h]
  · next h =>
    constructor
    · intro h'
      cases h'
    · intro h'
      exact absurd h' (h f)

theorem parse?_eq_some {format : Format} :
    format.parse? offset text = some i ↔
      ∃ f, format.match? text = some f ∧
        instantOf? f.date? f.time? (f.offset?.getD offset) = some i := by
  unfold parse?
  rw [Option.bind_eq_bind, Option.bind_eq_some_iff]
  apply exists_congr
  intro f
  apply and_congr_right
  intro _
  unfold instantOf?
  cases f.date? <;> cases f.time? <;> rfl

theorem parse?_dateItems :
    dateItems.parse? offset text = some i ↔
      ∃ d, Spells text.toList (some d) none ∧ d.InRange ∧ instantOf? d.date? none offset = some i := by
  simp only [parse?_eq_some, match?_eq_some, matchItems_dateItems, List.append_nil, spells_date]
  constructor
  · intro h
    obtain ⟨f, ⟨_, d, hd, hrange, rfl, rfl⟩, hi⟩ := h
    exact ⟨d, hd, hrange, hi⟩
  · intro h
    obtain ⟨d, hd, hrange, hi⟩ := h
    exact ⟨withDate {} d, ⟨_, d, hd, hrange, rfl, rfl⟩, hi⟩

theorem parse?_timeItems :
    timeItems.parse? offset text = some i ↔
      ∃ t, Spells text.toList none (some t) ∧ t.InRange ∧ instantOf? none t.time? offset = some i := by
  simp only [parse?_eq_some, match?_eq_some, matchItems_timeItems, List.append_nil, spells_time]
  constructor
  · intro h
    obtain ⟨f, ⟨_, t, ht, hrange, rfl, rfl⟩, hi⟩ := h
    exact ⟨t, ht, hrange, hi⟩
  · intro h
    obtain ⟨t, ht, hrange, hi⟩ := h
    exact ⟨withTime {} t, ⟨_, t, ht, hrange, rfl, rfl⟩, hi⟩

theorem parse?_dateTimeItems :
    dateTimeItems.parse? offset text = some i ↔
      ∃ d t, Spells text.toList (some d) (some t) ∧ d.InRange ∧ t.InRange ∧
        instantOf? d.date? t.time? offset = some i := by
  simp only [parse?_eq_some, match?_eq_some, matchItems_dateTimeItems, List.append_nil, spells_both]
  constructor
  · intro h
    obtain ⟨f, ⟨ds, ts, d, t, ⟨hd, hdrange⟩, ⟨ht, htrange⟩, hcs, rfl⟩, hi⟩ := h
    exact ⟨d, t, ⟨ds, ts, hd, ht, hcs⟩, hdrange, htrange, hi⟩
  · intro h
    obtain ⟨d, t, ⟨ds, ts, hd, ht, hcs⟩, hdrange, htrange, hi⟩ := h
    exact ⟨withTime (withDate {} d) t, ⟨ds, ts, d, t, ⟨hd, hdrange⟩, ⟨ht, htrange⟩, hcs, rfl⟩, hi⟩

theorem parse?_dateTimeItems_eq_none {d : Option WrittenDate} {t : Option WrittenTime}
    (hspells : Spells text.toList d t) (hmissing : d = none ∨ t = none) (offset : Int) :
    dateTimeItems.parse? offset text = none := by
  rw [Option.eq_none_iff_forall_ne_some]
  intro i hi
  obtain ⟨d', t', hspells', -⟩ := parse?_dateTimeItems.1 hi
  obtain ⟨rfl, rfl⟩ := hspells.unique hspells'
  simp at hmissing

theorem parse?_dateItems_eq_none {t : Option WrittenTime} (hspells : Spells text.toList none t)
    (offset : Int) : dateItems.parse? offset text = none := by
  rw [Option.eq_none_iff_forall_ne_some]
  intro i hi
  obtain ⟨d', hspells', -⟩ := parse?_dateItems.1 hi
  obtain ⟨hdate, -⟩ := hspells.unique hspells'
  cases hdate

end Format

/-- A text in a cell has the instant that the codec gives it, whether it is asked for as a date or as
a timestamp. -/
theorem Cell.asInstant_string {cell : Cell} {text : String} (h : cell.value = .string (some text))
    (codec : Codec) (target : Target) (i : Instant) :
    cell.asInstant codec target = .ok (some i) ↔ codec.parseInstant text = .ok i := by
  rw [Cell.asInstant, h]
  show (cell.coded target (codec.parseInstant text)).map some = _ ↔ _
  rw [Cell.coded]
  cases codec.parseInstant text with
  | error e => simp [Except.mapError, Except.map]
  | ok j => simp [Except.mapError, Except.map]

namespace Codec

variable {zone encoding : String} {codec : Codec} {text : String} {i : Instant}

theorem readFormat_of_read? {s : String} {format : Format} (h : Format.read? s = some format) :
    readFormat s = .ok format := by
  rw [readFormat, h]

/-- The plain formats come first, then those that the settings add. -/
theorem formats_ofSettings_extra {texts : List String} {extra : List Format}
    (hextra : texts.mapM readFormat = .ok extra)
    (hcodec : ofSettings { timeZone := zone, encoding := encoding, extraFormats := texts } =
      .ok codec) :
    codec.formats = Format.dateTimeItems :: Format.dateItems :: Format.timeItems :: extra := by
  obtain ⟨dateTime, hdateTime, h⟩ := bind_eq_ok.1 hcodec
  obtain ⟨date, hdate, h⟩ := bind_eq_ok.1 h
  obtain ⟨time, htime, h⟩ := bind_eq_ok.1 h
  obtain ⟨extra', hextra', h⟩ := bind_eq_ok.1 h
  obtain ⟨offset, -, h⟩ := bind_eq_ok.1 h
  obtain ⟨charset, -, h⟩ := bind_eq_ok.1 h
  cases h
  cases hextra.symm.trans hextra'
  cases (readFormat_of_read? Format.read?_dateTimeItems).symm.trans hdateTime
  cases (readFormat_of_read? Format.read?_dateItems).symm.trans hdate
  cases (readFormat_of_read? Format.read?_timeItems).symm.trans htime
  rfl

theorem formats_ofSettings
    (hcodec : ofSettings { timeZone := zone, encoding := encoding } = .ok codec) :
    codec.formats = [Format.dateTimeItems, Format.dateItems, Format.timeItems] :=
  formats_ofSettings_extra rfl hcodec

theorem parseInstant_eq_error {e : CodecError} (h : codec.parseInstant text = .error e) :
    e = .unparseableDate text := by
  unfold parseInstant at h
  split at h
  · cases h
  · cases h
    rfl

/-- The texts that have an instant: each part is in its range, and a date or a time of day exists.
What is written but does not exist is passed over. -/
theorem parseInstant_eq_ok
    (hcodec : ofSettings { timeZone := zone, encoding := encoding } = .ok codec) :
    codec.parseInstant text = .ok i ↔
      ∃ d t, Spells text.toList d t ∧ (∀ x ∈ d, x.InRange) ∧ (∀ x ∈ t, x.InRange) ∧
        instantOf? (d.bind WrittenDate.date?) (t.bind WrittenTime.time?) codec.offset = some i := by
  have hfirst : codec.parseInstant text = .ok i ↔
      codec.formats.findSome? (·.parse? codec.offset text) = some i := by
    unfold parseInstant
    cases codec.formats.findSome? (·.parse? codec.offset text) <;> simp
  rw [hfirst, formats_ofSettings hcodec]
  constructor
  · intro h
    obtain ⟨format, hformat, h⟩ := List.exists_of_findSome?_eq_some h
    simp only [List.mem_cons, List.not_mem_nil, or_false] at hformat
    rcases hformat with rfl | rfl | rfl
    · obtain ⟨d, t, hspells, hd, ht, hi⟩ := Format.parse?_dateTimeItems.1 h
      exact ⟨some d, some t, hspells, by simpa using hd, by simpa using ht, hi⟩
    · obtain ⟨d, hspells, hd, hi⟩ := Format.parse?_dateItems.1 h
      exact ⟨some d, none, hspells, by simpa using hd, by simp, hi⟩
    · obtain ⟨t, hspells, ht, hi⟩ := Format.parse?_timeItems.1 h
      exact ⟨none, some t, hspells, by simp, by simpa using ht, hi⟩
  · intro ⟨d, t, hspells, hd, ht, hi⟩
    -- the forms exclude each other, so the formats that are tried before do not match
    cases d with
    | none =>
      have hnotBoth := Format.parse?_dateTimeItems_eq_none hspells (.inl rfl) codec.offset
      have hnotDate := Format.parse?_dateItems_eq_none hspells codec.offset
      cases t with
      | none => exact absurd hspells not_spells_nothing
      | some t =>
        have htime := Format.parse?_timeItems.2 ⟨t, hspells, ht t rfl, hi⟩
        rw [List.findSome?_cons, hnotBoth, List.findSome?_cons, hnotDate, List.findSome?_cons,
          htime]
    | some d =>
      cases t with
      | none =>
        have hnotBoth := Format.parse?_dateTimeItems_eq_none hspells (.inr rfl) codec.offset
        have hdate := Format.parse?_dateItems.2 ⟨d, hspells, hd d rfl, hi⟩
        rw [List.findSome?_cons, hnotBoth, List.findSome?_cons, hdate]
      | some t =>
        have hboth := Format.parse?_dateTimeItems.2 ⟨d, t, hspells, hd d rfl, ht t rfl, hi⟩
        rw [List.findSome?_cons, hboth]

/-! ## What is read and what is written -/

/-- A text is read as it is written: an instant has every part that is written, and midnight or
1 January 1970 only where no time of day or no date is written; what does not exist is refused. -/
def ReadsAsWritten (codec : Codec) (text : String) : Prop :=
  (∀ i, codec.parseInstant text = .ok i →
    ∃ d t, Spells text.toList d t ∧ i.Shows codec.offset (d.getD .epoch) (t.getD .midnight)) ∧
  ∀ d t, Spells text.toList d t → ¬AllExist d t →
    codec.parseInstant text = .error (.unparseableDate text)

/-- A text has a date and a time of day, with each part in its range, of which just one exists. -/
def HalfExists (text : String) : Prop :=
  ∃ d t, Spells text.toList (some d) (some t) ∧ d.InRange ∧ t.InRange ∧ (d.Exists ↔ ¬t.Exists)

/-- A text has an instant just where each part is in its range and something exists; the instant
shows what exists. -/
theorem parseInstant_spec
    (hcodec : ofSettings { timeZone := zone, encoding := encoding } = .ok codec)
    {d : Option WrittenDate} {t : Option WrittenTime} (hspells : Spells text.toList d t) :
    ((∀ x ∈ d, x.InRange) ∧ (∀ x ∈ t, x.InRange) ∧ SomeExists d t →
      ∃ i, codec.parseInstant text = .ok i ∧ i.Shows codec.offset (keptDate d) (keptTime t)) ∧
    (∀ i, codec.parseInstant text = .ok i →
      (∀ x ∈ d, x.InRange) ∧ (∀ x ∈ t, x.InRange) ∧ SomeExists d t) := by
  have hyear : ∀ x ∈ d, Date.isYear x.year = true := by
    intro x hx
    rw [Option.mem_def.1 hx] at hspells
    exact hspells.isYear
  constructor
  · intro ⟨hd, ht, hsome⟩
    obtain ⟨i, hi, hshows⟩ := instantOf?_of_someExists hyear hsome codec.offset
    exact ⟨i, (parseInstant_eq_ok hcodec).2 ⟨d, t, hspells, hd, ht, hi⟩, hshows⟩
  · intro i hi
    obtain ⟨d', t', hspells', hd, ht, hinstant⟩ := (parseInstant_eq_ok hcodec).1 hi
    obtain ⟨rfl, rfl⟩ := hspells.unique hspells'
    refine ⟨hd, ht, ?_⟩
    by_contra hnone
    rw [instantOf?_of_not_someExists hnone] at hinstant
    cases hinstant

theorem halfExists_of_someExists {d : Option WrittenDate} {t : Option WrittenTime}
    (hspells : Spells text.toList d t) (hd : ∀ x ∈ d, x.InRange) (ht : ∀ x ∈ t, x.InRange)
    (hsome : SomeExists d t) (hall : ¬AllExist d t) : HalfExists text := by
  cases d with
  | none =>
    cases t with
    | none => exact absurd hspells not_spells_nothing
    | some t =>
      have hexists : t.Exists := by simpa [SomeExists] using hsome
      exact absurd ⟨by simp, by simpa using hexists⟩ hall
  | some d =>
    cases t with
    | none =>
      have hexists : d.Exists := by simpa [SomeExists] using hsome
      exact absurd ⟨by simpa using hexists, by simp⟩ hall
    | some t =>
      refine ⟨d, t, hspells, hd d rfl, ht t rfl, ?_⟩
      simp only [SomeExists, AllExist, Option.mem_some_iff, forall_eq', exists_eq_left'] at hsome hall
      by_cases h : d.Exists
      · exact iff_of_true h fun h' => hall ⟨h, h'⟩
      · exact iff_of_false h (not_not.2 (hsome.resolve_left h))

/-- Half of a date and a time of day that exists is read alone. -/
theorem not_readsAsWritten_of_halfExists
    (hcodec : ofSettings { timeZone := zone, encoding := encoding } = .ok codec)
    (hhalf : HalfExists text) : ¬codec.ReadsAsWritten text := by
  intro ⟨_, hrefused⟩
  obtain ⟨d, t, hspells, hd, ht, hexists⟩ := hhalf
  have hall : ¬AllExist (some d) (some t) := by
    intro ⟨hd, ht⟩
    exact hexists.1 (hd d rfl) (ht t rfl)
  have hsome : SomeExists (some d) (some t) := by
    by_cases h : t.Exists
    · exact .inr ⟨t, rfl, h⟩
    · exact .inl ⟨d, rfl, hexists.2 h⟩
  have herror := hrefused _ _ hspells hall
  obtain ⟨i, hi, -⟩ := (parseInstant_spec hcodec hspells).1
    ⟨by simpa using hd, by simpa using ht, hsome⟩
  cases herror.symm.trans hi

/-- Of any other text that is read, everything that is written exists. -/
theorem allExist_of_parseInstant
    (hcodec : ofSettings { timeZone := zone, encoding := encoding } = .ok codec)
    (hhalf : ¬HalfExists text) {d : Option WrittenDate} {t : Option WrittenTime}
    (hspells : Spells text.toList d t) (hi : codec.parseInstant text = .ok i) : AllExist d t := by
  obtain ⟨hd, ht, hsome⟩ := (parseInstant_spec hcodec hspells).2 i hi
  by_contra hnot
  exact hhalf (halfExists_of_someExists hspells hd ht hsome hnot)

theorem readsAsWritten_of_not_halfExists
    (hcodec : ofSettings { timeZone := zone, encoding := encoding } = .ok codec)
    (hhalf : ¬HalfExists text) : codec.ReadsAsWritten text := by
  constructor
  · intro i hi
    obtain ⟨d, t, hspells, -⟩ := (parseInstant_eq_ok hcodec).1 hi
    have hall := allExist_of_parseInstant hcodec hhalf hspells hi
    obtain ⟨hdate, htime⟩ := kept_of_allExist hall
    obtain ⟨hread, hrange⟩ := parseInstant_spec hcodec hspells
    obtain ⟨j, hj, hshows⟩ := hread (hrange i hi)
    cases hj.symm.trans hi
    rw [hdate, htime] at hshows
    exact ⟨d, t, hspells, hshows⟩
  · intro d t hspells hnot
    cases hresult : codec.parseInstant text with
    | error e => rw [parseInstant_eq_error hresult]
    | ok i => exact absurd (allExist_of_parseInstant hcodec hhalf hspells hresult) hnot

/-- **Only half of a date and time is ever misread.** With the plain formats, in each time zone, a
text is read as it is written, or refused, unless it has a date and a time of day, each part in its
range, of which just one exists. Such a text gets an instant too, which shows the half that exists,
and 1 January 1970 or midnight for the other. Cells with the text give the same instants. -/
theorem readsAsWritten_iff
    (hcodec : ofSettings { timeZone := zone, encoding := encoding } = .ok codec) (text : String) :
    (codec.ReadsAsWritten text ↔ ¬HalfExists text) ∧
    (∀ d t, Spells text.toList d t → (∀ x ∈ d, x.InRange) → (∀ x ∈ t, x.InRange) →
      SomeExists d t →
      ∃ i, codec.parseInstant text = .ok i ∧ i.Shows codec.offset (keptDate d) (keptTime t)) ∧
    ∀ cell : Cell, cell.value = .string (some text) → ∀ i,
      (cell.asDate codec = .ok (some i) ↔ codec.parseInstant text = .ok i) ∧
      (cell.asTimestamp codec = .ok (some i) ↔ codec.parseInstant text = .ok i) := by
  refine ⟨⟨?_, readsAsWritten_of_not_halfExists hcodec⟩, ?_, ?_⟩
  · intro hreads hhalf
    exact not_readsAsWritten_of_halfExists hcodec hhalf hreads
  · intro d t hspells hd ht hsome
    exact (parseInstant_spec hcodec hspells).1 ⟨hd, ht, hsome⟩
  · intro cell hcell i
    exact ⟨Cell.asInstant_string hcell codec .date i, Cell.asInstant_string hcell codec .timestamp i⟩

/-- The last second of a leap day is read as it is written. -/
theorem readsAsWritten_29February :
    ∃ codec, ofSettings { timeZone := "UTC-3:30", encoding := "latin1" } = .ok codec ∧
      codec.ReadsAsWritten "2024-02-29 23:59:59" ∧
      ∃ i, codec.parseInstant "2024-02-29 23:59:59" = .ok i ∧
        i.Shows (-12600) ⟨2024, 2, 29⟩ ⟨23, 59, 59⟩ := by
  have hspells : Spells "2024-02-29 23:59:59".toList (some ⟨2024, 2, 29⟩) (some ⟨23, 59, 59⟩) :=
    spells_both.2 ⟨"2024".toList ++ '-' :: ("02".toList ++ '-' :: "29".toList),
      "23".toList ++ ':' :: ("59".toList ++ ':' :: "59".toList),
      .mk (.plain (n := 2024) ⟨rfl, rfl, rfl⟩) ⟨rfl, rfl, rfl⟩ ⟨rfl, rfl, rfl⟩,
      .mk ⟨rfl, rfl, rfl⟩ ⟨rfl, rfl, rfl⟩ ⟨rfl, rfl, rfl⟩, rfl⟩
  obtain ⟨codec, hcodec, hoffset⟩ : ∃ codec,
      ofSettings { timeZone := "UTC-3:30", encoding := "latin1" } = .ok codec ∧
        codec.offset = -12600 := ⟨_, rfl, rfl⟩
  obtain ⟨hreads, hinstant, -⟩ := readsAsWritten_iff hcodec "2024-02-29 23:59:59"
  refine ⟨codec, hcodec, hreads.2 ?_, ?_⟩
  · intro ⟨d, t, hspells', _, _, hhalf⟩
    obtain ⟨hd, ht⟩ := hspells.unique hspells'
    cases hd
    cases ht
    revert hhalf
    decide
  · rw [← hoffset]
    exact hinstant _ _ hspells (by decide) (by decide) (.inl ⟨_, rfl, by decide⟩)

/-- 30 February is read as 1 January 1970, since there is a time of day behind it. -/
theorem not_readsAsWritten_30February :
    ∃ codec, ofSettings {} = .ok codec ∧ ¬codec.ReadsAsWritten "2024-02-30 10:00:00" ∧
      ∃ i, codec.parseInstant "2024-02-30 10:00:00" = .ok i ∧
        i.Shows codec.offset ⟨1970, 1, 1⟩ ⟨10, 0, 0⟩ := by
  have hspells : Spells "2024-02-30 10:00:00".toList (some ⟨2024, 2, 30⟩) (some ⟨10, 0, 0⟩) :=
    spells_both.2 ⟨"2024".toList ++ '-' :: ("02".toList ++ '-' :: "30".toList),
      "10".toList ++ ':' :: ("00".toList ++ ':' :: "00".toList),
      .mk (.plain (n := 2024) ⟨rfl, rfl, rfl⟩) ⟨rfl, rfl, rfl⟩ ⟨rfl, rfl, rfl⟩,
      .mk ⟨rfl, rfl, rfl⟩ ⟨rfl, rfl, rfl⟩ ⟨rfl, rfl, rfl⟩, rfl⟩
  obtain ⟨codec, hcodec⟩ : ∃ codec, ofSettings {} = .ok codec := ⟨_, rfl⟩
  obtain ⟨i, hi, hshows⟩ := (parseInstant_spec hcodec hspells).1
    ⟨by decide, by decide, .inr ⟨_, rfl, by decide⟩⟩
  refine ⟨codec, hcodec, ?_, i, hi, hshows⟩
  intro ⟨_, hrefused⟩
  have herror := hrefused _ _ hspells fun hall => absurd (hall.1 _ rfl) (by decide)
  cases herror.symm.trans hi

end Codec

end TableExchange
