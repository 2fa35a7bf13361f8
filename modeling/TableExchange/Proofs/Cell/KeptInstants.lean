import TableExchange.Cell.Conversion
import TableExchange.Proofs.Calendar.Date
import TableExchange.Proofs.Row.Columns

/-!
# Instants kept in cells

A date or a timestamp cell keeps an instant as milliseconds and the nanoseconds past them. In
whatever steps it is built, these nanoseconds are less than a millisecond. So its views agree, and
an instant that is put into a cell comes out of it.

* `DateBuilder.nanos_applyAll_lt`, `TimestampBuilder.nanos_applyAll_lt`: the bound holds after all
  steps of building.
* `Cell.Keeps.asInstant`, `Cell.Keeps.asLong`: the views of a cell in terms of what it keeps.
* `Cell.KeepsInstant.viewsAgree`, `Cell.Keeps.givesBack`: what follows from the bound, and from
  milliseconds and nanoseconds that belong to one instant.
* `Cell.instants_kept`: all ways of building a cell.
-/

namespace TableExchange

/-! ## Building step by step -/

/-- A step of building a date cell. -/
inductive DateStep where
  | kind (kind : DateKind)
  | nanosOfSecond (nanos : Nat)
  | precision (digits : Nat)
  | reportedPrecision (reported : Int)

/-- A step of building a timestamp cell. -/
inductive TimestampStep where
  | nanosOfSecond (nanos : Nat)
  | precision (digits : Nat)

/-- What the building of a cell starts from. -/
inductive TimeSource where
  | millis (millis : Option Int)
  | instant (t : Instant)

namespace DateBuilder

def ofSource : TimeSource → DateBuilder
  | .millis millis => ofMillis millis
  | .instant t => ofInstant t

def apply (b : DateBuilder) : DateStep → DateBuilder
  | .kind kind => b.withKind kind
  | .nanosOfSecond nanos => b.withNanosOfSecond nanos
  | .precision digits => b.withPrecision digits
  | .reportedPrecision reported => b.withReportedPrecision reported

def applyAll (b : DateBuilder) (steps : List DateStep) : DateBuilder := steps.foldl apply b

end DateBuilder

namespace TimestampBuilder

def ofSource : TimeSource → TimestampBuilder
  | .millis millis => ofMillis millis
  | .instant t => ofInstant t

def apply (b : TimestampBuilder) : TimestampStep → TimestampBuilder
  | .nanosOfSecond nanos => b.withNanosOfSecond nanos
  | .precision digits => b.withPrecision digits

def applyAll (b : TimestampBuilder) (steps : List TimestampStep) : TimestampBuilder :=
  steps.foldl apply b

end TimestampBuilder

/-! ## Parts of an instant -/

namespace Instant

theorem pastMilli_lt (t : Instant) : t.pastMilli < nanosPerMilli :=
  Nat.mod_lt _ (Nat.zero_lt_succ _)

/-- The milliseconds are rounded down, before 1970 as well: the whole second is, and what is within
it counts forward. -/
theorem millis_eq (t : Instant) : t.millis = t.nanos / nanosPerMilli := by
  unfold millis seconds nanosecond nanosPerMilli nanosPerSecond
  omega

/-- Milliseconds and the nanoseconds past them make up the instant. -/
theorem millis_pastMilli (t : Instant) : t.millis * nanosPerMilli + t.pastMilli = t.nanos := by
  unfold millis pastMilli seconds nanosecond nanosPerMilli nanosPerSecond
  omega

theorem ofNanos?_eq_some {nanos : Int} {t : Instant} :
    ofNanos? nanos = some t ↔ t = ⟨nanos, 0⟩ ∧ Date.isYear (t.localDate 0).year = true := by
  have hday : nanos / (nanosPerSecond * secondsPerDay : Nat) =
      (Instant.mk nanos 0).localSeconds 0 / secondsPerDay := by
    show _ = (nanos / nanosPerSecond + 0) / secondsPerDay
    unfold nanosPerSecond secondsPerDay
    omega
  unfold ofNanos?
  rw [hday]
  constructor
  · intro h
    dsimp only at h
    split at h
    · next hyear =>
      cases h
      exact ⟨rfl, hyear⟩
    · cases h
  · rintro ⟨rfl, hyear⟩
    exact if_pos hyear

end Instant

/-! ## Bounds -/

namespace DateBuilder

theorem nanos_ofSource_lt (source : TimeSource) : (ofSource source).nanos < nanosPerMilli := by
  cases source with
  | millis millis => exact Nat.zero_lt_succ _
  | instant t => exact t.pastMilli_lt

theorem nanos_apply_lt {b : DateBuilder} (h : b.nanos < nanosPerMilli) (step : DateStep) :
    (b.apply step).nanos < nanosPerMilli := by
  cases step with
  | kind kind => exact h
  | nanosOfSecond nanos => exact Nat.mod_lt _ (Nat.zero_lt_succ _)
  | precision digits => exact h
  | reportedPrecision reported =>
    show (b.withReportedPrecision reported).nanos < nanosPerMilli
    unfold withReportedPrecision
    split <;> exact h

theorem nanos_applyAll_lt {b : DateBuilder} (h : b.nanos < nanosPerMilli)
    (steps : List DateStep) : (b.applyAll steps).nanos < nanosPerMilli :=
  List.foldlRecOn (motive := fun b : DateBuilder => b.nanos < nanosPerMilli) steps apply h
    fun _ h step _ => nanos_apply_lt h step

theorem apply_keeps {t : Instant} {b : DateBuilder} (step : DateStep)
    (hmillis : b.millis = some t.millis) (hnanos : b.nanos = t.pastMilli)
    (hstep : ∀ nanos, step = .nanosOfSecond nanos → nanos = t.nanosecond) :
    (b.apply step).millis = some t.millis ∧ (b.apply step).nanos = t.pastMilli := by
  cases step with
  | kind kind => exact ⟨hmillis, hnanos⟩
  | nanosOfSecond nanos =>
    obtain rfl := hstep nanos rfl
    exact ⟨hmillis, rfl⟩
  | precision digits => exact ⟨hmillis, hnanos⟩
  | reportedPrecision reported =>
    unfold apply withReportedPrecision
    dsimp only
    split <;> exact ⟨hmillis, hnanos⟩

/-- Steps that set no other nanoseconds than those of an instant leave it as it is. -/
theorem applyAll_keeps {t : Instant} {b : DateBuilder} (steps : List DateStep)
    (hmillis : b.millis = some t.millis) (hnanos : b.nanos = t.pastMilli)
    (hsteps : ∀ nanos, .nanosOfSecond nanos ∈ steps → nanos = t.nanosecond) :
    (b.applyAll steps).millis = some t.millis ∧ (b.applyAll steps).nanos = t.pastMilli := by
  refine List.foldlRecOn
    (motive := fun b : DateBuilder => b.millis = some t.millis ∧ b.nanos = t.pastMilli) steps apply
    ⟨hmillis, hnanos⟩ fun b hkept step hmem => ?_
  exact apply_keeps step hkept.1 hkept.2 fun nanos h => hsteps nanos (h ▸ hmem)

end DateBuilder

namespace TimestampBuilder

theorem nanos_ofSource_lt (source : TimeSource) : (ofSource source).nanos < nanosPerMilli := by
  cases source with
  | millis millis => exact Nat.zero_lt_succ _
  | instant t => exact t.pastMilli_lt

theorem nanos_apply_lt {b : TimestampBuilder} (h : b.nanos < nanosPerMilli)
    (step : TimestampStep) : (b.apply step).nanos < nanosPerMilli := by
  cases step with
  | nanosOfSecond nanos => exact Nat.mod_lt _ (Nat.zero_lt_succ _)
  | precision digits => exact h

theorem nanos_applyAll_lt {b : TimestampBuilder} (h : b.nanos < nanosPerMilli)
    (steps : List TimestampStep) : (b.applyAll steps).nanos < nanosPerMilli :=
  List.foldlRecOn (motive := fun b : TimestampBuilder => b.nanos < nanosPerMilli) steps apply h
    fun _ h step _ => nanos_apply_lt h step

theorem apply_keeps {t : Instant} {b : TimestampBuilder} (step : TimestampStep)
    (hmillis : b.millis = some t.millis) (hnanos : b.nanos = t.pastMilli)
    (hstep : ∀ nanos, step = .nanosOfSecond nanos → nanos = t.nanosecond) :
    (b.apply step).millis = some t.millis ∧ (b.apply step).nanos = t.pastMilli := by
  cases step with
  | nanosOfSecond nanos =>
    obtain rfl := hstep nanos rfl
    exact ⟨hmillis, rfl⟩
  | precision digits => exact ⟨hmillis, hnanos⟩

/-- Steps that set no other nanoseconds than those of an instant leave it as it is. -/
theorem applyAll_keeps {t : Instant} {b : TimestampBuilder} (steps : List TimestampStep)
    (hmillis : b.millis = some t.millis) (hnanos : b.nanos = t.pastMilli)
    (hsteps : ∀ nanos, .nanosOfSecond nanos ∈ steps → nanos = t.nanosecond) :
    (b.applyAll steps).millis = some t.millis ∧ (b.applyAll steps).nanos = t.pastMilli := by
  refine List.foldlRecOn
    (motive := fun b : TimestampBuilder => b.millis = some t.millis ∧ b.nanos = t.pastMilli) steps
    apply ⟨hmillis, hnanos⟩ fun b hkept step hmem => ?_
  exact apply_keeps step hkept.1 hkept.2 fun nanos h => hsteps nanos (h ▸ hmem)

end TimestampBuilder

/-! ## Views -/

namespace Cell

variable {κ : Type} [CellCodec κ] {c : Cell} {moment : Option (Int × Nat)} {t : Instant}

/-- A date or a timestamp cell keeps milliseconds and the nanoseconds past them, or is null. -/
inductive Keeps (c : Cell) : Option (Int × Nat) → Prop
  | date {value : Option DateValue} (h : c.value = .date value) :
    Keeps c (value.map fun v => (v.millis, v.nanos))
  | timestamp {value : Option TimestampValue} (h : c.value = .timestamp value) :
    Keeps c (value.map fun v => (v.millis, v.nanos))

/-- A cell keeps milliseconds and less than one more of them, or is null. -/
def KeepsInstant (c : Cell) : Prop :=
  ∃ moment, c.Keeps moment ∧ ∀ x ∈ moment, x.2 < nanosPerMilli

/-- If one view of a cell as an instant succeeds, so does the other, with the same instant, and the
view as an integer is the instant's milliseconds, rounded down. -/
def ViewsAgree (c : Cell) : Prop :=
  ∀ {κ : Type} [CellCodec κ] (codec : κ) (i : Option Instant),
    c.asDate codec = .ok i ∨ c.asTimestamp codec = .ok i →
      c.asDate codec = .ok i ∧ c.asTimestamp codec = .ok i ∧
        c.asLong = .ok (i.map fun t => t.nanos / nanosPerMilli)

/-- Each view of a cell gives an instant, seen in UTC, or its milliseconds. -/
def GivesBack (c : Cell) (t : Instant) : Prop :=
  ∀ {κ : Type} [CellCodec κ] (codec : κ),
    c.asDate codec = .ok (some (t.atOffset 0)) ∧ c.asTimestamp codec = .ok (some (t.atOffset 0)) ∧
      c.asLong = .ok (some (t.nanos / nanosPerMilli))

theorem instantOf_eq_ok {millis : Int} {nanos : Nat} {target : Target} :
    instantOf millis nanos target = .ok t ↔
      t = ⟨millis * nanosPerMilli + nanos, 0⟩ ∧ Date.isYear (t.localDate 0).year = true := by
  rw [← Instant.ofNanos?_eq_some]
  unfold instantOf Instant.ofMillis?
  cases Instant.ofNanos? (millis * nanosPerMilli + nanos) with
  | none => simp
  | some t => simp

theorem Keeps.asLong (h : c.Keeps moment) : c.asLong = .ok (moment.map (·.1)) := by
  cases h with
  | @date value h => cases value <;> simp only [Cell.asLong, h] <;> rfl
  | @timestamp value h => cases value <;> simp only [Cell.asLong, h] <;> rfl

/-- A cell has no instant just if it is null, and else the one that its parts make up. -/
theorem Keeps.asInstant (h : c.Keeps moment) (codec : κ) (target : Target) {i : Option Instant} :
    c.asInstant codec target = .ok i ↔
      (moment = none ∧ i = none) ∨
        ∃ x t, moment = some x ∧ i = some t ∧ instantOf x.1 x.2 target = .ok t := by
  have hnone : (.ok none : Converted Instant) = .ok i ↔ i = none := by
    rw [Except.ok.injEq, eq_comm]
  have hsome {r : Except CellError Instant} :
      r.map some = .ok i ↔ ∃ t, i = some t ∧ r = .ok t := by
    cases r <;> simp [Except.map, eq_comm]
  cases h with
  | @date value h =>
    cases value with
    | none => simp [Cell.asInstant, h, hnone]
    | some v => simp [Cell.asInstant, h, hsome]
  | @timestamp value h =>
    cases value with
    | none => simp [Cell.asInstant, h, hnone]
    | some v => simp [Cell.asInstant, h, hsome]

theorem KeepsInstant.viewsAgree (h : c.KeepsInstant) : c.ViewsAgree := by
  obtain ⟨moment, hkeeps, hbound⟩ := h
  intro κ _ codec i hi
  have hmoment : (moment = none ∧ i = none) ∨
      ∃ x t, moment = some x ∧ i = some t ∧ ∀ target, instantOf x.1 x.2 target = .ok t := by
    rcases hi with hi | hi
    all_goals
      rcases (hkeeps.asInstant codec _).1 hi with hnull | ⟨x, t, hx, ht, h⟩
      · exact .inl hnull
      · exact .inr ⟨x, t, hx, ht, fun _ => instantOf_eq_ok.2 (instantOf_eq_ok.1 h)⟩
  have hviews : ∀ target, c.asInstant codec target = .ok i := by
    intro target
    refine (hkeeps.asInstant codec target).2 (hmoment.imp_right ?_)
    rintro ⟨x, t, hx, ht, h⟩
    exact ⟨x, t, hx, ht, h target⟩
  refine ⟨hviews .date, hviews .timestamp, ?_⟩
  rw [hkeeps.asLong]
  rcases hmoment with ⟨rfl, rfl⟩ | ⟨⟨millis, nanos⟩, t, rfl, rfl, h⟩
  · rfl
  · obtain ⟨rfl, -⟩ := instantOf_eq_ok.1 (h .date)
    have hnanos : nanos < nanosPerMilli := hbound _ rfl
    have hmillis : (millis * nanosPerMilli + nanos) / nanosPerMilli = millis := by
      unfold nanosPerMilli at hnanos ⊢
      omega
    rw [Option.map_some, Option.map_some, hmillis]

theorem Keeps.keepsInstant {millis : Option Int} {nanos : Nat} (h : c.Keeps (millis.map (·, nanos)))
    (hnanos : nanos < nanosPerMilli) : c.KeepsInstant := by
  refine ⟨_, h, ?_⟩
  cases millis with
  | none => simp
  | some millis => simpa using hnanos

/-- A cell that keeps the parts of an instant gives it back. -/
theorem Keeps.givesBack {millis : Option Int} {nanos : Nat} (h : c.Keeps (millis.map (·, nanos)))
    (hmillis : millis = some t.millis) (hnanos : nanos = t.pastMilli)
    (hyear : Date.isYear (t.localDate 0).year = true) : c.GivesBack t := by
  subst hmillis hnanos
  intro κ _ codec
  have hviews : ∀ target, c.asInstant codec target = .ok (some (t.atOffset 0)) := by
    intro target
    refine (h.asInstant codec target).2 (.inr ⟨_, _, rfl, rfl, instantOf_eq_ok.2 ⟨?_, hyear⟩⟩)
    rw [t.millis_pastMilli]
    rfl
  refine ⟨hviews .date, hviews .timestamp, ?_⟩
  rw [h.asLong, ← t.millis_eq]
  rfl

/-! ## Cells that are built -/

theorem keeps_build_date (b : DateBuilder) : b.build.Keeps (b.millis.map (·, b.nanos)) := by
  have h : b.build.Keeps _ := .date rfl
  rwa [Option.map_map] at h

theorem keeps_build_timestamp (b : TimestampBuilder) :
    b.build.Keeps (b.millis.map (·, b.nanos)) := by
  have h : b.build.Keeps _ := .timestamp rfl
  rwa [Option.map_map] at h

/-- An instant that a driver reports becomes a date or a timestamp cell in the steps of their
builders, or is refused. -/
theorem materializeCell_instant {column : Column} {millis : Int} {nanos : Nat}
    (h : materializeCell column (.instant millis nanos) = .ok c) :
    (∃ steps : List DateStep, (∀ set, .nanosOfSecond set ∉ steps) ∧
      c = (((DateBuilder.ofMillis (some millis)).withNanosOfSecond nanos).applyAll steps).build) ∨
    c = ((TimestampBuilder.ofMillis (some millis)).withNanosOfSecond nanos).build := by
  rw [materializeCell_of_isNull_false rfl] at h
  cases hkind : cellKind column (.instant millis nanos) <;> rw [hkind] at h
  case date =>
    dsimp only [cellOfKind, dateCell] at h
    split at h <;> cases h
    · exact .inl ⟨[.kind .date], by simp, rfl⟩
    · exact .inl ⟨[.kind .time, .reportedPrecision column.precision], by simp, rfl⟩
  case timestamp =>
    cases h
    exact .inr rfl
  all_goals cases h

/-- Columns of dates, times of day and timestamps take the instants that a driver reports. -/
theorem exists_materializeCell_instant {column : Column} (h : column.type.isTemporal = true)
    (millis : Int) (nanos : Nat) : ∃ c, materializeCell column (.instant millis nanos) = .ok c := by
  rcases columnKind?_of_isTemporal h with hkind | hkind
  · rw [materializeCell_of_kind rfl hkind]
    dsimp only [cellOfKind, dateCell]
    split <;> exact ⟨_, rfl⟩
  · rw [materializeCell_of_kind rfl hkind]
    exact ⟨_, rfl⟩

/-- **Date and timestamp cells lose nothing of an instant.** A cell that is built from milliseconds
or from an instant in any steps, or of an instant that a driver reports, keeps less than a
millisecond past its milliseconds; so its views agree. An instant that UTC dates within the calendar
comes back, seen in UTC, out of a cell built from it in steps that set no other nanoseconds than its
own, and out of a cell of a date, time or timestamp column for which a driver reports its
milliseconds, rounded down, and its nanoseconds of the second. -/
theorem instants_kept :
    (∀ (source : TimeSource) (steps : List DateStep),
      ((DateBuilder.ofSource source).applyAll steps).build.KeepsInstant ∧
      ((DateBuilder.ofSource source).applyAll steps).build.ViewsAgree) ∧
    (∀ (source : TimeSource) (steps : List TimestampStep),
      ((TimestampBuilder.ofSource source).applyAll steps).build.KeepsInstant ∧
      ((TimestampBuilder.ofSource source).applyAll steps).build.ViewsAgree) ∧
    (∀ (column : Column) (millis : Int) (nanos : Nat) (c : Cell),
      materializeCell column (.instant millis nanos) = .ok c → c.KeepsInstant ∧ c.ViewsAgree) ∧
    ∀ t : Instant, Date.isYear (t.localDate 0).year = true →
      (∀ steps : List DateStep, (∀ nanos, .nanosOfSecond nanos ∈ steps → nanos = t.nanosecond) →
        ((DateBuilder.ofInstant t).applyAll steps).build.GivesBack t) ∧
      (∀ steps : List TimestampStep,
        (∀ nanos, .nanosOfSecond nanos ∈ steps → nanos = t.nanosecond) →
        ((TimestampBuilder.ofInstant t).applyAll steps).build.GivesBack t) ∧
      ∀ column : Column, column.type.isTemporal = true →
        ∃ c, materializeCell column (.instant (t.nanos / nanosPerMilli) t.nanosecond) = .ok c ∧
          c.GivesBack t := by
  have hagree : ∀ {c : Cell}, c.KeepsInstant → c.KeepsInstant ∧ c.ViewsAgree := fun h =>
    ⟨h, h.viewsAgree⟩
  refine ⟨fun source steps => hagree ?_, fun source steps => hagree ?_,
    fun column millis nanos c h => hagree ?_, fun t hyear => ⟨fun steps hsteps => ?_,
      fun steps hsteps => ?_, fun column hcolumn => ?_⟩⟩
  · exact (keeps_build_date _).keepsInstant
      (DateBuilder.nanos_applyAll_lt (DateBuilder.nanos_ofSource_lt source) steps)
  · exact (keeps_build_timestamp _).keepsInstant
      (TimestampBuilder.nanos_applyAll_lt (TimestampBuilder.nanos_ofSource_lt source) steps)
  · have hbound : nanos % nanosPerMilli < nanosPerMilli := Nat.mod_lt _ (Nat.zero_lt_succ _)
    rcases materializeCell_instant h with ⟨steps, -, rfl⟩ | rfl
    · exact (keeps_build_date _).keepsInstant (DateBuilder.nanos_applyAll_lt hbound steps)
    · exact (keeps_build_timestamp _).keepsInstant hbound
  · obtain ⟨hmillis, hnanos⟩ :=
      DateBuilder.applyAll_keeps (b := DateBuilder.ofInstant t) steps rfl rfl hsteps
    exact (keeps_build_date _).givesBack hmillis hnanos hyear
  · obtain ⟨hmillis, hnanos⟩ :=
      TimestampBuilder.applyAll_keeps (b := TimestampBuilder.ofInstant t) steps rfl rfl hsteps
    exact (keeps_build_timestamp _).givesBack hmillis hnanos hyear
  · rw [← t.millis_eq]
    obtain ⟨c, hc⟩ := exists_materializeCell_instant hcolumn t.millis t.nanosecond
    refine ⟨c, hc, ?_⟩
    rcases materializeCell_instant hc with ⟨steps, hsteps, rfl⟩ | rfl
    · obtain ⟨hmillis, hnanos⟩ := DateBuilder.applyAll_keeps (t := t)
        (b := (DateBuilder.ofMillis (some t.millis)).withNanosOfSecond t.nanosecond) steps rfl rfl
        fun nanos h => absurd h (hsteps nanos)
      exact (keeps_build_date _).givesBack hmillis hnanos hyear
    · exact (keeps_build_timestamp _).givesBack rfl rfl hyear

/-- The last nanosecond before 1970, seen in GMT+8. -/
def lastNanosecond : Instant := ⟨-1, 28800⟩

/-- A column of times of day with three fraction digits. -/
def timeColumn : Column := ⟨"at", .time, "TIME", 14⟩

/-- That nanosecond belongs to the millisecond before 1970. Setting its own nanoseconds again
changes nothing, and a time column for which they are reported gives it back, too. -/
theorem instants_kept_beforeEpoch :
    lastNanosecond.nanos / nanosPerMilli = -1 ∧ lastNanosecond.nanosecond = 999999999 ∧
    ((DateBuilder.ofInstant lastNanosecond).applyAll
      [.nanosOfSecond 999999999, .kind .time]).build = date (some ⟨-1, .time, 999999, none⟩) ∧
    (date (some ⟨-1, .time, 999999, none⟩)).GivesBack lastNanosecond ∧
    materializeCell timeColumn (.instant (-1) 999999999) =
      .ok (date (some ⟨-1, .time, 999999, some 3⟩)) ∧
    (date (some ⟨-1, .time, 999999, some 3⟩)).ViewsAgree ∧
    (date (some ⟨-1, .time, 999999, some 3⟩)).GivesBack lastNanosecond := by
  have hcell : materializeCell timeColumn (.instant (-1) 999999999) =
      .ok (date (some ⟨-1, .time, 999999, some 3⟩)) := rfl
  obtain ⟨-, -, hreported, hback⟩ := instants_kept
  obtain ⟨hbuilt, -, hcolumn⟩ := hback lastNanosecond (by decide)
  obtain ⟨c, hc, hgives⟩ := hcolumn timeColumn rfl
  cases hc.symm.trans hcell
  refine ⟨rfl, rfl, rfl, hbuilt [.nanosOfSecond 999999999, .kind .time] ?_, hcell,
    (hreported _ _ _ _ hcell).2, hgives⟩
  rintro nanos (_ | ⟨_, _ | ⟨_, ⟨⟩⟩⟩)
  rfl

end Cell

end TableExchange
