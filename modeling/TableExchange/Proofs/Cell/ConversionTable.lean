import TableExchange.Cell.Conversion
import TableExchange.Proofs.Results

/-!
# Which conversions there are

Of the pairs of a kind of cell and a type, a table says which have a conversion. A pair outside of
the table is refused for every cell, null ones among them; a pair in it gives null for null and for
nothing else. A failure is always about the cell's own kind and the type asked for, whichever step
has failed and whatever a codec answers.

* `CellKind.targets`: the table.
* `CellError.IsAbout`: what an error names.
* `Cell.convert`: the nine conversions as one.
* `Cell.Follows`: one conversion follows the table; `Cell.asBool_follows` and its siblings.
* `Cell.convert_follows_table`: all of them do.
-/

namespace TableExchange

/-! ## The table -/

/-- The types that cells of a kind are converted to. -/
def CellKind.targets : CellKind → List Target
  | .bool => [.bool, .long, .double, .string, .bigInteger, .bigDecimal]
  | .long => [.bool, .long, .double, .string, .date, .timestamp, .bigInteger, .bigDecimal]
  | .double => [.long, .double, .string, .bigInteger, .bigDecimal]
  | .string => Target.all
  | .bytes => [.string, .bytes]
  | .date | .timestamp => [.long, .string, .date, .timestamp]

def CellKind.converts (kind : CellKind) (target : Target) : Bool := kind.targets.contains target

/-- An error names the type asked for and, where it names a kind of cell, this one. -/
def CellError.IsAbout (source : CellKind) (target : Target) : CellError → Prop
  | .conversionNotSupported kind type _ => kind = source ∧ type = target
  | .overflow e => e.target = target
  | .rowShape _ _ => False

/-- The type of the values that a conversion gives. -/
def Target.Value : Target → Type
  | .bool => Bool
  | .long | .bigInteger => Int
  | .double => Binary64
  | .bigDecimal => Decimal
  | .string => String
  | .bytes => Bytes
  | .date | .timestamp => Instant

namespace Cell

variable {α β κ : Type} [CellCodec κ] {c : Cell} {target : Target}

/-- The conversion of a cell to a type. -/
def convert (c : Cell) (codec : κ) : (target : Target) → Converted target.Value
  | .bool => c.asBool
  | .long => c.asLong
  | .double => c.asDouble
  | .string => c.asString codec
  | .bytes => c.asBytes codec
  | .date => c.asDate codec
  | .timestamp => c.asTimestamp codec
  | .bigInteger => c.asBigInteger
  | .bigDecimal => c.asBigDecimal

/-! ## Failures -/

/-- If a step fails, its error is about the cell and the type asked for. -/
def FailsFor (c : Cell) (target : Target) (r : Except CellError α) : Prop :=
  ∀ e, r = .error e → e.IsAbout c.kind target

theorem failsFor_ok (c : Cell) (target : Target) (a : α) : c.FailsFor target (.ok a) := by
  intro e h
  cases h

theorem failsFor_unsupported (c : Cell) (target : Target) :
    c.FailsFor target (.error (c.unsupported target) : Except CellError α) := by
  intro e h
  cases h
  exact ⟨rfl, rfl⟩

theorem failsFor_overflow (c : Cell) (text : String) (target : Target) :
    c.FailsFor target (.error (.overflow (.ofText text target)) : Except CellError α) := by
  intro e h
  cases h
  rfl

theorem FailsFor.bind {x : Except CellError α} {f : α → Except CellError β}
    (hx : c.FailsFor target x) (hf : ∀ a, c.FailsFor target (f a)) :
    c.FailsFor target (x >>= f) := by
  intro e h
  rcases bind_eq_error.1 h with h | ⟨a, -, h⟩
  · exact hx e h
  · exact hf a e h

/-- Whatever goes wrong in a codec, the cell is what is refused. -/
theorem failsFor_coded (c : Cell) (target : Target) (r : Except CodecError α) :
    c.FailsFor target (c.coded target r) := by
  cases r with
  | ok a => exact failsFor_ok c target a
  | error e => exact failsFor_unsupported c target

theorem failsFor_narrow (c : Cell) (n : Int) (target : Target) :
    c.FailsFor target (guarded (narrow n target)) := by
  rw [narrow]
  split
  · exact failsFor_ok c target n
  · exact failsFor_overflow c (intText n) target

theorem failsFor_decimalOfText (c : Cell) (text : String) (target : Target) :
    c.FailsFor target (c.decimalOfText text target) := by
  rw [decimalOfText]
  split
  · exact failsFor_unsupported c target
  · cases Decimal.parse text with
    | ok d => exact failsFor_ok c target d
    | error e => exact failsFor_unsupported c target

theorem failsFor_integerOfText (c : Cell) (text : String) (target : Target) :
    c.FailsFor target (c.integerOfText text target) := by
  refine (failsFor_decimalOfText c text target).bind fun d => ?_
  cases d.toInteger? with
  | some n => exact failsFor_ok c target n
  | none => exact failsFor_overflow c text target

theorem failsFor_longOfContent (c : Cell) (text : String) :
    c.FailsFor .long (c.longOfContent text) :=
  (failsFor_integerOfText c text .long).bind fun n => failsFor_narrow c n .long

theorem failsFor_doubleOfValue (c : Cell) (d : Decimal) : c.FailsFor .double (doubleOfValue d) := by
  have hguard : c.FailsFor .double (guarded (checkDouble d)) := by
    rw [checkDouble]
    split
    · exact failsFor_overflow c d.preview .double
    · exact failsFor_ok c .double ()
  exact hguard.bind fun _ => failsFor_ok c .double _

theorem failsFor_doubleOfContent (c : Cell) (text : String) :
    c.FailsFor .double (c.doubleOfContent text) := by
  unfold doubleOfContent
  split
  · exact failsFor_ok c .double _
  split
  · exact failsFor_ok c .double _
  split
  · exact failsFor_ok c .double _
  · exact (failsFor_decimalOfText c text .double).bind fun d => failsFor_doubleOfValue c d

theorem failsFor_instantOf (c : Cell) (millis : Int) (nanos : Nat) (target : Target) :
    c.FailsFor target (instantOf millis nanos target) := by
  -- an equation for this definition would take the calendar apart first
  delta instantOf
  split
  · exact failsFor_ok c target _
  · exact failsFor_overflow c (intText millis) target

/-! ## Conversions -/

/-- A conversion follows the table: without an entry it refuses the cell, with one it gives null for
null only, and its failures are about the cell and the type. -/
structure Follows (c : Cell) (target : Target) (r : Converted α) : Prop where
  refused : c.kind.converts target = false → r = .error (c.unsupported target)
  null : c.kind.converts target = true → (r = .ok none ↔ c.isNull = true)
  fails : c.FailsFor target r

theorem follows_refused (h : c.kind.converts target = false) :
    c.Follows target (.error (c.unsupported target) : Converted α) where
  refused _ := rfl
  null hconverts := by simp [h] at hconverts
  fails := failsFor_unsupported c target

/-- A content that may be absent is converted as it is. -/
theorem follows_ok {v : Option α} (h : c.kind.converts target = true)
    (hnull : v.isNone = c.isNull) : c.Follows target (.ok v) where
  refused hconverts := by simp [h] at hconverts
  null _ := by rw [← hnull, Option.isNone_iff_eq_none, Except.ok.injEq]
  fails := failsFor_ok c target v

/-- A content that is not absent is converted in steps that may fail. -/
theorem follows_map {x : Except CellError α} (h : c.kind.converts target = true)
    (hnull : c.isNull = false) (hx : c.FailsFor target x) : c.Follows target (x.map some) where
  refused hconverts := by simp [h] at hconverts
  null _ := by cases x <;> simp [hnull, Except.map]
  fails := hx.bind fun a => failsFor_ok c target (some a)

theorem asBool_follows (c : Cell) : c.Follows .bool c.asBool := by
  obtain ⟨value, size⟩ := c
  cases value with
  | bool b => exact follows_ok rfl rfl
  | long n => exact follows_ok rfl (Option.isNone_map)
  | string text =>
    cases text with
    | none => exact follows_ok rfl rfl
    | some text =>
      unfold asBool
      dsimp only
      split
      · exact follows_ok rfl rfl
      split
      · exact follows_ok rfl rfl
      · exact follows_map rfl rfl (failsFor_unsupported _ .bool)
  | double _ | bytes _ | date _ | timestamp _ => exact follows_refused rfl

theorem asBigInteger_follows (c : Cell) : c.Follows .bigInteger c.asBigInteger := by
  obtain ⟨value, size⟩ := c
  cases value with
  | bool b => exact follows_ok rfl Option.isNone_map
  | long n => exact follows_ok rfl rfl
  | double text | string text =>
    cases text with
    | none => exact follows_ok rfl rfl
    | some text => exact follows_map rfl rfl (failsFor_integerOfText _ text .bigInteger)
  | bytes _ | date _ | timestamp _ => exact follows_refused rfl

theorem asBigDecimal_follows (c : Cell) : c.Follows .bigDecimal c.asBigDecimal := by
  obtain ⟨value, size⟩ := c
  cases value with
  | bool b => exact follows_ok rfl Option.isNone_map
  | long n => exact follows_ok rfl Option.isNone_map
  | double text | string text =>
    cases text with
    | none => exact follows_ok rfl rfl
    | some text => exact follows_map rfl rfl (failsFor_decimalOfText _ text .bigDecimal)
  | bytes _ | date _ | timestamp _ => exact follows_refused rfl

theorem asLong_follows (c : Cell) : c.Follows .long c.asLong := by
  obtain ⟨value, size⟩ := c
  cases value with
  | bool b => exact follows_ok rfl Option.isNone_map
  | long n =>
    cases n with
    | none => exact follows_ok rfl rfl
    | some n => exact follows_map rfl rfl (failsFor_narrow _ n .long)
  | double text | string text =>
    cases text with
    | none => exact follows_ok rfl rfl
    | some text => exact follows_map rfl rfl (failsFor_longOfContent _ text)
  | date value | timestamp value => exact follows_ok rfl Option.isNone_map
  | bytes _ => exact follows_refused rfl

theorem asDouble_follows (c : Cell) : c.Follows .double c.asDouble := by
  obtain ⟨value, size⟩ := c
  cases value with
  | bool b => exact follows_ok rfl Option.isNone_map
  | long n =>
    cases n with
    | none => exact follows_ok rfl rfl
    | some n => exact follows_map rfl rfl (failsFor_doubleOfValue _ (.ofInt n))
  | double text | string text =>
    cases text with
    | none => exact follows_ok rfl rfl
    | some text => exact follows_map rfl rfl (failsFor_doubleOfContent _ text)
  | bytes _ | date _ | timestamp _ => exact follows_refused rfl

theorem bind_map_some (x : Except CellError α) (f : α → Except CellError β) :
    (x.bind fun a => (f a).map some) = (x >>= f).map some := by
  cases x <;> rfl

theorem asString_follows (c : Cell) (codec : κ) : c.Follows .string (c.asString codec) := by
  obtain ⟨value, size⟩ := c
  cases value with
  | bool b => exact follows_ok rfl Option.isNone_map
  | long n => exact follows_ok rfl Option.isNone_map
  | double text | string text => exact follows_ok rfl rfl
  | bytes bytes =>
    cases bytes with
    | none => exact follows_ok rfl rfl
    | some bytes => exact follows_map rfl rfl (failsFor_coded _ .string _)
  | date value | timestamp value =>
    cases value with
    | none => exact follows_ok rfl rfl
    | some value =>
      unfold asString
      dsimp only
      rw [bind_map_some]
      refine follows_map rfl rfl ((failsFor_instantOf _ _ _ .string).bind fun t => ?_)
      exact failsFor_coded _ .string _

theorem asBytes_follows (c : Cell) (codec : κ) : c.Follows .bytes (c.asBytes codec) := by
  obtain ⟨value, size⟩ := c
  cases value with
  | bytes bytes => exact follows_ok rfl rfl
  | string text =>
    cases text with
    | none => exact follows_ok rfl rfl
    | some text => exact follows_map rfl rfl (failsFor_coded _ .bytes _)
  | bool _ | long _ | double _ | date _ | timestamp _ => exact follows_refused rfl

/-- Dates and timestamps are got from the same kinds of cells, in the same way. -/
theorem asInstant_follows (c : Cell) (codec : κ)
    (htarget : ∀ kind : CellKind, kind.converts target = kind.converts .date) :
    c.Follows target (c.asInstant codec target) := by
  obtain ⟨value, size⟩ := c
  cases value with
  | long n =>
    cases n with
    | none => exact follows_ok (htarget .long) rfl
    | some n =>
      unfold asInstant
      dsimp only
      rw [bind_map_some]
      refine follows_map (htarget .long) rfl ((failsFor_narrow _ n target).bind fun millis => ?_)
      exact failsFor_instantOf _ millis 0 target
  | string text =>
    cases text with
    | none => exact follows_ok (htarget .string) rfl
    | some text => exact follows_map (htarget .string) rfl (failsFor_coded _ target _)
  | date value =>
    cases value with
    | none => exact follows_ok (htarget .date) rfl
    | some value => exact follows_map (htarget .date) rfl (failsFor_instantOf _ _ _ target)
  | timestamp value =>
    cases value with
    | none => exact follows_ok (htarget .timestamp) rfl
    | some value => exact follows_map (htarget .timestamp) rfl (failsFor_instantOf _ _ _ target)
  | bool _ => exact follows_refused (htarget .bool)
  | double _ => exact follows_refused (htarget .double)
  | bytes _ => exact follows_refused (htarget .bytes)

theorem convert_follows (c : Cell) (codec : κ) (target : Target) :
    c.Follows target (c.convert codec target) := by
  cases target with
  | bool => exact asBool_follows c
  | long => exact asLong_follows c
  | double => exact asDouble_follows c
  | string => exact asString_follows c codec
  | bytes => exact asBytes_follows c codec
  | date => exact asInstant_follows c codec fun _ => rfl
  | timestamp => exact asInstant_follows c codec fun kind => by cases kind <;> rfl
  | bigInteger => exact asBigInteger_follows c
  | bigDecimal => exact asBigDecimal_follows c

/-- **Every conversion follows the table.** Whatever a cell holds and a codec answers: for a type
that has no conversion from its kind the cell is refused, even if it is null; for another type the
result is null just if the cell is. Each error names the type asked for, and each refusal the kind
of the cell. -/
theorem convert_follows_table (c : Cell) (codec : κ) (target : Target) :
    (target ∉ c.kind.targets →
      c.convert codec target = .error (.conversionNotSupported c.kind target c.preview)) ∧
    (target ∈ c.kind.targets → (c.convert codec target = .ok none ↔ c.isNull = true)) ∧
    ∀ e, c.convert codec target = .error e → e.IsAbout c.kind target := by
  have hfollows := convert_follows c codec target
  refine ⟨fun h => hfollows.refused ?_, fun h => hfollows.null ?_, hfollows.fails⟩
  · simpa [CellKind.converts] using h
  · simpa [CellKind.converts] using h

/-- Null bytes are no integer and a null date is no timestamp but null. An integer that is no 64-bit
one is no date, and the error says so, though the check it fails is one for integers. -/
theorem convert_follows_table_null :
    ∃ codec, Codec.ofSettings {} = .ok codec ∧
      Target.long ∉ (null .bytes).kind.targets ∧
      (null .bytes).convert codec .long = .error (.conversionNotSupported .bytes .long "null") ∧
      Target.timestamp ∈ (null .date).kind.targets ∧
      (null .date).convert codec .timestamp = .ok none ∧
      ∃ e, (long (some 9223372036854775808)).convert codec .date = .error e ∧
        e.IsAbout .long .date := by
  obtain ⟨codec, hcodec⟩ : ∃ codec, Codec.ofSettings {} = .ok codec := ⟨_, rfl⟩
  obtain ⟨hrefused, -, -⟩ := convert_follows_table (null .bytes) codec .long
  obtain ⟨-, hnull, -⟩ := convert_follows_table (null .date) codec .timestamp
  obtain ⟨-, -, hfails⟩ := convert_follows_table (long (some 9223372036854775808)) codec .date
  exact ⟨codec, hcodec, by decide, hrefused (by decide), by decide, (hnull (by decide)).2 rfl,
    _, rfl, hfails _ rfl⟩

end Cell

end TableExchange
