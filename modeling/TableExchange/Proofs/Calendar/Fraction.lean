import Mathlib.Data.List.TakeWhile
import TableExchange.Proofs.Calendar.Rendering

/-!
# Fractions of a second, written and read back

A fraction is written as the first digits of nine, and read with zeros for the missing ones. So what
is read is the fraction down to a unit, one step of the last digit that is written.

* `Format.nanosOfFraction_take`: the first digits of a fraction, read back.
* `Format.exists_fractionChars`, `Format.fractionChars_getLast?`: as many digits as a fraction needs
  keep all of it, and do not end in a zero that could be left out.
* `Format.takeFraction_digits`: digits at the end of a text are taken as a fraction.
* `Instant.floorTo`, `Instant.ofLocal_floorTo`: an instant down to a number of fraction digits, and
  how it is made again from what the instant shows.
-/

namespace TableExchange

/-- Nanoseconds in one step of the last of so many fraction digits; more than nine count for no
more. -/
def fractionUnit (digits : Nat) : Nat := 10 ^ (9 - min digits 9)

namespace Format

variable {n : Nat} {cs : List Char}

/-! ## Digits of a fraction -/

/-- A fraction is read up to the last digit that is written. -/
theorem nanosOfFraction_take (hn : n < 10 ^ 9) (digits : Nat) :
    nanosOfFraction ((Digits.padded 9 n).take (min digits 9)) =
      n / fractionUnit digits * fractionUnit digits := by
  unfold fractionUnit
  generalize hk : min digits 9 = k
  obtain ⟨hlength, hdigits, hvalue⟩ := Digits.spellsNumber_padded (by decide : 0 < 9) hn
  have htake : ((Digits.padded 9 n).take k).length = k := by
    rw [List.length_take]
    omega
  have hfilled : ((Digits.padded 9 n).take k ++ List.replicate 9 '0').take 9 =
      (Digits.padded 9 n).take k ++ List.replicate (9 - k) '0' := by
    rw [List.take_append, htake, List.take_of_length_le (by omega), List.take_replicate]
    congr 2
    omega
  rw [nanosOfFraction, hfilled, Digits.toNat_append_zeros, Digits.toNat_take hdigits, hlength,
    hvalue]

/-- Without the zeros at its end a fraction has all of its nanoseconds. -/
theorem exists_fractionChars (hn : n < 10 ^ 9) :
    ∃ digits, 1 ≤ digits ∧ digits ≤ 9 ∧
      fractionChars n = (Digits.padded 9 n).take (min digits 9) ∧ fractionUnit digits ∣ n := by
  obtain ⟨hlength, -, hvalue⟩ := Digits.spellsNumber_padded (by decide : 0 < 9) hn
  obtain ⟨z, hz⟩ := Digits.exists_zeros (Digits.padded 9 n)
  unfold fractionChars
  revert hz
  generalize ((Digits.padded 9 n).reverse.dropWhile (· == '0')).reverse = kept
  intro hz
  cases kept with
  | nil =>
    have hzero : n = 0 := by rw [← hvalue, hz, List.nil_append, Digits.toNat_replicate_zero]
    subst hzero
    exact ⟨1, by decide, by decide, by decide, by decide⟩
  | cons c rest =>
    have hcount : (c :: rest).length + z = 9 := by
      rw [← hlength, hz, List.length_append, List.length_replicate]
    have hmin : min (c :: rest).length 9 = (c :: rest).length := by omega
    refine ⟨(c :: rest).length, Nat.succ_pos _, by omega, ?_, ?_⟩
    · rw [hmin, hz, List.take_left]
    · rw [fractionUnit, hmin, show 9 - (c :: rest).length = z by omega, ← hvalue, hz,
        Digits.toNat_append_zeros]
      exact Nat.dvd_mul_left _ _

/-- No zero stands at the end, unless it is the only digit. -/
theorem fractionChars_getLast? (n : Nat) (h : (fractionChars n).getLast? = some '0') :
    fractionChars n = ['0'] := by
  have hlast := Digits.getLast?_ne_zero (Digits.padded 9 n)
  unfold fractionChars at h ⊢
  split at h
  · rfl
  · exact absurd h hlast

/-- A fraction at the end of a text, of at most 32 digits, is taken. -/
theorem takeFraction_digits (hne : cs ≠ []) (hlength : cs.length ≤ maxFractionDigits)
    (hdigits : Digits.areDigits cs = true) :
    takeFraction none cs = some (nanosOfFraction cs, []) := by
  have hfound : (cs.take maxFractionDigits).takeWhile Char.isDigit = cs := by
    rw [List.take_of_length_le hlength]
    exact List.takeWhile_eq_self_iff.2 (List.all_eq_true.1 hdigits)
  unfold takeFraction
  dsimp only
  rw [Option.getD_none, hfound, if_neg (by simpa using hne), List.drop_length]

/-! ## Fractions behind dates and times -/

/-- Date and time of day with a fraction behind a point. -/
def timestampItems : Format := dateTimeItems ++ [.literal '.', .part (.subsecond none)]

theorem read?_timestampItems :
    read? "[year]-[month]-[day] [hour]:[minute]:[second].[subsecond]" = some timestampItems := by
  rfl

/-- A date and a time of day with a fraction behind them match, and leave it beside them. -/
theorem matchItems_timestampItems {ds ts : List Char} {d : WrittenDate} {t : WrittenTime}
    (hd : SpellsDate ds d) (hdrange : d.InRange) (ht : SpellsTime ts t) (htrange : t.InRange)
    (hne : cs ≠ []) (hlength : cs.length ≤ maxFractionDigits)
    (hdigits : Digits.areDigits cs = true) (f : Fields) :
    matchItems f (ds ++ ' ' :: (ts ++ '.' :: cs)) timestampItems =
      some ({ withTime (withDate f d) t with nanosecond := some (nanosOfFraction cs) }, []) := by
  have hplain : matchItems f (ds ++ ' ' :: (ts ++ '.' :: cs)) dateTimeItems =
      some (withTime (withDate f d) t, '.' :: cs) :=
    matchItems_dateTimeItems.2 ⟨ds, ts, d, t, ⟨hd, hdrange⟩, ⟨ht, htrange⟩, rfl, rfl⟩
  rw [timestampItems, matchItems_append, hplain, Option.bind_some]
  refine matchItems_literal.2 ⟨cs, rfl, matchItems_part.2 ⟨_, [], ?_, matchItems_nil.2 ⟨rfl, rfl⟩⟩⟩
  rw [matchPart, takeFraction_digits hne hlength hdigits]
  rfl

end Format

/-! ## Instants down to a fraction digit -/

namespace Instant

/-- The instant down to a number of fraction digits: of those at or before it that have no more, the
last. -/
def floorTo (digits : Nat) (t : Instant) : Instant :=
  ⟨t.nanos / fractionUnit digits * fractionUnit digits, t.offset⟩

theorem nanosecond_lt (t : Instant) : t.nanosecond < 10 ^ 9 := by
  unfold nanosecond nanosPerSecond
  omega

theorem nanos_eq (t : Instant) : t.nanos = t.seconds * nanosPerSecond + t.nanosecond := by
  unfold seconds nanosecond nanosPerSecond
  omega

/-- Whole seconds have no fraction, so that only the nanoseconds behind them are cut. -/
theorem floorTo_nanos (digits : Nat) (t : Instant) :
    (t.floorTo digits).nanos = t.seconds * nanosPerSecond +
      (t.nanosecond / fractionUnit digits * fractionUnit digits : Nat) := by
  have hunit : (fractionUnit digits : Int) ≠ 0 :=
    Int.natCast_ne_zero.2 (Nat.pow_pos (by decide)).ne'
  have hsecond : (nanosPerSecond : Int) = 10 ^ min digits 9 * fractionUnit digits := by
    have hpow : nanosPerSecond = 10 ^ min digits 9 * fractionUnit digits := by
      rw [fractionUnit, ← Nat.pow_add, show min digits 9 + (9 - min digits 9) = 9 by omega]
      rfl
    exact_mod_cast hpow
  show t.nanos / fractionUnit digits * fractionUnit digits = _
  rw [nanos_eq t, hsecond, ← Int.mul_assoc, Int.add_comm, Int.add_mul_ediv_right _ _ hunit,
    Int.add_mul]
  push_cast
  omega

theorem floorTo_of_dvd {digits : Nat} {t : Instant} (h : fractionUnit digits ∣ t.nanosecond) :
    t.floorTo digits = t := by
  have hnanos := floorTo_nanos digits t
  rw [Nat.div_mul_cancel h, ← nanos_eq] at hnanos
  show (⟨(t.floorTo digits).nanos, t.offset⟩ : Instant) = t
  rw [hnanos]

/-- Without fraction digits an instant is cut to its second. -/
theorem floorTo_zero (t : Instant) : t.floorTo 0 = t.wholeSecond := by
  rfl

/-- What an instant shows makes it again, down to the digits that are left of its fraction. -/
theorem ofLocal_floorTo (t : Instant) (offset : Int) (digits : Nat) :
    ofLocal (t.localDate offset)
        { t.localTime offset with
          nanosecond := t.nanosecond / fractionUnit digits * fractionUnit digits } offset =
      (t.atOffset offset).floorTo digits := by
  rw [ofLocal_local_fraction]
  show _ = (⟨((t.atOffset offset).floorTo digits).nanos, offset⟩ : Instant)
  rw [floorTo_nanos]
  rfl

end Instant

end TableExchange
