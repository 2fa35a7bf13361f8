import Mathlib.Data.Sign.Basic
import TableExchange.Proofs.Cell.DoubleRange
import TableExchange.Proofs.Cell.Spellings
import TableExchange.Proofs.Number.NearestRounding

/-!
# The double of a cell

A decimal that passes the range guard is far enough from zero that the number nearest to it is zero
only if the decimal is, and far enough from the end of the range that it is finite. The guard goes by
the scales, though, where a decimal is written with too many digits to be compared with the greatest
double, and so lets some pass that are beyond the range. With these apart, no number is lost on the
way from a cell to a double: it is refused, or the nearest double is given.

* `leastDouble_le_of_passed`, `le_greatestDouble_of_passed`: what passes the guard.
* `Decimal.TooLong`, `passed_of_tooLong`: what passes without being compared.
* `Binary64.Finite.NearestTo.sign_value`: the sign of the nearest number.
* `Cell.asDouble_nearest`: the double of a cell.
* `Cell.decimal_given_as_infinity`: a decimal that passes and is given as an infinity.
-/

namespace TableExchange

/-! ## What passes the guard -/

namespace Decimal

variable {a b : Decimal}

theorem compare_of_pos (ha : 0 < a.mantissa) (hb : 0 < b.mantissa) :
    a.compare b = compareMagnitude a b := by
  rw [compare, Int.sign_eq_one_of_pos ha, Int.sign_eq_one_of_pos hb]
  simp only [compare_eq_iff_eq.2, ha.ne', if_false, ha, if_true]

end Decimal

variable {d : Decimal}

/-- The guard in terms of magnitudes. -/
theorem isDoubleOverflow_eq (hd : d.mantissa ≠ 0) : isDoubleOverflow d =
    (Decimal.compareMagnitude d.abs leastDouble == .lt ||
      Decimal.compareMagnitude d.abs greatestDouble == .gt) := by
  have hpos : 0 < d.abs.mantissa := Int.natCast_pos.2 (Int.natAbs_pos.2 hd)
  rw [isDoubleOverflow, Decimal.isZero, beq_eq_false_iff_ne.2 hd, Bool.not_false, Bool.true_and,
    Decimal.compare_of_pos hpos (by decide), Decimal.compare_of_pos hpos (by decide)]

theorem magnitude_abs (d : Decimal) : d.abs.magnitude = d.magnitude := by
  rw [Decimal.magnitude_eq, Decimal.value_abs, abs_abs, Decimal.magnitude_eq]

/-- The lower bound keeps out all that lies below it. Where the scales are too far apart to compare,
that of the decimal is the greater, and it counts as the smaller number. -/
theorem leastDouble_le_of_passed (hd : d.mantissa ≠ 0) (h : isDoubleOverflow d = false) :
    leastDouble.magnitude ≤ d.magnitude := by
  have hne : d.abs.mantissa ≠ 0 := Int.natCast_ne_zero.2 (Int.natAbs_ne_zero.2 hd)
  rw [isDoubleOverflow_eq hd, Bool.or_eq_false_iff, beq_eq_false_iff_ne] at h
  by_cases hgap : d.abs.leadingExponent = leastDouble.leadingExponent →
      (d.abs.scale - leastDouble.scale).natAbs ≤ Decimal.maxScaleGap
  · have hless := h.1
    rw [Decimal.compareMagnitude_eq_of_gap hne (by decide) hgap, Ne, compare_lt_iff_lt,
      magnitude_abs] at hless
    exact not_lt.1 hless
  · obtain ⟨hlead, hwide⟩ := Classical.not_imp.1 hgap
    have hdigits := d.abs.digitCount_pos
    have hless := h.1
    rw [Decimal.compareMagnitude_of_wide hlead (not_le.1 hwide), Ne, compare_lt_iff_lt] at hless
    have hleast := Binary64.leadingExponent_leastDouble
    rw [hleast, Decimal.leadingExponent] at hlead
    rw [show leastDouble.scale = 325 from rfl] at hless hwide
    unfold Decimal.maxScaleGap at hwide
    omega

/-- The first digit has the place that it has in the greatest double, and there are more digits than
the guard brings to one scale with it. -/
def Decimal.TooLong (d : Decimal) : Prop := d.leadingExponent = 308 ∧ 2 ^ 32 + 16 < d.digitCount

theorem Decimal.tooLong_iff : d.TooLong ↔
    d.abs.leadingExponent = greatestDouble.leadingExponent ∧
      maxScaleGap < (d.abs.scale - greatestDouble.scale).natAbs := by
  have hgreatest := Binary64.leadingExponent_greatestDouble
  have hscale : greatestDouble.scale = -292 := rfl
  have habs : d.abs.scale = d.scale := rfl
  have hdigits := d.digitCount_pos
  rw [TooLong, hgreatest, hscale, leadingExponent, leadingExponent, digitCount_abs, habs,
    maxScaleGap]
  -- a gap the other way would leave no digits
  constructor <;> rintro ⟨hlead, hwide⟩ <;> omega

/-- The upper bound keeps out all that lies above it and is compared with it. -/
theorem le_greatestDouble_of_passed (hd : d.mantissa ≠ 0) (h : isDoubleOverflow d = false)
    (hlong : ¬d.TooLong) : d.magnitude ≤ greatestDouble.magnitude := by
  have hne : d.abs.mantissa ≠ 0 := Int.natCast_ne_zero.2 (Int.natAbs_ne_zero.2 hd)
  rw [isDoubleOverflow_eq hd, Bool.or_eq_false_iff, beq_eq_false_iff_ne, beq_eq_false_iff_ne] at h
  have hless := h.2
  rw [Decimal.compareMagnitude_eq_of_gap hne (by decide), Ne, compare_gt_iff_gt,
    magnitude_abs] at hless
  · exact not_lt.1 hless
  · intro hlead
    exact not_lt.1 fun hwide => hlong (Decimal.tooLong_iff.2 ⟨hlead, hwide⟩)

/-- What is not compared passes, since it has the greater scale. -/
theorem passed_of_tooLong (hd : d.mantissa ≠ 0) (h : d.TooLong) : isDoubleOverflow d = false := by
  obtain ⟨hlead, hwide⟩ := Decimal.tooLong_iff.1 h
  have hgreatest := Binary64.leadingExponent_greatestDouble
  have hleast := Binary64.leadingExponent_leastDouble
  have hlow : Decimal.compareMagnitude d.abs leastDouble = .gt := by
    rw [Decimal.compareMagnitude, if_neg (by omega), compare_gt_iff_gt]
    omega
  have hhigh : Decimal.compareMagnitude d.abs greatestDouble = .lt := by
    have hscale : (-292 : Int) < d.scale := by
      have hexponent := h.1
      have hdigits := h.2
      unfold Decimal.leadingExponent at hexponent
      omega
    rw [Decimal.compareMagnitude_of_wide hlead hwide, compare_lt_iff_lt]
    exact hscale
  rw [isDoubleOverflow_eq hd, hlow, hhigh]
  rfl

/-- Half of the least magnitude is below the one bound, and the end of the range above the other. -/
theorem bounds_within : (2 : ℚ) ^ (-1075 : Int) < leastDouble.magnitude ∧
    greatestDouble.magnitude < Binary64.overflowBound := by
  constructor
  · have hnat : 10 ^ 325 < 49 * 2 ^ 1075 := by decide +kernel
    have hcast : (10 ^ 325 : ℚ) < 49 * 2 ^ 1075 := by exact_mod_cast hnat
    have hten : (0 : ℚ) < 10 ^ 325 := pow_pos (by norm_num) _
    have htwo : (0 : ℚ) < 2 ^ 1075 := pow_pos (by norm_num) _
    rw [Binary64.leastDouble_magnitude, show (-1075 : Int) = -(1075 : Nat) from rfl, zpow_neg,
      zpow_natCast, ← one_div, div_lt_div_iff₀ htwo hten, one_mul]
    exact hcast
  · have hnat : 17976931348623157 * 10 ^ 292 + 2 ^ 970 < 2 ^ 1024 := by decide +kernel
    have hcast : (17976931348623157 * 10 ^ 292 + 2 ^ 970 : ℚ) < 2 ^ 1024 := by exact_mod_cast hnat
    rw [Binary64.greatestDouble_magnitude, Binary64.overflowBound]
    exact lt_sub_iff_add_lt.2 hcast

namespace Binary64

variable {x : Finite} {q : ℚ}

/-- Beyond half of the least magnitude the nearest number is not zero: the least magnitude with the
same sign is nearer. -/
theorem Finite.NearestTo.magnitude_ne_zero (h : x.NearestTo q)
    (hq : (2 : ℚ) ^ (-1075 : Int) < |q|) : x.magnitude ≠ 0 := by
  intro hzero
  have hvalue : x.value = 0 := abs_eq_zero.1 (x.abs_value.trans hzero)
  have hleast := h.nearest ⟨decide (q < 0), 1, -1074, by decide⟩
  have hpos : (0 : ℚ) < 2 ^ (-1075 : Int) := zpow_pos (by norm_num) _
  have hstep : (2 : ℚ) ^ (-1074 : Int) = 2 * 2 ^ (-1075 : Int) := by
    rw [← two_zpow_succ]
    rfl
  generalize (2 : ℚ) ^ (-1075 : Int) = half at *
  by_cases hsign : q < 0
  · have hy : Finite.value ⟨decide (q < 0), 1, -1074, by decide⟩ = -(2 * half) := by
      rw [Finite.value, if_pos (decide_eq_true hsign), ← hstep, Finite.magnitude, Nat.cast_one,
        one_mul, Finite.ulp]
    rw [hvalue, hy, abs_sub_le_iff] at hleast
    rw [abs_of_neg hsign] at hq
    have hside := nonneg_of_mul_nonneg_right hleast (by linarith)
    linarith
  · have hy : Finite.value ⟨decide (q < 0), 1, -1074, by decide⟩ = 2 * half := by
      rw [Finite.value, if_neg (mt of_decide_eq_true hsign), ← hstep, Finite.magnitude,
        Nat.cast_one, one_mul, Finite.ulp]
    rw [hvalue, hy, abs_sub_le_iff] at hleast
    rw [abs_of_nonneg (not_lt.1 hsign)] at hq
    have hside := le_of_not_gt fun hgt =>
      (mul_neg_of_neg_of_pos (by linarith : 0 - 2 * half < 0) hgt).not_ge hleast
    linarith

/-- So it has the sign of the number. -/
theorem Finite.NearestTo.sign_value (h : x.NearestTo q) (hq : (2 : ℚ) ^ (-1075 : Int) < |q|) :
    SignType.sign x.value = SignType.sign q := by
  have hpos := lt_of_le_of_ne x.magnitude_nonneg (h.magnitude_ne_zero hq).symm
  have hne : q ≠ 0 := abs_pos.1 ((zpow_pos (by norm_num) _).trans hq)
  have hsign := h.sign
  unfold Finite.value
  split
  · next hneg =>
    rw [hneg, eq_comm, decide_eq_true_iff] at hsign
    rw [sign_neg (neg_neg_of_pos hpos), sign_neg hsign]
  · next hneg =>
    rw [Bool.not_eq_true] at hneg
    rw [hneg, eq_comm, decide_eq_false_iff_not] at hsign
    rw [sign_pos hpos, sign_pos (lt_of_le_of_ne (not_lt.1 hsign) hne.symm)]

theorem Finite.NearestTo.value_eq_zero (h : x.NearestTo 0) : x.value = 0 := by
  have hzero : Finite.value ⟨false, 0, -1074, by decide⟩ = 0 := by
    rw [Finite.value, if_neg Bool.false_ne_true, Finite.magnitude, Nat.cast_zero, zero_mul]
  have hle := h.nearest ⟨false, 0, -1074, by decide⟩
  rw [hzero, zero_sub, abs_neg, sub_zero, abs_zero] at hle
  exact abs_nonpos_iff.1 hle

/-- What a number rounds to is finite, or an infinity from the end of the range on. -/
theorem RoundsTo.finite_iff {x : Binary64} (h : RoundsTo q x) :
    (∃ f, x = .finite f) ↔ |q| < overflowBound := by
  cases x with
  | finite f => exact iff_of_true ⟨f, rfl⟩ h.1
  | infinity negative =>
    obtain ⟨hbeyond, -⟩ := h
    exact iff_of_false (fun ⟨_, hf⟩ => Binary64.noConfusion hf) (not_lt.2 hbeyond)
  | nan => exact h.elim

end Binary64

namespace Cell

/-- The decimal that a cell holds as a number: an integer, or a literal in a text. -/
inductive HoldsDecimal (c : Cell) : Decimal → Prop
  | long {n : Int} (h : c.value = .long (some n)) : HoldsDecimal c (.ofInt n)
  | text {text : String} {d : Decimal} (h : c.HoldsText text) (hparse : Decimal.parse text = .ok d) :
    HoldsDecimal c d

variable {c : Cell} {d : Decimal} {x : Binary64}

theorem asDouble_of_decimal (h : c.HoldsDecimal d) :
    c.asDouble = .given (isDoubleOverflow d = false) (Binary64.ofDecimal d)
      (.ofText d.preview .double) := by
  cases h with
  | long h => rw [asDouble, h, ← map_doubleOfValue]
  | text h hparse => exact asDouble_of_parse h hparse

/-- What passes the guard is rounded to a number with the sign of the decimal. -/
theorem sign_of_passed {f : Binary64.Finite} (hpassed : isDoubleOverflow d = false)
    (hf : Binary64.RoundsTo d.value (.finite f)) :
    SignType.sign f.value = SignType.sign d.value := by
  by_cases hzero : d.mantissa = 0
  · rw [(Decimal.mantissa_eq_zero_iff d).1 hzero] at hf ⊢
    rw [hf.2.value_eq_zero]
  · have hleast := leastDouble_le_of_passed hzero hpassed
    rw [Decimal.magnitude_eq d] at hleast
    exact hf.2.sign_value (bounds_within.1.trans_le hleast)

/-- What passes the guard is within the range, unless it is not compared. -/
theorem lt_overflowBound_of_passed (hpassed : isDoubleOverflow d = false) :
    |d.value| < Binary64.overflowBound ↔
      ¬(d.TooLong ∧ Binary64.overflowBound ≤ |d.value|) := by
  refine ⟨fun h hlong => h.not_ge hlong.2, fun h => lt_of_not_ge fun hbeyond => ?_⟩
  have hne : d.mantissa ≠ 0 := by
    intro hzero
    rw [(Decimal.mantissa_eq_zero_iff d).1 hzero, abs_zero] at hbeyond
    exact hbeyond.not_gt Binary64.overflowBound_pos
  have hgreatest := le_greatestDouble_of_passed hne hpassed fun hlong => h ⟨hlong, hbeyond⟩
  rw [Decimal.magnitude_eq d] at hgreatest
  exact (hgreatest.trans_lt bounds_within.2).not_ge hbeyond

/-! ## Special doubles -/

/-- The doubles that no decimal stands for, by their words. -/
def specialDoubles : List (String × Binary64) :=
  [(nanWord, .nan), (infinityWord, .infinity false), (negInfinityWord, .infinity true)]

theorem asDouble_of_special {special : String × Binary64} (hmem : special ∈ specialDoubles)
    (h : c.HoldsText special.1) : c.asDouble = .ok (some special.2) := by
  rw [asDouble_of_text h]
  simp only [specialDoubles, List.mem_cons, List.not_mem_nil, or_false] at hmem
  rcases hmem with rfl | rfl | rfl <;> rfl

/-- A text that gives a double is a special word or a literal. -/
theorem content_cases {text : String} (h : c.doubleOfContent text = .ok x) :
    (text, x) ∈ specialDoubles ∨ ∃ d, Decimal.parse text = .ok d := by
  unfold doubleOfContent at h
  split at h
  · next hword =>
    cases h
    rw [hword]
    exact .inl (by decide)
  · split at h
    · next hword =>
      cases h
      rw [hword]
      exact .inl (by decide)
    · split at h
      · next hword =>
        cases h
        rw [hword]
        exact .inl (by decide)
      · obtain ⟨d, hd, -⟩ := bind_eq_ok.1 h
        exact .inr ⟨d, (decimalOfText_eq_ok.1 hd).2⟩

/-- What a cell holds that gives a double: a truth value, a special word or a decimal. -/
theorem asDouble_cases (h : c.asDouble = .ok (some x)) :
    (∃ b, x = Binary64.ofInt (bit b)) ∨ (∃ text, (text, x) ∈ specialDoubles ∧ c.HoldsText text) ∨
      ∃ d, c.HoldsDecimal d := by
  have htext : ∀ text, c.HoldsText text → (∃ text, (text, x) ∈ specialDoubles ∧ c.HoldsText text) ∨
      ∃ d, c.HoldsDecimal d := by
    intro text hholds
    rw [asDouble_of_text hholds, map_some_eq_ok] at h
    exact (content_cases h).imp (fun hmem => ⟨text, hmem, hholds⟩)
      fun ⟨d, hparse⟩ => ⟨d, .text hholds hparse⟩
  cases hvalue : c.value with
  | bool b =>
    cases b with
    | none => simp [asDouble, hvalue] at h
    | some b =>
      rw [asDouble, hvalue] at h
      cases h
      exact .inl ⟨b, rfl⟩
  | long n =>
    cases n with
    | none => simp [asDouble, hvalue] at h
    | some n => exact .inr (.inr ⟨_, .long hvalue⟩)
  | double text =>
    cases text with
    | none => simp [asDouble, hvalue] at h
    | some text => exact .inr (htext text (.inl hvalue))
  | string text =>
    cases text with
    | none => simp [asDouble, hvalue] at h
    | some text => exact .inr (htext text (.inr hvalue))
  | bytes _ | date _ | timestamp _ => simp [asDouble, hvalue] at h

/-- **No number is lost on the way to a double.** A cell that holds a decimal is refused as an
overflow exactly if the range guard refuses the decimal. Otherwise it gives the double nearest to the
decimal, of two the one with the even significand; that is zero only if the decimal is, and else has
its sign. It is finite, unless the decimal is beyond the range and has too many digits to be
compared. Any other double that is not finite is given for its own word alone. -/
theorem asDouble_nearest (c : Cell) :
    (∀ d, c.HoldsDecimal d →
      if isDoubleOverflow d then c.asDouble = .error (.overflow (.ofText d.preview .double))
      else ∃ x, c.asDouble = .ok (some x) ∧ Binary64.RoundsTo d.value x ∧
        (∀ f, x = .finite f → SignType.sign f.value = SignType.sign d.value) ∧
        ((∃ f, x = .finite f) ↔ ¬(d.TooLong ∧ Binary64.overflowBound ≤ |d.value|))) ∧
    (∀ special ∈ specialDoubles, c.HoldsText special.1 → c.asDouble = .ok (some special.2)) ∧
    ∀ x, c.asDouble = .ok (some x) → (∃ f, x = .finite f) ∨
      (∃ text, (text, x) ∈ specialDoubles ∧ c.HoldsText text) ∨
      ∃ d, c.HoldsDecimal d ∧ Binary64.RoundsTo d.value x ∧ d.TooLong := by
  have hgiven : ∀ d, c.HoldsDecimal d → isDoubleOverflow d = false →
      c.asDouble = .ok (some (Binary64.ofDecimal d)) := fun d hd hpassed => by
    rw [asDouble_of_decimal hd, Converted.given, if_pos hpassed]
  have hfinite : ∀ d, isDoubleOverflow d = false → ((∃ f, Binary64.ofDecimal d = .finite f) ↔
      ¬(d.TooLong ∧ Binary64.overflowBound ≤ |d.value|)) := fun d hpassed =>
    (Binary64.ofDecimal_roundsTo d).finite_iff.trans (lt_overflowBound_of_passed hpassed)
  refine ⟨fun d hd => ?_, fun special hmem h => asDouble_of_special hmem h, fun x h => ?_⟩
  · split
    · next hrefused =>
      rw [asDouble_of_decimal hd, Converted.given, hrefused, if_neg (by decide)]
    · next hpassed =>
      rw [Bool.not_eq_true] at hpassed
      have hrounds := Binary64.ofDecimal_roundsTo d
      exact ⟨_, hgiven d hd hpassed, hrounds, fun f hf => sign_of_passed hpassed (hf ▸ hrounds),
        hfinite d hpassed⟩
  · rcases asDouble_cases h with ⟨b, rfl⟩ | hspecial | ⟨d, hd⟩
    · cases b <;> exact .inl ⟨_, rfl⟩
    · exact .inr (.inl hspecial)
    · cases hguard : isDoubleOverflow d with
      | true => simp [asDouble_of_decimal hd, Converted.given, hguard] at h
      | false =>
        obtain rfl : Binary64.ofDecimal d = x := by simpa [h] using (hgiven d hd hguard).symm
        by_cases hlong : d.TooLong
        · exact .inr (.inr ⟨d, hd, Binary64.ofDecimal_roundsTo d, hlong⟩)
        · exact .inl ((hfinite d hguard).2 fun hboth => hlong hboth.1)

/-- The integer after `2 ^ 53` lies half way between two doubles. -/
theorem asDouble_nearest_halfWay :
    (long (some (2 ^ 53 + 1))).HoldsDecimal (.ofInt (2 ^ 53 + 1)) ∧
    isDoubleOverflow (.ofInt (2 ^ 53 + 1)) = false ∧
    (long (some (2 ^ 53 + 1))).asDouble =
      .ok (some (.finite ⟨false, Binary64.leadingBit, 1, by decide⟩)) ∧
    Binary64.RoundsTo (Decimal.ofInt (2 ^ 53 + 1)).value
      (.finite ⟨false, Binary64.leadingBit, 1, by decide⟩) ∧
    (string (some "-Infinity")).asDouble = .ok (some (.infinity true)) := by
  have hholds : (long (some (2 ^ 53 + 1))).HoldsDecimal (.ofInt (2 ^ 53 + 1)) := .long rfl
  have hguard : isDoubleOverflow (.ofInt (2 ^ 53 + 1)) = false := by decide
  have hgiven : (long (some (2 ^ 53 + 1))).asDouble =
      .ok (some (.finite ⟨false, Binary64.leadingBit, 1, by decide⟩)) := by decide
  have hnearest := (asDouble_nearest (long (some (2 ^ 53 + 1)))).1 _ hholds
  rw [if_neg (by rw [hguard]; exact Bool.false_ne_true)] at hnearest
  obtain ⟨x, hx, hrounds, -⟩ := hnearest
  obtain rfl : x = .finite ⟨false, Binary64.leadingBit, 1, by decide⟩ :=
    Option.some.inj (Except.ok.inj (hx.symm.trans hgiven))
  exact ⟨hholds, hguard, hgiven, hrounds,
    (asDouble_nearest (string (some "-Infinity"))).2.1 (negInfinityWord, .infinity true) (by decide)
      (.inr rfl)⟩

/-! ## What is not compared -/

/-- The literal of `2 · 10 ^ 308` with zeros behind the point. -/
def longLiteral (zeros : Nat) : DecimalLiteral :=
  ⟨false, '2' :: List.replicate 308 '0', List.replicate zeros '0', 0⟩

def longText (zeros : Nat) : String :=
  String.ofList ('2' :: List.replicate 308 '0' ++ '.' :: List.replicate zeros '0')

variable {zeros : Nat}

theorem spells_longText : (longLiteral zeros).Spells (longText zeros).toList := by
  have hdigits : Digits.isNumeral ('2' :: List.replicate 308 '0' ++ List.replicate zeros '0') =
      true := by
    rw [List.cons_append, List.replicate_append_replicate]
    exact (Digits.isNumeral_append (List.cons_ne_nil '2' [])).2
      ⟨rfl, Digits.areDigits_replicate_zero _⟩
  refine ⟨[], _, [], ?_, .missing, .pointed hdigits, .missing⟩
  rw [longText, String.toList_ofList, List.nil_append, List.append_nil]
  rfl

theorem value_longLiteral : (longLiteral zeros).decimal.value = 2 * 10 ^ 308 := by
  have htwo : Digits.toNat ['2'] = 2 := rfl
  have hwhole := Digits.toNat_append_zeros ['2'] 308
  rw [htwo, List.singleton_append] at hwhole
  rw [DecimalLiteral.value_decimal]
  show 1 * (((Digits.toNat ('2' :: List.replicate 308 '0') : Nat) : ℚ) +
    (Digits.toNat (List.replicate zeros '0') : Nat) / _) * 10 ^ (0 : Int) = _
  rw [hwhole, Digits.toNat_replicate_zero, Nat.cast_zero, zero_div, add_zero, zpow_zero, one_mul,
    mul_one, Nat.cast_mul, Nat.cast_pow, Nat.cast_ofNat, Nat.cast_ofNat]

/-- The number is beyond the range. -/
theorem overflowBound_le : Binary64.overflowBound ≤ (2 * 10 ^ 308 : ℚ) := by
  have hnat : 2 ^ 1024 ≤ 2 * 10 ^ 308 + 2 ^ 970 := by decide +kernel
  have hcast : (2 ^ 1024 : ℚ) ≤ 2 * 10 ^ 308 + 2 ^ 970 := by exact_mod_cast hnat
  exact sub_le_iff_le_add.2 hcast

theorem longLiteral_ne_zero : (longLiteral zeros).decimal.mantissa ≠ 0 := by
  rw [Ne, Decimal.mantissa_eq_zero_iff, value_longLiteral]
  exact (Binary64.overflowBound_pos.trans_le overflowBound_le).ne'

theorem tooLong_longLiteral (h : 4294967004 ≤ zeros) : (longLiteral zeros).decimal.TooLong := by
  have hlead : (longLiteral zeros).decimal.leadingExponent = 308 := by
    have hpow : (10 : ℚ) ^ (308 : Int) = 10 ^ 308 := zpow_natCast 10 308
    have hpos : (0 : ℚ) < 10 ^ 308 := pow_pos (by norm_num) _
    rw [Decimal.leadingExponent_eq_iff longLiteral_ne_zero, Decimal.magnitude_eq,
      value_longLiteral, zpow_add_one₀ (by norm_num), hpow]
    generalize (10 : ℚ) ^ 308 = place at hpos
    rw [abs_of_pos (by linarith)]
    constructor <;> linarith
  have hscale : (longLiteral zeros).decimal.scale = zeros := by
    show ((List.replicate zeros '0').length : Int) - 0 = zeros
    rw [List.length_replicate, sub_zero]
  have hexponent := hlead
  rw [Decimal.leadingExponent, hscale] at hexponent
  exact ⟨hlead, by omega⟩

theorem holdsDecimal_longText :
    (string (some (longText zeros))).HoldsDecimal (longLiteral zeros).decimal :=
  .text (.inr rfl) (Decimal.parse_eq_ok.2 ⟨_, spells_longText, Nat.zero_le _, rfl⟩)

/-- With enough zeros the guard lets it pass, and it is rounded to an infinity. -/
theorem asDouble_longText (h : 4294967004 ≤ zeros) :
    isDoubleOverflow (longLiteral zeros).decimal = false ∧
      (string (some (longText zeros))).asDouble = .ok (some (.infinity false)) := by
  have hpassed := passed_of_tooLong longLiteral_ne_zero (tooLong_longLiteral h)
  have hpos := Binary64.overflowBound_pos.trans_le overflowBound_le
  have hrounds := Binary64.ofDecimal_roundsTo (longLiteral zeros).decimal
  refine ⟨hpassed, ?_⟩
  rw [asDouble_of_decimal holdsDecimal_longText, Converted.given, if_pos hpassed]
  rw [value_longLiteral] at hrounds
  generalize Binary64.ofDecimal (longLiteral zeros).decimal = x at hrounds
  cases x with
  | finite f =>
    rw [Binary64.RoundsTo, abs_of_pos hpos] at hrounds
    exact absurd hrounds.1 overflowBound_le.not_gt
  | infinity negative =>
    obtain ⟨-, rfl⟩ := hrounds
    rw [decide_eq_false hpos.not_gt]
  | nan => exact hrounds.elim

/-- The shortest of these texts that is too long gives an infinity, although its decimal passes the
guard. And a literal whose exponent is too wide to be read is no overflow, although its number is
beyond the range. -/
theorem decimal_given_as_infinity :
    (∃ d, (string (some (longText 4294967004))).HoldsDecimal d ∧ d.value = 2 * 10 ^ 308 ∧
      isDoubleOverflow d = false ∧
      (string (some (longText 4294967004))).asDouble = .ok (some (.infinity false))) ∧
    let wide : DecimalLiteral := ⟨false, ['1'], [], 1000000001⟩
    wide.Spells "1e1000000001".toList ∧ isDoubleOverflow wide.decimal = true ∧
      (string (some "1e1000000001")).asDouble =
        .error (.conversionNotSupported .string .double "1e1000000001") :=
  have hdigits : Digits.isNumeral "1000000001".toList = true := rfl
  have hspells : DecimalLiteral.SpellsExponent 1000000001 "e1000000001".toList :=
    .marked (.inl rfl) .missing hdigits
  ⟨⟨_, holdsDecimal_longText, value_longLiteral, asDouble_longText le_rfl⟩,
    ⟨[], ['1'], _, rfl, .missing, .whole rfl, hspells⟩, by decide, rfl⟩

end Cell

end TableExchange
