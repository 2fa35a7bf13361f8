import TableExchange.Proofs.Cell.NumericViews
import TableExchange.Proofs.Number.DecimalOrder
import TableExchange.Proofs.Number.LiteralReading
import TableExchange.Proofs.Number.Rounding

/-!
# One number, spelled in two ways

What the conversions of two cells have in common if their texts are two spellings of one number,
such as `1500` and `1.50e3`.

* `Converted.EndAlike`: two conversions give equal results, or fail for the same reason.
* `Decimal.hasIntegerPart_iff`: the limit on the digits of an integer binds only the spellings
  without a positive scale.
* `Cell.endAlike_of_value_eq`: which conversions of two spellings end alike, and when.
-/

namespace TableExchange

/-! ## Ending alike -/

/-- Two errors are of one kind: the same thing went wrong on the way to the same type. -/
inductive CellError.SameKind : CellError → CellError → Prop
  | conversionNotSupported {source source' : CellKind} {target : Target} {p p' : String} :
    SameKind (.conversionNotSupported source target p) (.conversionNotSupported source' target p')
  | overflow {p p' : String} {target : Target} :
    SameKind (.overflow ⟨p, target⟩) (.overflow ⟨p', target⟩)
  | rowShape {values columns values' columns' : Nat} :
    SameKind (.rowShape values columns) (.rowShape values' columns')

/-- Two conversions both give a value, and these are the same, or fail with errors of one kind. -/
inductive Converted.EndAlike {α : Type} (same : α → α → Prop) : Converted α → Converted α → Prop
  | ok {a b : α} (h : same a b) : EndAlike same (.ok (some a)) (.ok (some b))
  | error {e e' : CellError} (h : e.SameKind e') : EndAlike same (.error e) (.error e')

/-- A conversion that gives a value under a condition, and else is an overflow. -/
def Converted.given {α : Type} (p : Prop) [Decidable p] (a : α) (e : Overflow) : Converted α :=
  if p then .ok (some a) else .error (.overflow e)

theorem Converted.endAlike_given {α : Type} {same : α → α → Prop} {p q : Prop} [Decidable p]
    [Decidable q] {a b : α} {e e' : Overflow} (htarget : e.target = e'.target) (h : same a b) :
    EndAlike same (given p a e) (given q b e') ↔ (p ↔ q) := by
  obtain ⟨preview, target⟩ := e
  obtain ⟨preview', target'⟩ := e'
  obtain rfl : target = target' := htarget
  unfold given
  by_cases hp : p <;> by_cases hq : q
  · rw [if_pos hp, if_pos hq]
    exact iff_of_true (.ok h) (iff_of_true hp hq)
  · rw [if_pos hp, if_neg hq]
    refine iff_of_false ?_ (fun hiff => hq (hiff.1 hp))
    intro halike
    cases halike
  · rw [if_neg hp, if_pos hq]
    refine iff_of_false ?_ (fun hiff => hp (hiff.2 hq))
    intro halike
    cases halike
  · rw [if_neg hp, if_neg hq]
    exact iff_of_true (.error .overflow) (iff_of_false hp hq)

/-! ## Integer parts of spellings -/

/-- A number is less than one more than its integer part, either way from zero. -/
theorem abs_lt_towardZero_add_one (q : ℚ) : |q| < |(towardZero q : ℚ)| + 1 := by
  by_cases h : 0 ≤ q
  · rw [towardZero, if_pos h, abs_of_nonneg h]
    exact (Int.lt_floor_add_one q).trans_le (add_le_add_left (le_abs_self _) 1)
  · rw [towardZero, if_neg h, abs_of_neg (not_le.1 h)]
    have hceil := Int.ceil_lt_add_one q
    have habs := neg_le_abs (⌈q⌉ : ℚ)
    linarith

namespace Decimal

variable {d : Decimal}

/-- Of a scale that is not too wide, the integer part is taken if the scale is positive, however
many digits the integer has, and else if it has no more digits than the limit. -/
theorem hasIntegerPart_iff (hscale : d.scale.natAbs ≤ maxIntegerScale) :
    d.HasIntegerPart ↔ 0 < d.scale ∨ |d.value| < 10 ^ maxIntegerDigits := by
  rw [← magnitude_eq]
  by_cases hzero : d.mantissa = 0
  · have hmagnitude : d.magnitude < 10 ^ maxIntegerDigits := by
      rw [magnitude, hzero, Int.natAbs_zero, Nat.cast_zero, zero_mul]
      exact pow_pos (by norm_num) _
    exact iff_of_true (.inl hzero) (.inr hmagnitude)
  · by_cases hsign : 0 < d.scale
    · exact iff_of_true (.inr ⟨hscale, fun h => absurd hsign (not_lt.2 h)⟩) (.inl hsign)
    · have hpos : 0 < d.magnitude := (tenPow_pos _).trans_le (tenPow_le_magnitude hzero)
      have hlog := Int.lt_zpow_iff_log_lt (b := 10) (x := maxIntegerDigits) (by decide) hpos
      rw [← leadingExponent_eq hzero, zpow_natCast, Nat.cast_ofNat] at hlog
      rw [HasIntegerPart, or_iff_right hzero, or_iff_right hsign, hlog, leadingExponent]
      omega

end Decimal

/-- Whether a number is out of the range of doubles does not depend on its spelling. -/
theorem isDoubleOverflow_congr {a b : Decimal} (ha : a.digitCount < 2 ^ 32)
    (hb : b.digitCount < 2 ^ 32) (hvalue : a.value = b.value) :
    isDoubleOverflow a = isDoubleOverflow b := by
  have hzero : a.isZero = b.isZero := by
    rw [Decimal.isZero, Decimal.isZero, Bool.eq_iff_iff, beq_iff_eq, beq_iff_eq,
      Decimal.mantissa_eq_zero_iff, Decimal.mantissa_eq_zero_iff, hvalue]
  have hcompare : ∀ {bound : Decimal}, bound.digitCount < 2 ^ 32 →
      a.abs.compare bound = b.abs.compare bound := by
    intro bound hbound
    rw [← Decimal.digitCount_abs] at ha hb
    rw [Decimal.compare_eq ha hbound, Decimal.compare_eq hb hbound, Decimal.value_abs,
      Decimal.value_abs, hvalue]
  rw [isDoubleOverflow, isDoubleOverflow, hzero, hcompare (by decide), hcompare (by decide)]

namespace Cell

variable {c : Cell} {text : String} {d : Decimal}

/-! ## Conversions of a text that is read -/

theorem decimalOfText_of_parse (hparse : Decimal.parse text = .ok d) (target : Target) :
    c.decimalOfText text target = .ok d :=
  decimalOfText_eq_ok.2 ⟨not_mem_specialWords hparse, hparse⟩

theorem integerOfText_of_parse (hparse : Decimal.parse text = .ok d) (target : Target) :
    c.integerOfText text target = if d.HasIntegerPart then .ok (towardZero d.value)
      else .error (.overflow (.ofText text target)) := by
  rw [integerOfText, decimalOfText_of_parse hparse]
  by_cases h : d.HasIntegerPart
  · rw [if_pos h]
    simp only [bind, Except.bind, Decimal.toInteger?_of_hasIntegerPart h]
  · rw [if_neg h]
    simp only [bind, Except.bind, Decimal.toInteger?_eq_none h]

theorem asBigInteger_of_parse (h : c.HoldsText text) (hparse : Decimal.parse text = .ok d) :
    c.asBigInteger =
      .given d.HasIntegerPart (towardZero d.value) (.ofText text .bigInteger) := by
  rw [asBigInteger_of_text h, integerOfText_of_parse hparse, Converted.given]
  split <;> rfl

theorem asLong_of_parse (h : c.HoldsText text) (hparse : Decimal.parse text = .ok d) :
    ∃ preview, c.asLong = .given (d.HasIntegerPart ∧ isLong (towardZero d.value) = true)
      (towardZero d.value) ⟨preview, .long⟩ := by
  by_cases hsome : ∃ n, c.asLong = .ok (some n)
  · obtain ⟨n, hn⟩ := hsome
    obtain ⟨hinteger, hlong⟩ := (asLong_eq_ok h).1 hn
    obtain ⟨d', hd', hpart, rfl⟩ := (asBigInteger_eq_ok h).1 hinteger
    obtain rfl : d' = d := by
      simpa using ((asBigDecimal_eq_ok h).1 hd').2.symm.trans hparse
    refine ⟨"", ?_⟩
    rw [hn, Converted.given, if_pos ⟨hpart, isLong_iff.2 hlong⟩]
  · obtain ⟨preview, hoverflow⟩ := asLong_overflow h hparse fun n hn => hsome ⟨n, hn⟩
    refine ⟨preview, ?_⟩
    rw [hoverflow, Converted.given, if_neg]
    rintro ⟨hpart, hlong⟩
    refine hsome ⟨towardZero d.value, (asLong_eq_ok h).2 ⟨?_, isLong_iff.1 hlong⟩⟩
    rw [asBigInteger_of_parse h hparse, Converted.given, if_pos hpart]

theorem asDouble_of_text (h : c.HoldsText text) :
    c.asDouble = (c.doubleOfContent text).map some := by
  rcases h with h | h <;> rw [asDouble, h]

theorem doubleOfContent_of_parse (hparse : Decimal.parse text = .ok d) :
    c.doubleOfContent text = doubleOfValue d := by
  have hword := not_mem_specialWords hparse
  simp only [specialWords, List.mem_cons, List.not_mem_nil, or_false, not_or] at hword
  rw [doubleOfContent, if_neg hword.1, if_neg hword.2.1, if_neg hword.2.2,
    decimalOfText_of_parse hparse]
  rfl

theorem map_doubleOfValue (d : Decimal) : (doubleOfValue d).map some =
    Converted.given (isDoubleOverflow d = false) (Binary64.ofDecimal d)
      (.ofText d.preview .double) := by
  rw [doubleOfValue, checkDouble, Converted.given]
  cases isDoubleOverflow d <;> rfl

theorem asDouble_of_parse (h : c.HoldsText text) (hparse : Decimal.parse text = .ok d) :
    c.asDouble = .given (isDoubleOverflow d = false) (Binary64.ofDecimal d)
      (.ofText d.preview .double) := by
  rw [asDouble_of_text h, doubleOfContent_of_parse hparse, map_doubleOfValue]

/-! ## Two spellings -/

/-- Of a spelling that is not too long, the integer part is taken if it is a 64-bit integer. -/
theorem hasIntegerPart_of_isLong (hscale : d.scale.natAbs ≤ Decimal.maxIntegerScale)
    (hlong : isLong (towardZero d.value) = true) : d.HasIntegerPart := by
  obtain ⟨hlow, hhigh⟩ := isLong_iff.1 hlong
  have habs : |(towardZero d.value : ℚ)| ≤ 2 ^ 63 := by
    rw [abs_le]
    exact ⟨by exact_mod_cast hlow, by exact_mod_cast hhigh.le⟩
  refine (Decimal.hasIntegerPart_iff hscale).2 (.inr ?_)
  calc |d.value| < |(towardZero d.value : ℚ)| + 1 := abs_lt_towardZero_add_one d.value
    _ ≤ 10 ^ 19 := by
        norm_num at habs ⊢
        linarith
    _ ≤ 10 ^ Decimal.maxIntegerDigits := pow_le_pow_right₀ (by norm_num) (by decide)

/-- **What a number is converted to depends on its spelling in one case.** Two cells hold spellings
of one number. Both have it as a decimal. As integers of any size they end alike just where neither
or both of the spellings have an integer part; as 64-bit integers also wherever the integer is not
one of these, and as doubles where both or neither overflow. If the spellings have at most three
billion characters, the cells end alike as 64-bit integers and as doubles in any case, and as
integers of any size unless the number has more than 4096 digits before the point and just one of
the spellings has a positive scale: that one is converted, and the other is an overflow. -/
theorem endAlike_of_value_eq (c₁ c₂ : Cell) (t₁ t₂ : String) (d₁ d₂ : Decimal)
    (h₁ : c₁.HoldsText t₁) (h₂ : c₂.HoldsText t₂) (hparse₁ : Decimal.parse t₁ = .ok d₁)
    (hparse₂ : Decimal.parse t₂ = .ok d₂) (hvalue : d₁.value = d₂.value) :
    Converted.EndAlike (fun a b => a.value = b.value) c₁.asBigDecimal c₂.asBigDecimal ∧
    (Converted.EndAlike (· = ·) c₁.asBigInteger c₂.asBigInteger ↔
      (d₁.HasIntegerPart ↔ d₂.HasIntegerPart)) ∧
    (Converted.EndAlike (· = ·) c₁.asLong c₂.asLong ↔
      (isLong (towardZero d₁.value) = true → (d₁.HasIntegerPart ↔ d₂.HasIntegerPart))) ∧
    (Converted.EndAlike (· = ·) c₁.asDouble c₂.asDouble ↔
      isDoubleOverflow d₁ = isDoubleOverflow d₂) ∧
    (t₁.length ≤ 3 * 10 ^ 9 → t₂.length ≤ 3 * 10 ^ 9 →
      Converted.EndAlike (· = ·) c₁.asLong c₂.asLong ∧
      Converted.EndAlike (· = ·) c₁.asDouble c₂.asDouble ∧
      (Converted.EndAlike (· = ·) c₁.asBigInteger c₂.asBigInteger ↔
        |d₁.value| < 10 ^ Decimal.maxIntegerDigits ∨ (0 < d₁.scale ↔ 0 < d₂.scale))) := by
  have hinteger : Converted.EndAlike (· = ·) c₁.asBigInteger c₂.asBigInteger ↔
      (d₁.HasIntegerPart ↔ d₂.HasIntegerPart) := by
    rw [asBigInteger_of_parse h₁ hparse₁, asBigInteger_of_parse h₂ hparse₂]
    exact Converted.endAlike_given rfl (by rw [hvalue])
  have hlong : Converted.EndAlike (· = ·) c₁.asLong c₂.asLong ↔
      (isLong (towardZero d₁.value) = true → (d₁.HasIntegerPart ↔ d₂.HasIntegerPart)) := by
    obtain ⟨preview₁, hlong₁⟩ := asLong_of_parse h₁ hparse₁
    obtain ⟨preview₂, hlong₂⟩ := asLong_of_parse h₂ hparse₂
    rw [hlong₁, hlong₂, ← hvalue, ← and_congr_left_iff]
    exact Converted.endAlike_given rfl rfl
  have hdouble : Converted.EndAlike (· = ·) c₁.asDouble c₂.asDouble ↔
      isDoubleOverflow d₁ = isDoubleOverflow d₂ := by
    have hguard : Converted.EndAlike (· = ·) c₁.asDouble c₂.asDouble ↔
        (isDoubleOverflow d₁ = false ↔ isDoubleOverflow d₂ = false) := by
      rw [asDouble_of_parse h₁ hparse₁, asDouble_of_parse h₂ hparse₂]
      exact Converted.endAlike_given rfl (Binary64.ofDecimal_congr hvalue)
    rw [hguard]
    cases isDoubleOverflow d₁ <;> cases isDoubleOverflow d₂ <;> simp
  refine ⟨?_, hinteger, hlong, hdouble, fun hlength₁ hlength₂ => ?_⟩
  · rw [(asBigDecimal_eq_ok h₁).2 ⟨not_mem_specialWords hparse₁, hparse₁⟩,
      (asBigDecimal_eq_ok h₂).2 ⟨not_mem_specialWords hparse₂, hparse₂⟩]
    exact .ok hvalue
  · obtain ⟨hdigits₁, hscale₁⟩ := Decimal.bounds_of_parse hparse₁
    obtain ⟨hdigits₂, hscale₂⟩ := Decimal.bounds_of_parse hparse₂
    have hnarrow₁ : d₁.scale.natAbs ≤ Decimal.maxIntegerScale := by
      unfold Decimal.maxIntegerScale
      omega
    have hnarrow₂ : d₂.scale.natAbs ≤ Decimal.maxIntegerScale := by
      unfold Decimal.maxIntegerScale
      omega
    refine ⟨hlong.2 fun hin => ?_, hdouble.2 ?_, ?_⟩
    · exact iff_of_true (hasIntegerPart_of_isLong hnarrow₁ hin)
        (hasIntegerPart_of_isLong hnarrow₂ (hvalue ▸ hin))
    · exact isDoubleOverflow_congr (by omega) (by omega) hvalue
    · have hor : ∀ {p q r : Prop}, (p ∨ r ↔ q ∨ r) ↔ r ∨ (p ↔ q) := by
        intro p q r
        by_cases hr : r <;> simp [hr]
      rw [hinteger, Decimal.hasIntegerPart_iff hnarrow₁, Decimal.hasIntegerPart_iff hnarrow₂,
        ← hvalue, hor]

/-- A text and a double cell with two spellings of -1500 end alike in every conversion. -/
theorem endAlike_of_value_eq_1500 :
    (string (some "-1500.00")).HoldsText "-1500.00" ∧
    (doubleText (some "-1.5e3")).HoldsText "-1.5e3" ∧
    Decimal.parse "-1500.00" = .ok ⟨-150000, 2⟩ ∧ Decimal.parse "-1.5e3" = .ok ⟨-15, -2⟩ ∧
    (⟨-150000, 2⟩ : Decimal).value = (⟨-15, -2⟩ : Decimal).value ∧
    Converted.EndAlike (fun a b => a.value = b.value) (string (some "-1500.00")).asBigDecimal
      (doubleText (some "-1.5e3")).asBigDecimal ∧
    Converted.EndAlike (· = ·) (string (some "-1500.00")).asBigInteger
      (doubleText (some "-1.5e3")).asBigInteger ∧
    Converted.EndAlike (· = ·) (string (some "-1500.00")).asLong
      (doubleText (some "-1.5e3")).asLong ∧
    Converted.EndAlike (· = ·) (string (some "-1500.00")).asDouble
      (doubleText (some "-1.5e3")).asDouble := by
  have hparse₁ : Decimal.parse "-1500.00" = .ok ⟨-150000, 2⟩ := by decide
  have hparse₂ : Decimal.parse "-1.5e3" = .ok ⟨-15, -2⟩ := by decide
  have hvalue : (⟨-150000, 2⟩ : Decimal).value = (⟨-15, -2⟩ : Decimal).value :=
    (Decimal.sameValue_iff (by decide) (by decide)).1 (by decide)
  obtain ⟨hdecimal, hinteger, -, -, hshort⟩ := endAlike_of_value_eq (string (some "-1500.00"))
    (doubleText (some "-1.5e3")) _ _ _ _ (.inr rfl) (.inl rfl) hparse₁ hparse₂ hvalue
  obtain ⟨hlong, hdouble, -⟩ := hshort (by decide) (by decide)
  exact ⟨.inr rfl, .inl rfl, hparse₁, hparse₂, hvalue, hdecimal, hinteger.2 (by decide), hlong,
    hdouble⟩

/-- The power `10 ^ k` with `places` zeros as fraction digits. -/
def tenPowText (k places : Nat) : String :=
  String.ofList ('1' :: List.replicate k '0' ++
    if places = 0 then [] else '.' :: List.replicate places '0')

theorem parse_tenPowText (k places : Nat) :
    Decimal.parse (tenPowText k places) = .ok ⟨10 ^ (k + places), places⟩ := by
  have hnumeral : Digits.isNumeral ('1' :: List.replicate k '0' ++ List.replicate places '0') =
      true := by
    have hzeros := Digits.areDigits_replicate_zero (k + places)
    rw [List.cons_append, List.replicate_append_replicate]
    exact hzeros
  have hvalue : Digits.toNat ('1' :: List.replicate k '0' ++ List.replicate places '0') =
      10 ^ (k + places) := by
    have happend := Digits.toNat_append ['1'] (List.replicate (k + places) '0')
    rw [Digits.toNat_replicate_zero, List.length_replicate, Nat.add_zero] at happend
    rw [List.cons_append, List.replicate_append_replicate]
    exact happend.trans (Nat.mul_one _)
  have hspells : DecimalLiteral.Spells
      ⟨false, '1' :: List.replicate k '0', List.replicate places '0', 0⟩
      (tenPowText k places).toList := by
    refine ⟨[], (tenPowText k places).toList, [], by simp, .missing, ?_, .missing⟩
    rw [tenPowText, String.toList_ofList]
    cases places with
    | zero =>
      rw [if_pos rfl, List.append_nil]
      exact .whole (by simpa using hnumeral)
    | succ places =>
      rw [if_neg (Nat.succ_ne_zero places)]
      exact .pointed hnumeral
  refine Decimal.parse_eq_ok.2 ⟨_, hspells, Nat.zero_le _, ?_⟩
  rw [DecimalLiteral.decimal, hvalue]
  simp

theorem value_tenPowText (k places : Nat) :
    (⟨10 ^ (k + places), places⟩ : Decimal).value = (10 ^ k : Int) := by
  rw [Decimal.value, zpow_neg, zpow_natCast, ← div_eq_mul_inv,
    div_eq_iff (pow_ne_zero _ (by norm_num))]
  push_cast
  rw [pow_add]

/-- A power of ten of 4097 digits is too wide for an integer as it stands, and is not if a zero
follows behind a point. -/
theorem not_endAlike_tenPow :
    ∃ d₁ d₂, Decimal.parse (tenPowText 4096 0) = .ok d₁ ∧
      Decimal.parse (tenPowText 4096 1) = .ok d₂ ∧ d₁.value = d₂.value ∧
      (string (some (tenPowText 4096 0))).asBigInteger =
        .error (.overflow (.ofText (tenPowText 4096 0) .bigInteger)) ∧
      (string (some (tenPowText 4096 1))).asBigInteger = .ok (some (10 ^ 4096)) ∧
      ¬Converted.EndAlike (· = ·) (string (some (tenPowText 4096 0))).asBigInteger
        (string (some (tenPowText 4096 1))).asBigInteger := by
  -- the exponent stays a variable, so that the power is never computed
  obtain ⟨k, hk⟩ : ∃ k, k = 4096 := ⟨_, rfl⟩
  rw [← hk]
  have hwide : ¬(⟨10 ^ (k + 0), (0 : Nat)⟩ : Decimal).HasIntegerPart := by
    have hvalue : |(⟨10 ^ (k + 0), (0 : Nat)⟩ : Decimal).value| = 10 ^ k := by
      rw [value_tenPowText, Int.cast_pow, Int.cast_ofNat, abs_of_pos (pow_pos (by norm_num) k)]
    rw [Decimal.hasIntegerPart_iff (Nat.zero_le _), hvalue, hk]
    exact not_or.2 ⟨lt_irrefl _, lt_irrefl _⟩
  have hnarrow : (⟨10 ^ (k + 1), (1 : Nat)⟩ : Decimal).HasIntegerPart :=
    (Decimal.hasIntegerPart_iff (by simp [Decimal.maxIntegerScale])).2 (.inl Int.one_pos)
  have hinteger₁ :=
    asBigInteger_of_parse (c := string (some (tenPowText k 0))) (.inr rfl) (parse_tenPowText k 0)
  have hinteger₂ :=
    asBigInteger_of_parse (c := string (some (tenPowText k 1))) (.inr rfl) (parse_tenPowText k 1)
  rw [Converted.given, if_neg hwide] at hinteger₁
  rw [Converted.given, if_pos hnarrow, value_tenPowText, towardZero_intCast] at hinteger₂
  refine ⟨_, _, parse_tenPowText k 0, parse_tenPowText k 1, ?_, hinteger₁, hinteger₂, ?_⟩
  · rw [value_tenPowText, value_tenPowText]
  · rw [hinteger₁, hinteger₂]
    intro halike
    cases halike

end Cell

end TableExchange
