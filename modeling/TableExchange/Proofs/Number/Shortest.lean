import TableExchange.Number.Shortest
import TableExchange.Proofs.Number.Nearest

/-!
# Shortest decimals round back

The shortest decimal of a magnitude is one of the rational numbers that round to it: every candidate
is checked to be. That there is a candidate at all follows from the width of the interval around the
magnitude, which exceeds one step of its seventeenth digit.

* `Binary64.Finite.contains_interval_iff`: the interval that candidates are checked against.
* `Binary64.contains_of_gridNeighbour?`, `Binary64.exists_gridNeighbour?`: what is taken from a
  grid, and when something is.
* `Binary64.shortestFrom_spec`: a candidate on the last grid makes the search end with one.
* `Binary64.Finite.nearest_or_nearest_add`: a grid that is fine enough has a number that rounds to a
  magnitude. `Binary64.Finite.exists_seventeen_digits`: that of the seventeenth digit is.
* `Binary64.Finite.shortest_spec`: the shortest decimal rounds to its magnitude.
-/

namespace TableExchange

namespace Binary64

/-! ## Decimal exponents -/

theorem floorLog10_eq {num den : Nat} (hnum : 0 < num) (hden : 0 < den) :
    floorLog10 num den = Int.log 10 ((num : ℚ) / den) := by
  have hlow : ∀ {n : Nat}, 0 < n →
      ((10 : Nat) : ℚ) ^ ((Digits.ofNat n).length - 1 : Int) ≤ n := by
    intro n hn
    have hpos := Digits.length_ofNat_pos n
    rw [show ((Digits.ofNat n).length - 1 : Int) = ((Digits.ofNat n).length - 1 : Nat) by omega,
      zpow_natCast]
    exact_mod_cast Digits.pow_length_le hn
  have hhigh : ∀ n : Nat,
      (n : ℚ) < ((10 : Nat) : ℚ) ^ ((Digits.ofNat n).length - 1 + 1 : Int) := by
    intro n
    rw [Int.sub_add_cancel, zpow_natCast]
    exact_mod_cast Digits.lt_pow_length n
  rw [← floorLog_of_exponents (by decide) (hlow hnum) (hhigh num) (hlow hden) (hhigh den)]
  unfold floorLog10
  congr 1
  omega

/-! ## Intervals -/

section
variable {low high unit num den : Nat} {q : ℚ}

theorem lt_div_iff_of_eq (hunit : 0 < unit) (hden : 0 < den) (h : (low : ℚ) = q * unit) :
    low * den < num * unit ↔ q < num / den := by
  have hunit' : (0 : ℚ) < unit := Nat.cast_pos.2 hunit
  rw [lt_div_iff₀ (Nat.cast_pos.2 hden), ← Nat.cast_lt (α := ℚ), Nat.cast_mul, Nat.cast_mul, h,
    mul_right_comm, mul_lt_mul_iff_of_pos_right hunit']

theorem div_lt_iff_of_eq (hunit : 0 < unit) (hden : 0 < den) (h : (high : ℚ) = q * unit) :
    num * unit < high * den ↔ (num : ℚ) / den < q := by
  have hunit' : (0 : ℚ) < unit := Nat.cast_pos.2 hunit
  rw [div_lt_iff₀ (Nat.cast_pos.2 hden), ← Nat.cast_lt (α := ℚ), Nat.cast_mul, Nat.cast_mul, h,
    mul_right_comm, mul_lt_mul_iff_of_pos_right hunit']

end

namespace Finite

variable {x : Finite} {num den : Nat}

theorem interval_unit_pos (x : Finite) : 0 < x.interval.unit :=
  unscale_den_pos (by decide) (by decide) _

/-- The ends of the interval are where rounding to the magnitude ends. -/
theorem interval_ends (hx : x.significand ≠ 0) :
    (x.interval.low : ℚ) = (x.significand - x.halfBelow) * x.ulp * x.interval.unit ∧
      (x.interval.high : ℚ) = (x.significand + 1 / 2) * x.ulp * x.interval.unit := by
  have hunit : (0 : ℚ) < x.interval.unit := Nat.cast_pos.2 x.interval_unit_pos
  have hquarter : ((unscale 2 1 4 (-x.exponent)).1 : ℚ) = x.ulp / 4 * x.interval.unit := by
    rw [← div_eq_iff hunit.ne']
    refine (unscale_ratio (by decide : 0 < 2) 1 4 (-x.exponent)).trans ?_
    rw [ulp, zpow_neg]
    norm_num
    ring
  have hbelow : ((4 * x.significand - (if x.significand = leadingBit ∧ -1074 < x.exponent then 1
      else 2) : Nat) : ℚ) = 4 * (x.significand - x.halfBelow) := by
    unfold halfBelow
    split
    · rw [Nat.cast_sub (by omega)]
      push_cast
      ring
    · rw [Nat.cast_sub (by omega)]
      push_cast
      ring
  constructor
  · show (((4 * x.significand - _ : Nat) * (unscale 2 1 4 (-x.exponent)).1 : Nat) : ℚ) = _
    rw [Nat.cast_mul, hbelow, hquarter]
    ring
  · show (((4 * x.significand + 2) * (unscale 2 1 4 (-x.exponent)).1 : Nat) : ℚ) = _
    rw [Nat.cast_mul, hquarter]
    push_cast
    ring

/-- A quotient is in the interval just if it rounds to the magnitude. -/
theorem contains_interval_iff (hx : x.significand ≠ 0) (hden : 0 < den) :
    x.interval.contains num den = true ↔ x.Nearest ((num : ℚ) / den) := by
  obtain ⟨hlow, hhigh⟩ := interval_ends hx
  have hunit := x.interval_unit_pos
  have hclosed : x.interval.closed = (x.significand % 2 == 0) := rfl
  unfold Interval.contains
  rw [hclosed]
  by_cases heven : x.significand % 2 = 0
  · rw [if_pos (by simpa using heven), decide_eq_true_iff, ← not_lt, ← not_lt,
      div_lt_iff_of_eq hunit hden hlow, lt_div_iff_of_eq hunit hden hhigh, not_lt, not_lt]
    exact ⟨fun h => ⟨h.1, h.2, fun hodd => by omega⟩, fun h => ⟨h.low, h.high⟩⟩
  · rw [if_neg (by simpa using heven), decide_eq_true_iff, lt_div_iff_of_eq hunit hden hlow,
      div_lt_iff_of_eq hunit hden hhigh]
    exact ⟨fun h => ⟨h.1.le, h.2.le, fun _ => h⟩, fun h => h.odd (by omega)⟩

end Finite

/-! ## Grids -/

section
variable {tie : DecimalTie} {i : Interval} {num den n : Nat} {e : Int}

/-- Whether `n · 10 ^ e` is in an interval. -/
def Interval.containsScaled (i : Interval) (n : Nat) (e : Int) : Bool :=
  i.contains (unscale 10 n 1 (-e)).1 (unscale 10 n 1 (-e)).2

theorem contains_of_gridNeighbour? (h : gridNeighbour? tie i num den e = some n) :
    i.containsScaled n e = true := by
  unfold gridNeighbour? at h
  dsimp only at h
  split at h
  · cases h
  · next hlow _ =>
    cases h
    exact hlow
  · next _ hhigh =>
    cases h
    exact hhigh
  · next hlow hhigh =>
    split at h
    · cases h
      exact hlow
    · split at h
      · cases h
        exact hhigh
      · split at h
        · cases h
          exact hhigh
        · split at h <;> cases h
          · exact hlow
          · exact hhigh

/-- A quotient lies between its two neighbours on a grid. -/
theorem grid_neighbours (num : Nat) (hden : 0 < den) (e : Int) :
    (((unscale 10 num den e).1 / (unscale 10 num den e).2 : Nat) : ℚ) * 10 ^ e ≤ num / den ∧
      (num : ℚ) / den <
        ((unscale 10 num den e).1 / (unscale 10 num den e).2 + 1 : Nat) * 10 ^ e := by
  have hten : (0 : ℚ) < 10 ^ e := Decimal.tenPow_pos e
  have hpos : 0 < (unscale 10 num den e).2 := unscale_den_pos (by decide) hden e
  have hscaled := unscale_ratio (by decide : 0 < 10) num den e
  rw [Nat.cast_ofNat] at hscaled
  generalize unscale 10 num den e = quotient at *
  have hpos' : (0 : ℚ) < quotient.2 := Nat.cast_pos.2 hpos
  constructor
  · rw [← le_div_iff₀ hten, ← hscaled, le_div_iff₀ hpos']
    exact_mod_cast Nat.div_mul_le_self quotient.1 quotient.2
  · rw [← div_lt_iff₀ hten, ← hscaled, div_lt_iff₀ hpos', mul_comm]
    exact_mod_cast Nat.lt_mul_div_succ quotient.1 hpos

/-- The grid has a neighbour to take if one of the two is in the interval. -/
theorem exists_gridNeighbour? (tie : DecimalTie)
    (h : i.containsScaled ((unscale 10 num den e).1 / (unscale 10 num den e).2) e = true ∨
      i.containsScaled ((unscale 10 num den e).1 / (unscale 10 num den e).2 + 1) e = true) :
    ∃ n, gridNeighbour? tie i num den e = some n := by
  cases htaken : gridNeighbour? tie i num den e with
  | some n => exact ⟨n, rfl⟩
  | none =>
    unfold gridNeighbour? at htaken
    dsimp only at htaken
    split at htaken
    · next hlow hhigh =>
      rw [Interval.containsScaled, Interval.containsScaled, hlow, hhigh] at h
      simp at h
    · cases htaken
    · cases htaken
    · split at htaken
      · cases htaken
      · split at htaken
        · cases htaken
        · split at htaken
          · cases htaken
          · split at htaken <;> cases htaken

/-! ## The search -/

/-- The search ends with a candidate of the first grid that has one. The last grid is that of the
seventeenth digit. -/
theorem shortestFrom_spec {top : Int}
    (hlast : ∃ n, gridNeighbour? tie i num den (top - 16) = some n) (left : Nat) :
    ∃ (n : Nat) (e : Int), shortestFrom tie i num den top (left + 1) = ⟨n, -e⟩ ∧
      i.containsScaled n e = true ∧ top - 16 ≤ e := by
  induction left with
  | zero =>
    obtain ⟨n, hn⟩ := hlast
    refine ⟨n, top - 16, ?_, contains_of_gridNeighbour? hn, Int.le_refl _⟩
    have hexponent : top + 1 - (maxShortestDigits - (0 : Nat)) = top - 16 := by
      unfold maxShortestDigits
      omega
    unfold shortestFrom
    dsimp only
    rw [hexponent, hn]
  | succ left ih =>
    unfold shortestFrom
    dsimp only
    generalize he : top + 1 - (maxShortestDigits - ((left + 1 : Nat) : Int)) = e
    cases htaken : gridNeighbour? tie i num den e with
    | none => exact ih
    | some n =>
      refine ⟨n, e, rfl, contains_of_gridNeighbour? htaken, ?_⟩
      unfold maxShortestDigits at he
      omega

end

namespace Finite

variable {x : Finite}

theorem containsScaled_interval_iff (hx : x.significand ≠ 0) (n : Nat) (e : Int) :
    x.interval.containsScaled n e = true ↔ x.Nearest (n * 10 ^ e) := by
  rw [Interval.containsScaled,
    contains_interval_iff hx (unscale_den_pos (by decide) (by decide) _),
    unscale_ratio (by decide : 0 < 10), zpow_neg, Nat.cast_one, div_one, div_inv_eq_mul,
    Nat.cast_ofNat]

theorem magnitude_pos (hx : x.significand ≠ 0) : 0 < x.magnitude :=
  mul_pos (Nat.cast_pos.2 (Nat.pos_of_ne_zero hx)) x.ulp_pos

/-- A seventeenth digit is worth less than the numbers that round to a magnitude span. -/
theorem step_lt_width (hx : x.significand ≠ 0) :
    (10 : ℚ) ^ (Int.log 10 x.magnitude - 16) < (1 / 2 + x.halfBelow) * x.ulp := by
  have hlog := Int.zpow_log_le_self (b := 10) (by decide) (magnitude_pos hx)
  have hulp := x.ulp_pos
  have hstep : (10 : ℚ) ^ (Int.log 10 x.magnitude - 16) =
      10 ^ Int.log 10 x.magnitude / 10 ^ 16 := by
    rw [zpow_sub₀ (by norm_num)]
    rfl
  have hbits : (x.significand : ℚ) < (1 / 2 + x.halfBelow) * 10 ^ 16 := by
    obtain ⟨hbound, -, -, -⟩ := x.canonical
    have hcast : (x.significand : ℚ) < 2 ^ 53 := by
      rw [← cast_significandBound]
      exact_mod_cast hbound
    unfold halfBelow
    split
    · next hpower =>
      rw [hpower.1, cast_leadingBit]
      norm_num
    · exact hcast.trans (by norm_num)
  rw [hstep, div_lt_iff₀ (by norm_num)]
  calc (10 : ℚ) ^ Int.log 10 x.magnitude ≤ x.significand * x.ulp := by exact_mod_cast hlog
    _ < (1 / 2 + x.halfBelow) * 10 ^ 16 * x.ulp := mul_lt_mul_of_pos_right hbits hulp
    _ = (1 / 2 + x.halfBelow) * x.ulp * 10 ^ 16 := by ring

/-- Of two numbers around a magnitude that are closer than the ends of its interval, one rounds to
it: else the interval would lie between them. -/
theorem nearest_or_nearest_add {q step : ℚ} (hbelow : q ≤ x.magnitude)
    (habove : x.magnitude < q + step) (hstep : step < (1 / 2 + x.halfBelow) * x.ulp) :
    x.Nearest q ∨ x.Nearest (q + step) := by
  have hulp := x.ulp_pos
  have hmagnitude : x.magnitude = x.significand * x.ulp := rfl
  have hhigh : x.magnitude < (x.significand + 1 / 2) * x.ulp := by linarith
  have hlow : (x.significand - x.halfBelow) * x.ulp < x.magnitude := by
    have hmul := mul_pos x.halfBelow_pos hulp
    linarith
  by_cases hq : (x.significand - x.halfBelow) * x.ulp < q
  · exact .inl ⟨hq.le, (hbelow.trans_lt hhigh).le, fun _ => ⟨hq, hbelow.trans_lt hhigh⟩⟩
  · have hnext : q + step < (x.significand + 1 / 2) * x.ulp := by linarith
    exact .inr ⟨(hlow.trans habove).le, hnext.le, fun _ => ⟨hlow.trans habove, hnext⟩⟩

/-- Of the neighbours of a magnitude at its seventeenth digit, one rounds to it. -/
theorem exists_seventeen_digits (hx : x.significand ≠ 0) (tie : DecimalTie) :
    ∃ n, gridNeighbour? tie x.interval x.ratio.1 x.ratio.2 (Int.log 10 x.magnitude - 16) =
      some n := by
  have hstep := step_lt_width hx
  generalize Int.log 10 x.magnitude - 16 = e at *
  obtain ⟨hbelow, habove⟩ := grid_neighbours x.ratio.1 x.ratio_den_pos e
  rw [x.ratio_eq] at hbelow habove
  rw [Nat.cast_succ, add_mul, one_mul] at habove
  apply exists_gridNeighbour?
  rw [containsScaled_interval_iff hx, containsScaled_interval_iff hx, Nat.cast_succ, add_mul,
    one_mul]
  exact nearest_or_nearest_add hbelow habove hstep

/-- **The shortest decimal of a magnitude rounds to it**, and has at most seventeen digits. -/
theorem shortest_spec (hx : x.significand ≠ 0) (tie : DecimalTie) :
    ∃ (n : Nat) (e : Int), x.shortest tie = ⟨n, -e⟩ ∧ x.Nearest (n * 10 ^ e) ∧
      Int.log 10 x.magnitude - 16 ≤ e := by
  have hnum : 0 < x.ratio.1 := by
    have hpos := magnitude_pos hx
    rw [← x.ratio_eq, div_pos_iff_of_pos_right (Nat.cast_pos.2 x.ratio_den_pos)] at hpos
    exact_mod_cast hpos
  have htop : floorLog10 x.ratio.1 x.ratio.2 = Int.log 10 x.magnitude := by
    rw [floorLog10_eq hnum x.ratio_den_pos, x.ratio_eq]
  obtain ⟨n, e, hfound, hcontains, he⟩ := shortestFrom_spec (exists_seventeen_digits hx tie) 16
  refine ⟨n, e, ?_, (containsScaled_interval_iff hx n e).1 hcontains, he⟩
  rw [shortest, if_neg hx, ← hfound, ← htop]
  rfl

end Finite

end Binary64

end TableExchange
