import Mathlib.Data.Rat.Floor
import TableExchange.Proofs.Split.NumericPartition

/-!
# The widths of even splits

Each boundary of an even split is rounded down on its own, so the widths between neighbours are
differences of rounded numbers. They are balanced all the same.

* `widths`: the distances between neighbours of a list.
* `evenBoundary_step`: a width is the rounded quotient of the span, or one more where the division
  leaves a remainder.
* `count_wider`: the remainder is the number of the wider ones.
* `even_split_balanced`: what this says of the boundaries and of the plan made from them.
-/

namespace TableExchange

open Splitter

/-- The distances between neighbours. -/
def widths (points : List Int) : List Int := List.zipWith (· - ·) points.tail points

/-! ## Lists of two widths -/

section
variable {ws : List Int} {q : Int}

/-- The wider ones are what the sum has beyond equal widths. -/
theorem sum_of_two_widths (h : ∀ w ∈ ws, w = q ∨ w = q + 1) :
    ws.sum = ws.length * q + ws.count (q + 1) := by
  induction ws with
  | nil => simp
  | cons w ws ih =>
    obtain ⟨hw, hrest⟩ := List.forall_mem_cons.1 h
    have hlength : ((ws.length + 1 : Nat) : Int) * q = ws.length * q + q := by
      rw [Int.natCast_succ, Int.add_mul, Int.one_mul]
    rw [List.sum_cons, ih hrest, List.length_cons, hlength]
    rcases hw with rfl | rfl
    · rw [List.count_cons_of_ne (by omega)]
      omega
    · rw [List.count_cons_self]
      omega

theorem count_of_two_widths (h : ∀ w ∈ ws, w = q ∨ w = q + 1) :
    ws.count q + ws.count (q + 1) = ws.length := by
  induction ws with
  | nil => simp
  | cons w ws ih =>
    obtain ⟨hw, hrest⟩ := List.forall_mem_cons.1 h
    have hcount := ih hrest
    rcases hw with rfl | rfl <;>
    · rw [List.count_cons_self, List.count_cons_of_ne (by omega), List.length_cons]
      omega

end

/-! ## Widths between boundaries -/

variable {a b w : Int} {count : Nat}

theorem widths_map_range (f : Nat → Int) (n : Nat) :
    widths ((List.range (n + 1)).map f) = (List.range n).map fun i => f (i + 1) - f i := by
  refine List.ext_getElem ?_ fun i hleft hright => ?_
  · simp [widths]
  · simp [widths, List.getElem_tail]

/-- The widths add up to the whole way. -/
theorem sum_widths_map_range (f : Nat → Int) (n : Nat) :
    (widths ((List.range (n + 1)).map f)).sum = f n - f 0 := by
  rw [widths_map_range]
  induction n with
  | zero => simp
  | succ n ih =>
    rw [List.sum_range_succ, ih]
    omega

/-- Divided apart, two numbers lose at most one against their sum. -/
theorem ediv_add_cases (x y : Int) (hcount : 0 < count) :
    (x + y) / count = x / count + y / count ∨
      (x + y) / count = x / count + y / count + 1 ∧ 0 < y % count := by
  have hpos : (0 : Int) < count := by omega
  have hx := Int.mul_ediv_add_emod x count
  have hy := Int.mul_ediv_add_emod y count
  have hxlow := Int.emod_nonneg x hpos.ne'
  have hxhigh := Int.emod_lt_of_pos x hpos
  have hylow := Int.emod_nonneg y hpos.ne'
  have hyhigh := Int.emod_lt_of_pos y hpos
  have hsum : x + y = x % count + y % count + count * (x / count + y / count) := by
    rw [Int.mul_add]
    omega
  rw [hsum, Int.add_mul_ediv_left _ _ hpos.ne']
  by_cases hcarry : x % count + y % count < count
  · rw [Int.ediv_eq_zero_of_lt (by omega) hcarry]
    omega
  · have hone : (x % count + y % count) / count = 1 := by
      rw [Int.ediv_eq_iff_of_pos hpos]
      omega
    omega

theorem evenBoundary_step (low high : Int) (hcount : 0 < count) (i : Nat) :
    evenBoundary low high count (i + 1) - evenBoundary low high count i = (high - low) / count ∨
      evenBoundary low high count (i + 1) - evenBoundary low high count i =
        (high - low) / count + 1 ∧ 0 < (high - low) % count := by
  have hnext : (high - low) * ((i + 1 : Nat) : Int) = (high - low) * i + (high - low) := by
    rw [Int.natCast_succ, Int.mul_add, Int.mul_one]
  have hcases := ediv_add_cases ((high - low) * i) (high - low) hcount
  unfold evenBoundary
  rw [hnext]
  omega

/-- How far two bounds are apart. -/
abbrev span (a b : Int) : Int := max a b - min a b

theorem span_nonneg (a b : Int) : 0 ≤ span a b := by
  show 0 ≤ max a b - min a b
  omega

theorem mem_widths (hcount : 0 < count) (hw : w ∈ widths (evenBoundaries a b count)) :
    w = span a b / count ∨ w = span a b / count + 1 ∧ 0 < span a b % count := by
  rw [evenBoundaries_eq_map a b hcount, widths_map_range] at hw
  obtain ⟨i, -, rfl⟩ := List.mem_map.1 hw
  exact evenBoundary_step (min a b) (max a b) hcount i

theorem length_widths (a b : Int) (hcount : 0 < count) :
    (widths (evenBoundaries a b count)).length = count := by
  rw [evenBoundaries_eq_map a b hcount, widths_map_range, List.length_map, List.length_range]

theorem sum_widths (a b : Int) (hcount : 0 < count) :
    (widths (evenBoundaries a b count)).sum = span a b := by
  rw [evenBoundaries_eq_map a b hcount, sum_widths_map_range, evenBoundary_zero,
    evenBoundary_self _ _ hcount]

/-- As many widths are wider as the division leaves over, and the others are not. -/
theorem count_wider (a b : Int) (hcount : 0 < count) :
    ((widths (evenBoundaries a b count)).count (span a b / count + 1) : Int) =
        span a b % count ∧
      ((widths (evenBoundaries a b count)).count (span a b / count) : Int) =
        count - span a b % count := by
  have htwo : ∀ w ∈ widths (evenBoundaries a b count),
      w = span a b / count ∨ w = span a b / count + 1 :=
    fun w hw => (mem_widths hcount hw).imp id And.left
  have hsum := sum_of_two_widths htwo
  have hall := count_of_two_widths htwo
  rw [sum_widths a b hcount, length_widths a b hcount] at hsum
  rw [length_widths a b hcount] at hall
  have hdivision := Int.mul_ediv_add_emod (span a b) count
  omega

/-- Where a division leaves a remainder, its ceiling is one above its floor. -/
theorem ceil_eq_ediv_add_one (x : Int) (hcount : 0 < count) (hrest : 0 < x % count) :
    ⌈(x : ℚ) / count⌉ = x / count + 1 := by
  have hpos : (0 : Int) < count := by omega
  have hless := Int.emod_lt_of_pos x hpos
  have hneg : -x = (count - x % count) + count * (-(x / count) - 1) := by
    have hdivision := Int.mul_ediv_add_emod x count
    rw [Int.mul_sub, Int.mul_neg]
    omega
  rw [Rat.ceil_intCast_div_natCast, hneg, Int.add_mul_ediv_left _ _ hpos.ne',
    Int.ediv_eq_zero_of_lt (by omega) (by omega)]
  omega

/-! ## Balance -/

/-- The boundaries of `count` pieces between two bounds, as equal as integers can be. -/
structure EvenPieces (low high : Int) (count : Nat) (points : List Int) : Prop where
  length : points.length = count + 1
  first : points.head? = some low
  last : points.getLast? = some high
  ascending : points.Pairwise (· ≤ ·)
  /-- Every width is the span's share, rounded down or up. -/
  rounded : ∀ w ∈ widths points,
    w = ⌊((high - low : Int) : ℚ) / count⌋ ∨ w = ⌈((high - low : Int) : ℚ) / count⌉
  alike : ∀ v ∈ widths points, ∀ w ∈ widths points, v ≤ w + 1
  /-- No piece is empty if there are at most as many as the span has steps. -/
  nonempty : count ≤ high - low → ∀ w ∈ widths points, 0 < w
  /-- Otherwise each step is a piece, and the other pieces are empty. -/
  steps : high - low < count → ((widths points).count 1 : Int) = high - low ∧
    ((widths points).count 0 : Int) = count - (high - low)

theorem evenPieces_evenBoundaries (a b : Int) (hcount : 0 < count) :
    EvenPieces (min a b) (max a b) count (evenBoundaries a b count) := by
  have hpos : (0 : Int) < count := by omega
  have hspan := span_nonneg a b
  refine ⟨length_evenBoundaries a b hcount, rfl, List.getLast?_concat,
    pairwise_evenBoundaries a b hcount, fun w hw => ?_, fun v hv w hw => ?_, fun hwide w hw => ?_,
    fun hnarrow => ?_⟩
  · rw [Rat.floor_intCast_div_natCast]
    refine (mem_widths hcount hw).imp id fun ⟨hnext, hrest⟩ => ?_
    rw [hnext, ceil_eq_ediv_add_one _ hcount hrest]
  · have hfirst := mem_widths hcount hv
    have hsecond := mem_widths hcount hw
    omega
  · have hle : (count : Int) ≤ span a b := hwide
    have hone : 1 ≤ span a b / count := (Int.le_ediv_iff_mul_le hpos).2 (by omega)
    have hcases := mem_widths hcount hw
    omega
  · have hcounts := count_wider a b hcount
    rwa [Int.ediv_eq_zero_of_lt hspan hnarrow, Int.emod_eq_of_lt hspan hnarrow,
      Int.zero_add] at hcounts

theorem evenBoundaries_comm (a b : Int) (count : Nat) :
    evenBoundaries b a count = evenBoundaries a b count := by
  unfold evenBoundaries
  rw [Int.min_comm, Int.max_comm]

/-- **Even splits are balanced.** Between two bounds, given in either order, the boundaries go from
the lower one to the higher one and never descend, and each width between neighbours is the span's
share, rounded down or up. So no two of them differ by more than one, none is empty if the span has
at least as many steps as there are pieces, and otherwise each step is a piece and the others are
empty. A plan between two integers has one range for each two neighbours. -/
theorem even_split_balanced (a b : Int) (count : Nat) (hcount : 0 < count) :
    EvenPieces (min a b) (max a b) count (evenBoundaries a b count) ∧
    evenBoundaries b a count = evenBoundaries a b count ∧
    (2 ≤ count → ∀ (s : Splitter) (table column : String) (predicate : Option String),
      (s.planFromStats (integerBounds table column a b) predicate count).Returns
        (.ofRanges (rangeConditions column
            (operands s.dialect ((evenBoundaries a b count).map .integer))) column predicate)) :=
  ⟨evenPieces_evenBoundaries a b hcount, evenBoundaries_comm a b count,
    fun htwo s table column predicate =>
      returns_integerBounds s table column a b predicate htwo⟩

/-- Five pieces of three steps, from 2 down to -1: two are empty. -/
theorem even_split_balanced_narrow :
    0 < 5 ∧ evenBoundaries 2 (-1) 5 = [-1, -1, 0, 0, 1, 2] ∧
    EvenPieces (-1) 2 5 (evenBoundaries 2 (-1) 5) ∧
    (planFromStats { dialect := .mySql } (integerBounds "orders" "id" 2 (-1)) none 5).Returns
      (.ofRanges (rangeConditions "id"
        (operands .mySql ((evenBoundaries 2 (-1) 5).map .integer))) "id" none) := by
  obtain ⟨hpieces, -, hreturns⟩ := even_split_balanced 2 (-1) 5 (by decide)
  exact ⟨by decide, by decide, hpieces,
    hreturns (by decide) { dialect := .mySql } "orders" "id" none⟩

end TableExchange
