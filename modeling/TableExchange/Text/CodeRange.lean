/-!
# Ranges of code points

A property of characters, given by the closed ranges of the code points that have it.

* `inRanges`: whether a code point is in one of the ranges.
* `inRanges_iff`: the search misses no range of an ascending table.
-/

namespace TableExchange

/-- The first and the last code point of a range. -/
abbrev CodeRange := Nat × Nat

/-- Whether each range ends before the next one begins. -/
def ascending : List CodeRange → Bool
  | [] => true
  | [r] => r.1 ≤ r.2
  | r :: s :: rest => r.1 ≤ r.2 && r.2 < s.1 && ascending (s :: rest)

/-- Whether a code point is in one of the ranges of an ascending table. The search ends at the
first range that begins after the code point. -/
def inRanges : List CodeRange → Nat → Bool
  | [], _ => false
  | r :: rest, code => if code < r.1 then false else code ≤ r.2 || inRanges rest code

/-- In an ascending table each range has its ends in order, and what follows it ascends. -/
theorem ascending_cons {r : CodeRange} {rest : List CodeRange}
    (h : ascending (r :: rest) = true) : r.1 ≤ r.2 ∧ ascending rest = true := by
  cases rest <;> simp_all [ascending]

/-- In an ascending table, what comes after a range begins after its end. -/
theorem lt_of_ascending {r s : CodeRange} {rest : List CodeRange}
    (h : ascending (r :: rest) = true) (hs : s ∈ rest) : r.2 < s.1 := by
  induction rest generalizing r with
  | nil => simp at hs
  | cons t rest ih =>
    simp only [ascending, Bool.and_eq_true, decide_eq_true_eq] at h
    rcases List.mem_cons.1 hs with rfl | hs
    · exact h.1.2
    · have := (ascending_cons h.2).1
      have := ih h.2 hs
      omega

/-- The search finds exactly the code points of the ranges. -/
theorem inRanges_iff {ranges : List CodeRange} {code : Nat} (h : ascending ranges = true) :
    inRanges ranges code = true ↔ ∃ r ∈ ranges, r.1 ≤ code ∧ code ≤ r.2 := by
  induction ranges with
  | nil => simp [inRanges]
  | cons r rest ih =>
    have ⟨order, later⟩ := ascending_cons h
    rw [inRanges]
    split
    · rename_i before
      constructor
      · simp
      · rintro ⟨s, hs, h1, _⟩
        rcases List.mem_cons.1 hs with rfl | hs
        · omega
        · have := lt_of_ascending h hs
          omega
    · rename_i notBefore
      have := Nat.le_of_not_lt notBefore
      simp [ih later, this]

end TableExchange
