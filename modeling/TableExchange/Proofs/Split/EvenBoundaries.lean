import TableExchange.Split.Strategy

/-!
# Boundaries at equal distances

`evenBoundaries a b count` are the integers `evenBoundary low high count i` for `i` from 0 to
`count`, where `low` and `high` are the two bounds in order: the `i`-th part of the way between them,
rounded down.

* `evenBoundaries_eq_map`: that description.
* `pairwise_evenBoundaries`: the boundaries ascend.
* `bounds_of_mem_evenBoundaries`: they lie between the bounds.
-/

namespace TableExchange

/-- The boundary behind the first `i` of `count` parts. -/
def evenBoundary (low high : Int) (count i : Nat) : Int := low + (high - low) * i / count

theorem evenBoundary_zero (low high : Int) (count : Nat) : evenBoundary low high count 0 = low := by
  simp [evenBoundary]

theorem evenBoundary_self (low high : Int) {count : Nat} (hcount : 0 < count) :
    evenBoundary low high count count = high := by
  rw [evenBoundary, Int.mul_ediv_cancel _ (by omega)]
  omega

theorem evenBoundary_le {low high : Int} (h : low ≤ high) {count : Nat} (hcount : 0 < count)
    {i j : Nat} (hij : i ≤ j) :
    evenBoundary low high count i ≤ evenBoundary low high count j := by
  have hmul : (high - low) * (i : Int) ≤ (high - low) * (j : Int) :=
    Int.mul_le_mul_of_nonneg_left (by omega) (by omega)
  have hdiv : (high - low) * i / count ≤ (high - low) * j / count :=
    Int.ediv_le_ediv (by omega) hmul
  unfold evenBoundary
  omega

variable {a b n : Int} {count : Nat}

/-- The boundaries, each as its share of the way from the lower bound to the higher one. -/
theorem evenBoundaries_eq_map (a b : Int) (hcount : 0 < count) :
    evenBoundaries a b count =
      (List.range (count + 1)).map (evenBoundary (min a b) (max a b) count) := by
  obtain ⟨m, rfl⟩ : ∃ m, count = m + 1 := ⟨count - 1, by omega⟩
  rw [List.range_succ, List.range_succ_eq_map, List.map_append, List.map_cons, List.map_map,
    evenBoundary_zero, List.map_singleton, evenBoundary_self _ _ hcount]
  rfl

theorem length_evenBoundaries (a b : Int) (hcount : 0 < count) :
    (evenBoundaries a b count).length = count + 1 := by
  rw [evenBoundaries_eq_map a b hcount, List.length_map, List.length_range]

theorem pairwise_evenBoundaries (a b : Int) (hcount : 0 < count) :
    (evenBoundaries a b count).Pairwise (· ≤ ·) := by
  rw [evenBoundaries_eq_map a b hcount, List.pairwise_map]
  exact List.pairwise_lt_range.imp fun h => evenBoundary_le (by omega) hcount (Nat.le_of_lt h)

theorem bounds_of_mem_evenBoundaries (hcount : 0 < count) (h : n ∈ evenBoundaries a b count) :
    min a b ≤ n ∧ n ≤ max a b := by
  rw [evenBoundaries_eq_map a b hcount] at h
  obtain ⟨i, hi, rfl⟩ := List.mem_map.1 h
  have hbounds : min a b ≤ max a b := by omega
  have hlow := evenBoundary_le hbounds hcount (Nat.zero_le i)
  have hhigh := evenBoundary_le hbounds hcount (Nat.lt_succ_iff.1 (List.mem_range.1 hi))
  rw [evenBoundary_zero] at hlow
  rw [evenBoundary_self _ _ hcount] at hhigh
  exact ⟨hlow, hhigh⟩

end TableExchange
