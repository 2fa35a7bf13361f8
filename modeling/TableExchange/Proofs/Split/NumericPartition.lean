import TableExchange.Proofs.Split.EvenBoundaries
import TableExchange.Proofs.Split.Planning
import TableExchange.Proofs.Split.Ranges

/-!
# Plans between two integers

A table whose integer keys are known to lie between two bounds is divided exactly.

* `numeric_plan_partitions`: each row between the bounds is read by one range, a row without a key
  by the last fragment only, and any other row by none.
-/

namespace TableExchange

open Splitter

/-- The statistics of integer keys between two bounds, in either order. -/
def integerBounds (table column : String) (a b : Int) : KeyStats :=
  ⟨table, column, .numeric, .bounds (some (.integer a)) (some (.integer b))⟩

variable {order : Collation} {row : Row} {s : Splitter} {table column : String} {a b : Int}
  {predicate : Option String} {count : Nat}

def integerPoints (a b : Int) (count : Nat) : List SplitPoint :=
  (evenBoundaries a b count).map .integer

theorem le_integer {m n : Int} : order.Le (.integer m) (.integer n) ↔ m ≤ n := by
  simp [Collation.Le, Collation.compare]

theorem less_integer {m n : Int} : order.Less (.integer m) (.integer n) ↔ m < n := by
  simp [Collation.Less, Collation.compare]

theorem returns_integerBounds (s : Splitter) (table column : String) (a b : Int)
    (predicate : Option String) (hcount : 2 ≤ count) :
    (s.planFromStats (integerBounds table column a b) predicate count).Returns
      (s.rangePlan (integerBounds table column a b) predicate (integerPoints a b count)) :=
  returns_ranges hcount rfl rfl

theorem ranges_integerBounds (s : Splitter) (table column : String) (a b : Int)
    (points : List SplitPoint) :
    s.ranges (integerBounds table column a b) points =
      rangeConditions column (operands s.dialect points) := rfl

theorem countTrue_between (hcount : 0 < count) {n : Int}
    (hkey : row.key column = some (.integer n)) (hlow : min a b ≤ n) (hhigh : n ≤ max a b) :
    countTrue order row
      (rangeConditions column (operands s.dialect (integerPoints a b count))) = 1 := by
  have hsorted := pairwise_evenBoundaries a b hcount
  rw [evenBoundaries, List.cons_append] at hsorted
  rw [integerPoints, evenBoundaries, List.cons_append, List.map_cons, List.map_append,
    List.map_singleton]
  refine countTrue_rangeConditions hkey ?_ (le_integer.2 hlow) (le_integer.2 hhigh)
  rw [← List.map_singleton, ← List.map_append, List.pairwise_map]
  exact (List.pairwise_cons.1 hsorted).2.imp le_integer.2

theorem countTrue_beyond (hcount : 0 < count) {n : Int}
    (hkey : row.key column = some (.integer n)) (hout : n < min a b ∨ max a b < n) :
    countTrue order row
      (rangeConditions column (operands s.dialect (integerPoints a b count))) = 0 := by
  refine countTrue_rangeConditions_eq_zero hkey ?_
  refine hout.imp (fun hbelow p hp => ?_) fun habove p hp => ?_ <;>
    obtain ⟨m, hm, rfl⟩ := List.mem_map.1 hp <;>
    have hbounds := bounds_of_mem_evenBoundaries hcount hm
  · exact less_integer.2 (by omega)
  · exact less_integer.2 (by omega)

/-- **A plan between two integers divides the rows exactly.** It has `count` ranges and a fragment
for null keys, and under every collation a row that meets the user's condition is read by just one
range if its key lies between the bounds, by just the last fragment if it has no key, and by no
fragment if its key lies outside; a row that does not meet the condition is read by none. The
fragments' texts read back as the conditions that this is said of, for each column name. -/
theorem numeric_plan_partitions (s : Splitter) (table column : String) (a b : Int)
    (predicate : Option String) (count : Nat) (hcount : 2 ≤ count) :
    ∃ plan : SplitPlan,
      (s.planFromStats (integerBounds table column a b) predicate count).Returns plan ∧
      plan.fragments.map (·.isNullPartition) = List.replicate count false ++ [true] ∧
      (Sql.isName column = true → plan.ReadBack column s.dialect.features.escape predicate) ∧
      ∀ (order : Collation) (row : Row),
        (∀ n, row.Meets predicate → row.key column = some (.integer n) →
          min a b ≤ n → n ≤ max a b →
            ∃ f, plan.selected order row = [f] ∧ f.isNullPartition = false) ∧
        (row.Meets predicate → row.key column = none →
          plan.selected order row = [.nullPartition column predicate]) ∧
        (∀ n, row.key column = some (.integer n) → n < min a b ∨ max a b < n →
          plan.selected order row = []) ∧
        (¬row.Meets predicate → plan.selected order row = []) := by
  have hpos : 0 < count := by omega
  refine ⟨_, returns_integerBounds s table column a b predicate hcount, ?_, fun hname => ?_,
    fun order row => ⟨fun n hmeets hkey hlow hhigh => ?_, fun hmeets hkey => ?_,
      fun n hkey hout => ?_, fun hmeets => selected_ofRanges_of_not_meets hmeets _⟩⟩
  · rw [isNullPartition_ofRanges, ranges_integerBounds, length_rangeConditions]
    simp [operands, integerPoints, length_evenBoundaries a b hpos]
  · exact readBack_ofRanges hname (fun c hc => written_rangeConditions hc) predicate
  · exact selected_of_countTrue_eq_one hmeets hkey (countTrue_between hpos hkey hlow hhigh)
  · exact selected_of_null hmeets hkey fun c hc => not_truth_rangeConditions_of_null hkey hc
  · exact selected_of_countTrue_eq_zero predicate hkey (countTrue_beyond hpos hkey hout)

/-- Five ranges over the four keys from 2 down to -1: one range is empty, and still a row with the
key 0 is read once. -/
theorem numeric_plan_partitions_narrow :
    2 ≤ 5 ∧ ∃ plan : SplitPlan,
      (planFromStats { dialect := .mySql } (integerBounds "orders" "id" 2 (-1)) (some "price > 1")
        5).Returns plan ∧
      plan.fragments.map (·.isNullPartition) = [false, false, false, false, false, true] ∧
      plan.ReadBack "id" .quoteAndBackslash (some "price > 1") ∧
      ∀ order, ∃ f, plan.selected order ⟨fun _ => some (.integer 0), fun _ => .yes⟩ = [f] ∧
        f.isNullPartition = false := by
  refine ⟨by decide, ?_⟩
  obtain ⟨plan, hreturns, hflags, hread, hrows⟩ :=
    numeric_plan_partitions { dialect := .mySql } "orders" "id" 2 (-1) (some "price > 1") 5
      (by decide)
  refine ⟨plan, hreturns, hflags, hread rfl, fun order => ?_⟩
  exact (hrows order _).1 0 (fun _ _ => rfl) rfl (by decide) (by decide)

end TableExchange
