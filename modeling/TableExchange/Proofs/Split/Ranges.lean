import TableExchange.Proofs.Sql.Reading

/-!
# Ranges between neighbouring boundaries

What the range conditions of a list of boundaries hold, under any collation. Every range but the
last is half open, so a key that equals a boundary falls into the range that begins there.

* `countTrue_rangeConditions`: a key between the first and the last boundary is in exactly one
  range. Only the boundaries after the first need to ascend.
* `countTrue_rangeConditions_eq_zero`: a key below or above all boundaries is in none.
* `outsideCondition_truth`: the condition for the keys outside is true of just those.
* `rangeText`, `outsideText`: how these conditions are written.
* `readBack_ofRanges`: the text of every fragment of a split plan is read back as its condition.
-/

namespace TableExchange

section
variable {order : Collation} {row : Row} {dialect : Dialect} {column : String} {key : SplitPoint}

abbrev operands (dialect : Dialect) (points : List SplitPoint) : List Operand :=
  points.map (·.operand dialect)

/-! ## Single conditions -/

theorem halfOpenRange_truth (order : Collation) (dialect : Dialect)
    (hkey : row.key column = some key) (low high : SplitPoint) :
    (halfOpenRange column (low.operand dialect) (high.operand dialect)).truth order row = .yes ↔
      order.Le low key ∧ order.Less key high := by
  simp only [halfOpenRange, Condition.truth, Truth.and_eq_yes, Truth.not_eq_yes, value_operand,
    value_column, hkey, Collation.compareValues_some, Collation.Le, Collation.Less]

theorem closedRange_truth (order : Collation) (dialect : Dialect)
    (hkey : row.key column = some key) (low high : SplitPoint) :
    (closedRange column (low.operand dialect) (high.operand dialect)).truth order row = .yes ↔
      order.Le low key ∧ order.Le key high := by
  simp only [closedRange, Condition.truth, Truth.and_eq_yes, value_operand, value_column, hkey,
    Collation.compareValues_some, Collation.Le]

theorem outsideCondition_truth (order : Collation) (dialect : Dialect)
    (hkey : row.key column = some key) (first last : SplitPoint) :
    (outsideCondition column (first.operand dialect) (last.operand dialect)).truth order row =
      .yes ↔ order.Less key first ∨ order.Less last key := by
  simp only [outsideCondition, Condition.truth, Truth.or_eq_yes, Truth.not_eq_yes, value_operand,
    value_column, hkey, Collation.compareValues_some, Collation.Less]

/-! ## Ranges -/

/-- Every range condition is a range between two of the boundaries. -/
theorem mem_rangeConditions {points : List SplitPoint} {c : Condition}
    (hc : c ∈ rangeConditions column (operands dialect points)) :
    ∃ low ∈ points, ∃ high ∈ points,
      c = halfOpenRange column (low.operand dialect) (high.operand dialect) ∨
        c = closedRange column (low.operand dialect) (high.operand dialect) := by
  induction points with
  | nil => cases hc
  | cons low points ih =>
    cases points with
    | nil => cases hc
    | cons high points =>
      cases points with
      | nil =>
        obtain rfl := List.mem_singleton.1 hc
        exact ⟨low, by simp, high, by simp, .inr rfl⟩
      | cons next rest =>
        rcases List.mem_cons.1 hc with rfl | hc
        · exact ⟨low, by simp, high, by simp, .inl rfl⟩
        · obtain ⟨l, hl, h, hh, hform⟩ := ih hc
          exact ⟨l, List.mem_cons_of_mem _ hl, h, List.mem_cons_of_mem _ hh, hform⟩

/-- A range holds only keys between two of the boundaries. -/
theorem bounds_of_rangeConditions (hkey : row.key column = some key) {c : Condition}
    {points : List SplitPoint} (hc : c ∈ rangeConditions column (operands dialect points))
    (htrue : c.truth order row = .yes) :
    ∃ low ∈ points, ∃ high ∈ points, order.Le low key ∧ order.Le key high := by
  obtain ⟨low, hlow, high, hhigh, rfl | rfl⟩ := mem_rangeConditions hc
  · obtain ⟨hle, hless⟩ := (halfOpenRange_truth order dialect hkey low high).1 htrue
    exact ⟨low, hlow, high, hhigh, hle, hless.le⟩
  · exact ⟨low, hlow, high, hhigh, (closedRange_truth order dialect hkey low high).1 htrue⟩

theorem not_truth_rangeConditions_of_null (hkey : row.key column = none) {c : Condition}
    {points : List SplitPoint} (hc : c ∈ rangeConditions column (operands dialect points)) :
    c.truth order row ≠ .yes := by
  obtain ⟨low, -, high, -, rfl | rfl⟩ := mem_rangeConditions hc
  · simp [halfOpenRange, Condition.truth, hkey]
  · simp [closedRange, Condition.truth, hkey]

theorem not_truth_outsideCondition_of_null (hkey : row.key column = none) (first last : Operand) :
    (outsideCondition column first last).truth order row ≠ .yes := by
  simp [outsideCondition, Condition.truth, hkey, Truth.not]

abbrev countTrue (order : Collation) (row : Row) (conditions : List Condition) : Nat :=
  conditions.countP (·.truth order row = .yes)

theorem countTrue_rangeConditions_eq_zero (hkey : row.key column = some key)
    {points : List SplitPoint}
    (hout : (∀ p ∈ points, order.Less key p) ∨ ∀ p ∈ points, order.Less p key) :
    countTrue order row (rangeConditions column (operands dialect points)) = 0 := by
  rw [countTrue, List.countP_eq_zero]
  intro c hc
  rw [decide_eq_true_eq]
  intro htrue
  obtain ⟨low, hlow, high, hhigh, hle, hle'⟩ := bounds_of_rangeConditions hkey hc htrue
  rcases hout with hout | hout
  · exact (hout low hlow).not_le hle
  · exact (hout high hhigh).not_le hle'

/-- **A key between the first and the last boundary is in exactly one range.** The boundaries after
the first ascend; the first one is only known to be at most the key. -/
theorem countTrue_rangeConditions (hkey : row.key column = some key) {low last : SplitPoint}
    {inner : List SplitPoint} (hsorted : (inner ++ [last]).Pairwise order.Le)
    (hlow : order.Le low key) (hhigh : order.Le key last) :
    countTrue order row
      (rangeConditions column (operands dialect (low :: (inner ++ [last])))) = 1 := by
  induction inner generalizing low with
  | nil =>
    have htrue := (closedRange_truth order dialect hkey low last).2 ⟨hlow, hhigh⟩
    simp [countTrue, operands, rangeConditions, htrue]
  | cons high inner ih =>
    rw [List.cons_append] at hsorted
    obtain ⟨hfirst, hrest⟩ := List.pairwise_cons.1 hsorted
    have hkind : high.kind = key.kind :=
      (hfirst last (by simp)).kind_eq.trans hhigh.kind_eq.symm
    have htruth := halfOpenRange_truth order dialect hkey low high
    have hsplit : rangeConditions column (operands dialect (low :: (high :: inner ++ [last]))) =
        halfOpenRange column (low.operand dialect) (high.operand dialect) ::
          rangeConditions column (operands dialect (high :: (inner ++ [last]))) := by
      cases inner <;> rfl
    rw [hsplit, countTrue, List.countP_cons]
    rcases Collation.le_or_less order hkind with hle | hless
    · -- the key is not before `high`: it is in one of the ranges that follow
      have hnot : ¬order.Less key high := hle.not_less
      simpa [htruth, hnot] using ih hrest hle
    · -- the key is before `high`, and so before every later boundary
      have hzero : countTrue order row
          (rangeConditions column (operands dialect (high :: (inner ++ [last])))) = 0 := by
        refine countTrue_rangeConditions_eq_zero hkey (.inl fun p hp => ?_)
        rcases List.mem_cons.1 hp with rfl | hp
        · exact hless
        · exact hless.trans_le (hfirst p hp)
      simpa [htruth, hlow, hless] using hzero

/-! ## The fragments that read a row -/

theorem selected_of_countTrue_eq_one {ranges : List Condition} {predicate : Option String}
    (hmeets : row.Meets predicate) (hkey : row.key column = some key)
    (hone : countTrue order row ranges = 1) :
    ∃ f, (SplitPlan.ofRanges ranges column predicate).selected order row = [f] ∧
      f.isNullPartition = false := by
  rw [countTrue, List.countP_eq_length_filter, List.length_eq_one_iff] at hone
  obtain ⟨c, hc⟩ := hone
  refine ⟨.range predicate c, ?_, rfl⟩
  rw [selected_ofRanges hmeets, hc]
  simp [hkey]

theorem selected_of_countTrue_eq_zero {ranges : List Condition} (predicate : Option String)
    (hkey : row.key column = some key) (hzero : countTrue order row ranges = 0) :
    (SplitPlan.ofRanges ranges column predicate).selected order row = [] := by
  by_cases hmeets : row.Meets predicate
  · rw [countTrue, List.countP_eq_length_filter, List.length_eq_zero_iff] at hzero
    rw [selected_ofRanges hmeets, hzero]
    simp [hkey]
  · exact selected_ofRanges_of_not_meets hmeets _

theorem selected_of_null {ranges : List Condition} {predicate : Option String}
    (hmeets : row.Meets predicate) (hkey : row.key column = none)
    (hranges : ∀ c ∈ ranges, c.truth order row ≠ .yes) :
    (SplitPlan.ofRanges ranges column predicate).selected order row =
      [.nullPartition column predicate] := by
  rw [selected_ofRanges hmeets, List.filter_eq_nil_iff.2]
  · simp [hkey]
  · intro c hc
    simpa using hranges c hc

/-! ## Lengths and texts -/

theorem length_rangeConditions (column : String) (points : List Operand) :
    (rangeConditions column points).length = points.length - 1 := by
  fun_induction rangeConditions column points with
  | case1 => rfl
  | case2 => rfl
  | case3 => rfl
  | case4 low high next rest ih =>
    rw [List.length_cons, ih]
    rfl

/-- The text of the range between two neighbouring boundaries. Only the last range holds its upper
end. -/
def rangeText (column : String) (low high : Operand) (isLast : Bool) : String :=
  "(" ++ low.render ++ " <= " ++ column ++ " AND " ++ column ++
    (if isLast then " <= " else " < ") ++ high.render ++ ")"

/-- The text of the condition for the keys outside of two boundaries. -/
def outsideText (column : String) (first last : Operand) : String :=
  "((" ++ column ++ " < " ++ first.render ++ ") OR (" ++ last.render ++ " < " ++ column ++ "))"

theorem render_halfOpenRange (column : String) (low high : Operand) :
    (halfOpenRange column low high).render = rangeText column low high false := by
  simp [halfOpenRange, Condition.render, Operand.render, rangeText, String.append_assoc]

theorem render_closedRange (column : String) (low high : Operand) :
    (closedRange column low high).render = rangeText column low high true := by
  simp [closedRange, Condition.render, Operand.render, rangeText, String.append_assoc]

theorem render_outsideCondition (column : String) (first last : Operand) :
    (outsideCondition column first last).render = outsideText column first last := by
  have hopen : "((" = "(" ++ "(" := rfl
  have hmiddle : ") OR (" = ")" ++ (" OR " ++ "(") := rfl
  have hclose : "))" = ")" ++ ")" := rfl
  simp only [outsideCondition, Condition.render, Operand.render, outsideText, hopen, hmiddle,
    hclose, String.append_assoc]

/-- Each pair of neighbours has its range, in their order. -/
theorem render_rangeConditions {points : List Operand} {i : Nat} {low high : Operand}
    (hlow : points[i]? = some low) (hhigh : points[i + 1]? = some high) :
    (rangeConditions column points)[i]?.map Condition.render =
      some (rangeText column low high (i + 2 = points.length)) := by
  fun_induction rangeConditions column points generalizing i with
  | case1 => cases hlow
  | case2 => cases hhigh
  | case3 a b =>
    cases i with
    | zero =>
      cases hlow
      cases hhigh
      exact congrArg some (render_closedRange ..)
    | succ i => cases hhigh
  | case4 a b next rest ih =>
    cases i with
    | zero =>
      cases hlow
      cases hhigh
      exact congrArg some (render_halfOpenRange ..)
    | succ i => simpa using ih hlow hhigh

/-- The fragments of a split plan: one for each range, and the one for null keys behind them. -/
theorem isNullPartition_ofRanges (ranges : List Condition) (predicate : Option String) :
    (SplitPlan.ofRanges ranges column predicate).fragments.map (·.isNullPartition) =
      List.replicate ranges.length false ++ [true] := by
  simp [SplitPlan.ofRanges, Fragment.range, Fragment.nullPartition, Function.comp_def,
    List.map_const']

/-- The text of every fragment is read back as the fragment's condition. -/
def SplitPlan.ReadBack (plan : SplitPlan) (column : String) (rule : EscapeRule)
    (predicate : Option String) : Prop :=
  ∀ f ∈ plan.fragments, f.predicate.bind (Sql.readCondition? column rule predicate) = f.condition

open Sql in
theorem operandOf_operand (column : String) (dialect : Dialect) (p : SplitPoint) :
    OperandOf column dialect.features.escape (p.operand dialect) := by
  cases p <;> trivial

open Sql in
theorem written_rangeConditions {points : List SplitPoint} {c : Condition}
    (hc : c ∈ rangeConditions column (operands dialect points)) :
    Written column dialect.features.escape 2 c := by
  obtain ⟨low, -, high, -, rfl | rfl⟩ := mem_rangeConditions hc
  all_goals
    have hlow := operandOf_operand column dialect low
    have hhigh := operandOf_operand column dialect high
    exact ⟨by omega, ⟨hlow, rfl⟩, ⟨rfl, hhigh⟩⟩

open Sql in
theorem written_outsideCondition (first last : SplitPoint) :
    Written column dialect.features.escape 2
      (outsideCondition column (first.operand dialect) (last.operand dialect)) :=
  ⟨rfl, ⟨rfl, operandOf_operand column dialect first⟩, ⟨operandOf_operand column dialect last, rfl⟩⟩

/-- **Every fragment of a split plan is read back from its text.** -/
theorem readBack_ofRanges {rule : EscapeRule} (hname : Sql.isName column = true)
    {ranges : List Condition} (hranges : ∀ c ∈ ranges, Sql.Written column rule 2 c)
    (predicate : Option String) :
    (SplitPlan.ofRanges ranges column predicate).ReadBack column rule predicate := by
  intro f hf
  simp only [SplitPlan.ofRanges, List.mem_append, List.mem_map, List.mem_singleton] at hf
  rcases hf with ⟨c, hc, rfl⟩ | rfl
  · exact Sql.readCondition?_under hname (hranges c hc) predicate
  · exact Sql.readCondition?_under (c := .isNull column) hname rfl predicate

end

end TableExchange
