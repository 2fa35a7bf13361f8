import TableExchange.Proofs.Split.TextPartition

/-!
# Text keys under the database's own collation

The least and the greatest key come from the database, in the order that it compares texts by. The
boundaries are put in the order of bytes, and the database compares them again in its own. Where the
two orders agree on the bounds, each row is read under every collation, in whatever order the
boundaries between them are; where they do not, rows are lost.

* `Collation.Brackets`, `exists_rangeConditions_iff`: which keys the ranges of some boundaries hold.
* `Collation.letterwise`: the collation for a rank of the letters, such as that of a dictionary.
* `text_plan_reads`, `text_plan_loses_least`: which rows a plan between two texts reads, and one that
  it does not.
-/

namespace TableExchange

open Splitter

/-- Of some boundaries, one is at most the key, and one behind it is above the key; the last boundary
may also be equal to it. -/
def Collation.Brackets (order : Collation) (points : List SplitPoint) (key : SplitPoint) : Prop :=
  ∃ before low between high after, points = before ++ low :: (between ++ high :: after) ∧
    order.Le low key ∧ (order.Less key high ∨ after = [] ∧ order.Le key high)

namespace Collation

variable {order : Collation} {key first : SplitPoint} {points : List SplitPoint}

theorem Brackets.cons (h : order.Brackets points key) : order.Brackets (first :: points) key := by
  obtain ⟨before, low, between, high, after, rfl, hlow, hhigh⟩ := h
  exact ⟨first :: before, low, between, high, after, rfl, hlow, hhigh⟩

theorem Brackets.two_le (h : order.Brackets points key) : 2 ≤ points.length := by
  obtain ⟨before, low, between, high, after, rfl, -⟩ := h
  simp only [List.length_append, List.length_cons]
  omega

/-- Between the first and the last boundary every key is bracketed. -/
theorem brackets_of_ends {last : SplitPoint} {inner : List SplitPoint} (hlow : order.Le first key)
    (hhigh : order.Le key last) : order.Brackets (first :: (inner ++ [last])) key :=
  ⟨[], first, inner, last, [], rfl, hlow, .inr ⟨rfl, hhigh⟩⟩

theorem brackets_pair {last : SplitPoint} :
    order.Brackets [first, last] key ↔ order.Le first key ∧ order.Le key last := by
  refine ⟨?_, fun ⟨hlow, hhigh⟩ => ⟨[], first, [], last, [], rfl, hlow, .inr ⟨rfl, hhigh⟩⟩⟩
  rintro ⟨before, low, between, high, after, hpoints, hlow, hhigh⟩
  have hlength := congrArg List.length hpoints
  simp only [List.length_append, List.length_cons, List.length_nil] at hlength
  obtain rfl : before = [] := List.eq_nil_of_length_eq_zero (by omega)
  obtain rfl : between = [] := List.eq_nil_of_length_eq_zero (by omega)
  cases hpoints
  exact ⟨hlow, hhigh.elim (·.le) (·.2)⟩

/-- The key is in the first range, or it is bracketed without the first boundary. -/
theorem brackets_cons {second third : SplitPoint} {rest : List SplitPoint}
    (hkind : second.kind = key.kind) :
    order.Brackets (first :: second :: third :: rest) key ↔
      (order.Le first key ∧ order.Less key second) ∨
        order.Brackets (second :: third :: rest) key := by
  constructor
  · rintro ⟨before, low, between, high, after, hpoints, hlow, hhigh⟩
    cases before with
    | cons p before =>
      obtain ⟨-, hrest⟩ := List.cons_eq_cons.1 hpoints
      exact .inr ⟨before, low, between, high, after, hrest, hlow, hhigh⟩
    | nil =>
      obtain ⟨rfl, hrest⟩ := List.cons_eq_cons.1 hpoints
      rcases le_or_less order hkind with hsecond | hsecond
      · cases between with
        | nil =>
          -- the second boundary is not the last one, so it is above the key
          obtain ⟨rfl, rfl⟩ := List.cons_eq_cons.1 hrest
          have hless := hhigh.resolve_right (fun h => by cases h.1)
          exact absurd hless hsecond.not_less
        | cons p between =>
          obtain ⟨rfl, hrest⟩ := List.cons_eq_cons.1 hrest
          exact .inr ⟨[], second, between, high, after, by rw [hrest]; rfl, hsecond, hhigh⟩
      · exact .inl ⟨hlow, hsecond⟩
  · rintro (⟨hlow, hsecond⟩ | h)
    · exact ⟨[], first, [], second, third :: rest, rfl, hlow, .inl hsecond⟩
    · exact h.cons

end Collation

/-! ## Ranges in any order -/

section
variable {order : Collation} {row : Row} {dialect : Dialect} {column : String} {key : SplitPoint}

/-- A key is in one of the ranges exactly if the boundaries bracket it; they need not ascend. -/
theorem exists_rangeConditions_iff (hkey : row.key column = some key) {points : List SplitPoint}
    (hkinds : ∀ p ∈ points, p.kind = key.kind) :
    (∃ c ∈ rangeConditions column (operands dialect points), c.truth order row = .yes) ↔
      order.Brackets points key := by
  induction points with
  | nil => exact iff_of_false (by rintro ⟨c, hc, -⟩; cases hc) fun h => absurd h.two_le (by simp)
  | cons low points ih =>
    cases points with
    | nil => exact iff_of_false (by rintro ⟨c, hc, -⟩; cases hc) fun h => absurd h.two_le (by simp)
    | cons high points =>
      cases points with
      | nil =>
        have htruth := closedRange_truth order dialect hkey low high
        rw [Collation.brackets_pair, ← htruth]
        simp only [operands, List.map_cons, List.map_nil, rangeConditions, List.mem_singleton,
          exists_eq_left]
      | cons next rest =>
        have htruth := halfOpenRange_truth order dialect hkey low high
        rw [Collation.brackets_cons (hkinds high (by simp)),
          ← ih fun p hp => hkinds p (List.mem_cons_of_mem _ hp), ← htruth]
        exact List.exists_mem_cons_iff ..

/-- A row with a key is read exactly if it is in one of the ranges. -/
theorem selected_ofRanges_ne_nil {ranges : List Condition} {predicate : Option String}
    (hmeets : row.Meets predicate) (hkey : row.key column = some key) :
    (SplitPlan.ofRanges ranges column predicate).selected order row ≠ [] ↔
      ∃ c ∈ ranges, c.truth order row = .yes := by
  rw [selected_ofRanges hmeets, hkey, if_neg (by simp), List.append_nil, Ne, List.map_eq_nil_iff,
    List.filter_eq_nil_iff]
  simp

end

/-! ## Collations of letters -/

/-- The collation that compares texts letter by letter, by a rank of the letters. -/
def Collation.letterwise (rank : Char → Nat) : Collation where
  atMost a b := a.toList.map rank ≤ b.toList.map rank
  total a b := by
    simp only [decide_eq_true_eq]
    exact le_total _ _
  trans h h' := by
    simp only [decide_eq_true_eq] at h h' ⊢
    exact h.trans h'

/-- If no two letters have one rank, only equal texts are equal in it. -/
theorem Collation.letterwise_antisymm {rank : Char → Nat} (hrank : Function.Injective rank)
    {a b : String} (h : (letterwise rank).atMost a b = true)
    (h' : (letterwise rank).atMost b a = true) : a = b := by
  simp only [letterwise, decide_eq_true_eq] at h h'
  exact String.toList_inj.1 (hrank.list_map (le_antisymm h h'))

/-- Each capital letter comes right behind its small one, as in a dictionary. -/
def dictionaryRank (c : Char) : Nat :=
  if c.isUpper then 2 * (c.toNat + 32) + 1 else 2 * c.toNat

theorem dictionaryRank_injective : Function.Injective dictionaryRank := by
  intro c d h
  unfold dictionaryRank at h
  refine Char.toNat_inj.1 ?_
  split at h <;> split at h <;> omega

/-! ## Plans between two texts -/

theorem kind_of_mem_textPoints {a b : String} {count : Nat} {p : SplitPoint}
    (hp : p ∈ textPoints a b count) : p.kind = .string := by
  obtain ⟨t, -, rfl⟩ := List.mem_map.1 hp
  rfl

/-- Where the bytes of the bounds are in order, so are the first and the last boundary. -/
theorem textPoints_of_le {a b : String} (h : utf8Bytes a ≤ utf8Bytes b) (count : Nat) :
    ∃ inner, textPoints a b count = .text a :: (inner ++ [.text b]) := by
  refine ⟨((innerCodes a b count).map (innerText a b)).map .text, ?_⟩
  rw [textPoints, asciiBoundaries_eq, lesserText, greaterText, if_pos h, if_pos h]
  simp

/-- **Which rows a plan between two texts reads, under any collation.** A row that meets the user's
condition is read exactly if the boundaries bracket its key. If the least and the greatest key are in
order as bytes too, that is each row: the keys are between the first and the last boundary. -/
theorem text_plan_reads (s : Splitter) (table column a b : String) (predicate : Option String)
    (count : Nat) (hcount : 2 ≤ count) (ha : isAscii a = true) (hb : isAscii b = true) :
    ∃ plan : SplitPlan,
      (s.planFromStats (textBounds table column a b) predicate count).Returns plan ∧
      ∀ (order : Collation) (row : Row) (t : String), row.Meets predicate →
        row.key column = some (.text t) →
        (plan.selected order row ≠ [] ↔ order.Brackets (textPoints a b count) (.text t)) ∧
        (utf8Bytes a ≤ utf8Bytes b → order.Le (.text a) (.text t) → order.Le (.text t) (.text b) →
          plan.selected order row ≠ []) := by
  refine ⟨_, returns_textBounds s table column predicate hcount ha hb, ?_⟩
  intro order row t hmeets hkey
  have hreads : (s.rangePlan (textBounds table column a b) predicate
      (textPoints a b count)).selected order row ≠ [] ↔
        order.Brackets (textPoints a b count) (.text t) := by
    refine (selected_ofRanges_ne_nil hmeets hkey).trans ?_
    rw [ranges_textBounds]
    exact exists_rangeConditions_iff hkey fun p hp => kind_of_mem_textPoints hp
  refine ⟨hreads, fun hbytes hlow hhigh => hreads.2 ?_⟩
  obtain ⟨inner, hpoints⟩ := textPoints_of_le hbytes count
  rw [hpoints]
  exact Collation.brackets_of_ends hlow hhigh

/-- In a dictionary the key `Q` is between `a` and `z`, although its bytes are below those of both. -/
theorem text_plan_reads_capital :
    2 ≤ 2 ∧ isAscii "a" = true ∧ isAscii "z" = true ∧
    (Collation.letterwise dictionaryRank).Le (.text "a") (.text "Q") ∧
    (Collation.letterwise dictionaryRank).Le (.text "Q") (.text "z") ∧
    ∃ plan : SplitPlan,
      (planFromStats { dialect := .mySql } (textBounds "people" "name" "a" "z") none 2).Returns
        plan ∧
      plan.selected (.letterwise dictionaryRank) ⟨fun _ => some (.text "Q"), fun _ => .yes⟩ ≠ [] := by
  obtain ⟨plan, hreturns, hreads⟩ := text_plan_reads { dialect := .mySql } "people" "name" "a" "z"
    none 2 (by decide) (by decide) (by decide)
  refine ⟨by decide, by decide, by decide, by decide, by decide, plan, hreturns, ?_⟩
  exact (hreads _ _ "Q" (fun _ h => by cases h) rfl).2 (by decide) (by decide) (by decide)

/-- Of the keys `a` and `B`, a dictionary has the first one first, and bytes the other one: the row
with the least key is read by no fragment. -/
theorem text_plan_loses_least :
    (∀ x y, (Collation.letterwise dictionaryRank).atMost x y = true →
      (Collation.letterwise dictionaryRank).atMost y x = true → x = y) ∧
    isAscii "a" = true ∧ isAscii "B" = true ∧
    (∀ key ∈ ["a", "B"], (Collation.letterwise dictionaryRank).Le (.text "a") (.text key) ∧
      (Collation.letterwise dictionaryRank).Le (.text key) (.text "B")) ∧
    ∃ plan : SplitPlan,
      (planFromStats { dialect := .mySql } (textBounds "people" "name" "a" "B") none 2).Returns
        plan ∧
      plan.selected (.letterwise dictionaryRank) ⟨fun _ => some (.text "a"), fun _ => .yes⟩ = [] := by
  refine ⟨fun x y => Collation.letterwise_antisymm dictionaryRank_injective, by decide, by decide,
    by decide, _, returns_textBounds _ _ _ _ (by decide) (by decide) (by decide), ?_⟩
  decide

end TableExchange
