import TableExchange.Split.Plan

/-!
# What conditions mean

A condition is judged for one row by three-valued logic: a comparison with null is neither true nor
false. A row gives a key or null to each column, and a truth value to each text that a user has
written; nothing is known of these texts.

* `Truth`: the three truth values; a row is read where a condition is `Truth.yes`.
* `Collation`: a database's order of texts. It is any total preorder, so that different texts may
  be equal in it (`Collation.Le`, `Collation.Less`: the order of keys under a collation).
* `Condition.truth`: the truth value of a condition.
* `SplitPlan.selected`: the fragments of a plan that a row is read by.
-/

namespace TableExchange

/-! ## Truth values -/

inductive Truth where
  | no | unknown | yes
  deriving DecidableEq, Repr

namespace Truth

def ofBool (b : Bool) : Truth := if b then .yes else .no

def not : Truth → Truth
  | .no => .yes
  | .unknown => .unknown
  | .yes => .no

/-- The conjunction: the lesser of two truth values. -/
def and : Truth → Truth → Truth
  | .yes, b => b
  | .no, _ => .no
  | .unknown, .no => .no
  | .unknown, _ => .unknown

/-- The disjunction: the greater of two truth values. -/
def or (a b : Truth) : Truth := (a.not.and b.not).not

@[simp] theorem ofBool_eq_yes {b : Bool} : ofBool b = .yes ↔ b = true := by cases b <;> simp [ofBool]

@[simp] theorem ofBool_eq_no {b : Bool} : ofBool b = .no ↔ b = false := by cases b <;> simp [ofBool]

@[simp] theorem not_eq_yes {a : Truth} : a.not = .yes ↔ a = .no := by cases a <;> simp [not]

@[simp] theorem and_eq_yes {a b : Truth} : a.and b = .yes ↔ a = .yes ∧ b = .yes := by
  cases a <;> cases b <;> simp [and]

@[simp] theorem or_eq_yes {a b : Truth} : a.or b = .yes ↔ a = .yes ∨ b = .yes := by
  cases a <;> cases b <;> simp [or, and, not]

end Truth

/-! ## Orders of keys -/

/-- The order in which a database compares texts: a total preorder. -/
structure Collation where
  atMost : String → String → Bool
  total : ∀ a b, atMost a b = true ∨ atMost b a = true
  trans : ∀ {a b c}, atMost a b = true → atMost b c = true → atMost a c = true

namespace Collation

variable (order : Collation)

/-- Whether one key is at most another; nothing is known of keys of different kinds. -/
def compare : SplitPoint → SplitPoint → Truth
  | .integer a, .integer b => .ofBool (a ≤ b)
  | .text a, .text b => .ofBool (order.atMost a b)
  | _, _ => .unknown

def Le (a b : SplitPoint) : Prop := order.compare a b = .yes

def Less (a b : SplitPoint) : Prop := order.compare b a = .no

instance (a b : SplitPoint) : Decidable (order.Le a b) := inferInstanceAs (Decidable (_ = _))

instance (a b : SplitPoint) : Decidable (order.Less a b) := inferInstanceAs (Decidable (_ = _))

variable {order} {a b c : SplitPoint}

theorem Le.kind_eq (h : order.Le a b) : a.kind = b.kind := by
  cases a <;> cases b <;> first | rfl | cases h

theorem Less.kind_eq (h : order.Less a b) : a.kind = b.kind := by
  cases a <;> cases b <;> first | rfl | cases h

theorem le_or_less (order : Collation) (h : a.kind = b.kind) : order.Le a b ∨ order.Less b a := by
  cases a <;> cases b
  case integer.integer m n =>
    simp only [Le, Less, compare, Truth.ofBool_eq_yes, Truth.ofBool_eq_no, decide_eq_true_eq,
      decide_eq_false_iff_not]
    omega
  case text.text s t => cases hst : order.atMost s t <;> simp [Le, Less, compare, hst]
  all_goals cases h

theorem Le.not_less (h : order.Le a b) : ¬order.Less b a := by
  intro h'
  rw [Less, h] at h'
  cases h'

theorem Less.not_le (h : order.Less a b) : ¬order.Le b a := fun h' => h'.not_less h

theorem Less.le (h : order.Less a b) : order.Le a b := by
  cases a <;> cases b
  case integer.integer m n =>
    simp only [Less, compare, Truth.ofBool_eq_no, decide_eq_false_iff_not] at h
    simp only [Le, compare, Truth.ofBool_eq_yes, decide_eq_true_eq]
    omega
  case text.text s t =>
    simp only [Less, compare, Truth.ofBool_eq_no] at h
    have := order.total s t
    simp_all [Le, compare]
  all_goals cases h

theorem Le.trans (h : order.Le a b) (h' : order.Le b c) : order.Le a c := by
  cases a <;> cases b <;> cases c
  case integer.integer.integer l m n =>
    simp only [Le, compare, Truth.ofBool_eq_yes, decide_eq_true_eq] at *
    omega
  case text.text.text s t u =>
    simp only [Le, compare, Truth.ofBool_eq_yes] at *
    exact order.trans h h'
  all_goals first | cases h | cases h'

theorem Le.refl (a : SplitPoint) : order.Le a a := by
  cases a with
  | integer n => simp [Le, compare]
  | text s => simpa [Le, compare] using order.total s s

theorem Less.trans_le (h : order.Less a b) (h' : order.Le b c) : order.Less a c := by
  have hk : c.kind = a.kind := (h.kind_eq.trans h'.kind_eq).symm
  rcases le_or_less order hk with hca | hac
  · exact absurd (h'.trans hca) h.not_le
  · exact hac

theorem Le.trans_less (h : order.Le a b) (h' : order.Less b c) : order.Less a c := by
  have hk : c.kind = a.kind := (h.kind_eq.trans h'.kind_eq).symm
  rcases le_or_less order hk with hca | hac
  · exact absurd (hca.trans h) h'.not_le
  · exact hac

end Collation

/-! ## Rows -/

/-- What a row has in each column, and how it answers to each text that a user has written. -/
structure Row where
  key : String → Option SplitPoint
  given : String → Truth

/-- Whether a row meets a user's condition; every row meets none. -/
def Row.Meets (row : Row) (predicate : Option String) : Prop :=
  ∀ text, predicate = some text → row.given text = .yes

/-- What an operand stands for in a row; null is none. -/
def Operand.value (row : Row) : Operand → Option SplitPoint
  | .column name => row.key name
  | .integer n => some (.integer n)
  | .text _ s => some (.text s)

/-- Whether one value is at most another; nothing is known of null. -/
def Collation.compareValues (order : Collation) : Option SplitPoint → Option SplitPoint → Truth
  | some a, some b => order.compare a b
  | _, _ => .unknown

namespace Collation

variable (order : Collation)

@[simp] theorem compareValues_some (a b : SplitPoint) :
    order.compareValues (some a) (some b) = order.compare a b := rfl

@[simp] theorem compareValues_none_left (b : Option SplitPoint) :
    order.compareValues none b = .unknown := by cases b <;> rfl

@[simp] theorem compareValues_none_right (a : Option SplitPoint) :
    order.compareValues a none = .unknown := by cases a <;> rfl

end Collation

@[simp] theorem value_column (row : Row) (name : String) :
    (Operand.column name).value row = row.key name := rfl

@[simp] theorem value_operand (row : Row) (dialect : Dialect) (p : SplitPoint) :
    (p.operand dialect).value row = some p := by cases p <;> rfl

def Condition.truth (order : Collation) (row : Row) : Condition → Truth
  | .given text => row.given text
  | .less a b => (order.compareValues (b.value row) (a.value row)).not
  | .atMost a b => order.compareValues (a.value row) (b.value row)
  | .isNull column => .ofBool (row.key column).isNone
  | .both a b => (a.truth order row).and (b.truth order row)
  | .either a b => (a.truth order row).or (b.truth order row)
  | .group c => c.truth order row

/-- The truth value of a fragment's condition; without one every row is read. -/
def Fragment.truth (order : Collation) (row : Row) (f : Fragment) : Truth :=
  match f.condition with
  | some c => c.truth order row
  | none => .yes

def SplitPlan.selected (order : Collation) (row : Row) (plan : SplitPlan) : List Fragment :=
  plan.fragments.filter (·.truth order row = .yes)

/-! ## Conditions under a user's own -/

section
variable {order : Collation} {row : Row} {predicate : Option String} {column : String}

theorem truth_under {c : Condition} :
    (Condition.under predicate c).truth order row = .yes ↔
      row.Meets predicate ∧ c.truth order row = .yes := by
  cases predicate with
  | none => simp [Condition.under, Row.Meets]
  | some text => simp [Condition.under, Condition.truth, Row.Meets]

/-- The fragments of split ranges: those whose range holds the row and, for a row without a key,
the last one. -/
theorem selected_ofRanges (h : row.Meets predicate) (ranges : List Condition) :
    (SplitPlan.ofRanges ranges column predicate).selected order row =
      (ranges.filter (·.truth order row = .yes)).map (.range predicate) ++
        if row.key column = none then [.nullPartition column predicate] else [] := by
  have hrange : (fun f : Fragment => decide (f.truth order row = .yes)) ∘ Fragment.range predicate =
      fun c => decide (c.truth order row = .yes) := by
    funext c
    simp only [Function.comp, Fragment.truth, Fragment.range, truth_under, h, true_and]
  have hnull : (Fragment.nullPartition column predicate).truth order row = .yes ↔
      row.key column = none := by
    simp only [Fragment.truth, Fragment.nullPartition, Condition.nullPartition, truth_under, h,
      true_and, Condition.truth, Truth.ofBool_eq_yes, Option.isNone_iff_eq_none]
  rw [SplitPlan.selected, SplitPlan.ofRanges, List.filter_append, List.filter_map, hrange]
  by_cases hkey : row.key column = none <;> simp [hnull, hkey]

theorem selected_ofRanges_of_not_meets (h : ¬row.Meets predicate) (ranges : List Condition) :
    (SplitPlan.ofRanges ranges column predicate).selected order row = [] := by
  rw [SplitPlan.selected, List.filter_eq_nil_iff]
  intro f hf
  simp only [SplitPlan.ofRanges, List.mem_append, List.mem_map, List.mem_singleton] at hf
  rcases hf with ⟨c, -, rfl⟩ | rfl
  · simp [Fragment.truth, Fragment.range, truth_under, h]
  · simp [Fragment.truth, Fragment.nullPartition, Condition.nullPartition, truth_under, h]

/-- The plan with one fragment reads the rows that meet the user's condition. -/
theorem selected_single (order : Collation) (row : Row) (predicate : Option String) :
    (row.Meets predicate →
      (SplitPlan.single predicate).selected order row = [.unsplit predicate]) ∧
    (¬row.Meets predicate → (SplitPlan.single predicate).selected order row = []) := by
  have htruth : (Fragment.unsplit predicate).truth order row = .yes ↔ row.Meets predicate := by
    cases predicate <;> simp [Fragment.truth, Fragment.unsplit, Row.Meets, Condition.truth]
  constructor <;> intro h <;> simp [SplitPlan.selected, SplitPlan.single, htruth, h]

end

end TableExchange
