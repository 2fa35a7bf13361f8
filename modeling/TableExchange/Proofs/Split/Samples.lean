import Mathlib.Data.List.Destutter
import TableExchange.Proofs.Sql.Meaning
import TableExchange.Split.Probe

/-!
# The keys of a sample

`Probe.samplePoints` sorts integers, leaves texts in the order of the database, and keeps one key of
each run of equal neighbours. Neither loses a key or adds one.

* `mem_samplePoints`: the points of a sample are its keys.
* `length_samplePoints_lt_two`: there are fewer than two points if no two keys differ.
* `pairwise_samplePoints`: the points ascend, if texts came in ascending order.
-/

namespace TableExchange

/-! ## Runs of equal neighbours -/

section
variable {α : Type} [DecidableEq α]

theorem eraseReps_loop (a : α) (l acc : List α) :
    List.eraseRepsBy.loop (· == ·) a l acc = acc.reverse ++ l.destutter' (· ≠ ·) a := by
  induction l generalizing a acc with
  | nil => simp [List.eraseRepsBy.loop]
  | cons b l ih =>
    by_cases h : a = b
    · subst h
      rw [List.destutter'_cons_neg _ (not_not.2 rfl), ← ih]
      simp [List.eraseRepsBy.loop]
    · rw [List.destutter'_cons_pos _ h, List.eraseRepsBy.loop, beq_false_of_ne h]
      simp [ih]

theorem eraseReps_eq_destutter (l : List α) : l.eraseReps = l.destutter (· ≠ ·) := by
  cases l with
  | nil => rfl
  | cons a l => exact eraseReps_loop a l []

theorem eraseReps_sublist (l : List α) : l.eraseReps.Sublist l := by
  rw [eraseReps_eq_destutter]
  exact List.destutter_sublist _ l

theorem isChain_eraseReps (l : List α) : l.eraseReps.IsChain (· ≠ ·) := by
  rw [eraseReps_eq_destutter]
  exact List.isChain_destutter _ l

theorem mem_eraseReps {x : α} {l : List α} : x ∈ l.eraseReps ↔ x ∈ l := by
  have hkept : ∀ (l : List α) (a : α), x ∈ a :: l → x ∈ l.destutter' (· ≠ ·) a := by
    intro l
    induction l with
    | nil => exact fun a h => h
    | cons b l ih =>
      intro a h
      by_cases hab : a = b
      · subst hab
        rw [List.destutter'_cons_neg _ (not_not.2 rfl)]
        exact ih a (by simpa using h)
      · rw [List.destutter'_cons_pos _ hab]
        rcases List.mem_cons.1 h with rfl | h
        · exact List.mem_cons_self
        · exact List.mem_cons_of_mem _ (ih b h)
  refine ⟨fun h => (eraseReps_sublist l).subset h, fun h => ?_⟩
  rw [eraseReps_eq_destutter]
  cases l with
  | nil => cases h
  | cons a l => exact hkept l a h

theorem length_eraseReps_lt_two (l : List α) :
    l.eraseReps.length < 2 ↔ ∀ a ∈ l, ∀ b ∈ l, a = b := by
  constructor
  · intro h a ha b hb
    rw [← mem_eraseReps] at ha hb
    match hl : l.eraseReps, h with
    | [], _ => simp [hl] at ha
    | [c], _ =>
      rw [hl, List.mem_singleton] at ha hb
      rw [ha, hb]
  · intro h
    match hl : l.eraseReps with
    | [] => simp
    | [c] => simp
    | a :: b :: rest =>
      have hne : a ≠ b := by
        have hchain := isChain_eraseReps l
        rw [hl] at hchain
        exact (List.isChain_cons_cons.1 hchain).1
      have ha : a ∈ l := mem_eraseReps.1 (by simp [hl])
      have hb : b ∈ l := mem_eraseReps.1 (by simp [hl])
      exact absurd (h a ha b hb) hne

end

/-! ## Sorting -/

theorem SplitPoint.atMost_trans {a b c : SplitPoint} (h : a.atMost b = true)
    (h' : b.atMost c = true) : a.atMost c = true := by
  cases a <;> cases b <;> cases c <;> simp_all [atMost]
  case integer.integer.integer => omega
  case text.text.text => exact String.le_trans h h'

theorem SplitPoint.atMost_total (a b : SplitPoint) : (a.atMost b || b.atMost a) = true := by
  cases a <;> cases b <;> simp [atMost]
  case integer.integer => omega
  case text.text => exact String.le_total _ _

/-! ## The points of a sample -/

namespace Probe

variable {kind : KeyKind} {keys : List SplitPoint} {order : Collation}

/-- The keys of a sample as they are compared: integers sorted, texts as they came. -/
def arranged (kind : KeyKind) (keys : List SplitPoint) : List SplitPoint :=
  match kind with
  | .numeric => keys.mergeSort SplitPoint.atMost
  | .string => keys

theorem samplePoints_map_some (kind : KeyKind) (keys : List SplitPoint) :
    samplePoints kind (keys.map some) = (arranged kind keys).eraseReps := by
  have hkeys : (keys.map some).filterMap id = keys := by
    simp [List.filterMap_map]
  cases kind <;> simp only [samplePoints, arranged, hkeys]

/-- Integers come in ascending order. -/
theorem pairwise_arranged (keys : List SplitPoint) :
    (arranged .numeric keys).Pairwise fun p q => p.atMost q = true :=
  @List.pairwise_mergeSort _ SplitPoint.atMost (fun _ _ _ => SplitPoint.atMost_trans)
    SplitPoint.atMost_total keys

theorem mem_arranged {p : SplitPoint} : p ∈ arranged kind keys ↔ p ∈ keys := by
  cases kind with
  | numeric => exact List.mem_mergeSort
  | string => exact Iff.rfl

theorem mem_samplePoints {p : SplitPoint} :
    p ∈ samplePoints kind (keys.map some) ↔ p ∈ keys := by
  rw [samplePoints_map_some, mem_eraseReps, mem_arranged]

theorem length_samplePoints_lt_two :
    (samplePoints kind (keys.map some)).length < 2 ↔ ∀ p ∈ keys, ∀ q ∈ keys, p = q := by
  rw [samplePoints_map_some, length_eraseReps_lt_two]
  simp only [mem_arranged]

/-- The points ascend in every collation in which the texts came in ascending order. -/
theorem pairwise_samplePoints (hkind : ∀ p ∈ keys, p.kind = kind)
    (hsorted : kind = .string → keys.Pairwise order.Le) :
    (samplePoints kind (keys.map some)).Pairwise order.Le := by
  rw [samplePoints_map_some]
  refine List.Pairwise.sublist (eraseReps_sublist _) ?_
  cases kind with
  | string => exact hsorted rfl
  | numeric =>
    refine (pairwise_arranged keys).imp_of_mem fun {p q} hp hq h => ?_
    have hp := hkind p (List.mem_mergeSort.1 hp)
    have hq := hkind q (List.mem_mergeSort.1 hq)
    cases p <;> cases q
    case integer.integer m n => simpa [Collation.Le, Collation.compare, SplitPoint.atMost] using h
    all_goals first | cases hp; done | cases hq

end Probe

end TableExchange
