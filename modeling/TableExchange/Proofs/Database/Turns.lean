import Mathlib.Data.List.Forall2
import TableExchange.Database.Turns
import TableExchange.Proofs.Database.Exchanges

/-!
# What taking turns comes to

Workers that take turns do, all together, what each of them does alone. Their steps come in any
order, but those of one worker in its own.

* `Interleaves`: a sequence is made of others, each of which keeps its order.
* `Interleaves.perm_flatten`, `Interleaves.sublist`, `Interleaves.filterMap`: what such a sequence
  has of the others.
* `Program.talks_interleave`: the talk of workers that take turns is made of a talk of each.
-/

namespace TableExchange

/-! ## Interleavings -/

theorem set_eq_self {α : Type} {as : List α} {i : Nat} {a : α} (h : as[i]? = some a) :
    as.set i a = as := by
  obtain ⟨_, rfl⟩ := List.getElem?_eq_some_iff.1 h
  exact List.set_getElem_self _

/-- A sequence is made of others: its elements are taken off the fronts of the others until these
are empty. -/
inductive Interleaves {α : Type} : List (List α) → List α → Prop
  | done {ls : List (List α)} (h : ∀ l ∈ ls, l = []) : Interleaves ls []
  | step {ls : List (List α)} {k : Nat} {x : α} {rest t : List α} (hk : ls[k]? = some (x :: rest))
      (h : Interleaves (ls.set k rest) t) : Interleaves ls (x :: t)

namespace Interleaves

variable {α β : Type} {ls : List (List α)} {l t : List α}

theorem nil : Interleaves ([] : List (List α)) [] := .done fun _ h => absurd h List.not_mem_nil

/-- Another sequence may come in front of all the others. -/
theorem cons_append (l : List α) (h : Interleaves ls t) : Interleaves (l :: ls) (l ++ t) := by
  induction l with
  | nil =>
    induction h with
    | done h => exact .done (List.forall_mem_cons.2 ⟨rfl, h⟩)
    | @step ls k x rest t hk _ ih => exact .step (k := k + 1) hk ih
  | cons x l ih => exact .step (k := 0) rfl ih

/-- What is left of each element is left in the same order. -/
theorem filterMap (f : α → Option β) (h : Interleaves ls t) :
    Interleaves (ls.map (List.filterMap f)) (t.filterMap f) := by
  induction h with
  | done h =>
    refine .done fun l hl => ?_
    obtain ⟨l, hmem, rfl⟩ := List.mem_map.1 hl
    rw [h l hmem, List.filterMap_nil]
  | @step ls k x rest t hk _ ih =>
    rw [List.map_set] at ih
    have hk' : (ls.map (List.filterMap f))[k]? = some ((x :: rest).filterMap f) := by
      rw [List.getElem?_map, hk, Option.map_some]
    rw [List.filterMap_cons] at hk' ⊢
    cases hx : f x with
    | none =>
      simp only [hx] at hk' ⊢
      rwa [set_eq_self hk'] at ih
    | some y =>
      simp only [hx] at hk' ⊢
      exact .step hk' ih

theorem map (f : α → β) (h : Interleaves ls t) :
    Interleaves (ls.map (List.map f)) (t.map f) := by
  simpa only [← List.filterMap_eq_map] using h.filterMap (some ∘ f)

theorem filter (p : α → Bool) (h : Interleaves ls t) :
    Interleaves (ls.map (List.filter p)) (t.filter p) := by
  simpa only [← List.filterMap_eq_filter] using h.filterMap (Option.guard (p ·))

theorem perm_flatten (h : Interleaves ls t) : t.Perm ls.flatten := by
  induction h with
  | done h => rw [List.flatten_eq_nil_iff.2 h]
  | @step ls k x rest t hk _ ih =>
    obtain ⟨hlt, hget⟩ := List.getElem?_eq_some_iff.1 hk
    have hsplit : ls = ls.take k ++ (x :: rest) :: ls.drop (k + 1) := by
      rw [← hget, List.getElem_cons_drop, List.take_append_drop]
    have hset : ls.set k rest = ls.take k ++ rest :: ls.drop (k + 1) :=
      List.set_eq_take_append_cons_drop.trans (if_pos hlt)
    rw [hset, List.flatten_append, List.flatten_cons] at ih
    rw [hsplit, List.flatten_append, List.flatten_cons, List.cons_append]
    exact (ih.cons x).trans List.perm_middle.symm

/-- Each of the others is there in its order. -/
theorem sublist (h : Interleaves ls t) (hl : l ∈ ls) : l.Sublist t := by
  induction h generalizing l with
  | done h => rw [h l hl]
  | @step ls k x rest t hk _ ih =>
    obtain ⟨i, hi⟩ := List.mem_iff_getElem?.1 hl
    by_cases hik : k = i
    · subst hik
      obtain rfl : x :: rest = l := Option.some.inj (hk.symm.trans hi)
      exact (ih (List.mem_set (List.getElem?_eq_some_iff.1 hk).1 rest)).cons_cons x
    · have hmem : l ∈ ls.set k rest :=
        List.mem_iff_getElem?.2 ⟨i, by rw [List.getElem?_set_ne hik, hi]⟩
      exact (ih hmem).cons x

/-- A sequence made of one and of empty ones is that one. -/
theorem eq_of_others_nil (h : Interleaves ls t) {k : Nat} (hk : ls[k]? = some l)
    (hothers : ∀ j l', ls[j]? = some l' → j ≠ k → l' = []) : t = l := by
  induction h generalizing l with
  | done h => exact (h l (List.mem_of_getElem? hk)).symm
  | @step ls i x rest t hi _ ih =>
    by_cases hik : i = k
    · subst hik
      obtain rfl : x :: rest = l := Option.some.inj (hi.symm.trans hk)
      have hlt := (List.getElem?_eq_some_iff.1 hi).1
      rw [ih (List.getElem?_set_self hlt)]
      intro j l' hj hji
      rw [List.getElem?_set_ne (Ne.symm hji)] at hj
      exact hothers j l' hj hji
    · cases hothers i _ hi hik

end Interleaves

/-! ## Workers -/

/-- If an element of a list is replaced, and the new list is related to another one, so is the old
list to that with the partner replaced. -/
theorem forall₂_of_set {α β : Type} {R : α → β → Prop} {as : List α} {bs : List β} {i : Nat}
    {a a' : α} (ha : as[i]? = some a) (h : List.Forall₂ R (as.set i a') bs) :
    ∃ b, bs[i]? = some b ∧ R a' b ∧ ∀ b', R a b' → List.Forall₂ R as (bs.set i b') := by
  induction as generalizing i bs with
  | nil => simp at ha
  | cons first rest ih =>
    cases i with
    | zero =>
      obtain rfl : first = a := by simpa using ha
      rw [List.set_cons_zero] at h
      cases h with
      | cons hfirst hrest => exact ⟨_, rfl, hfirst, fun b' hb' => .cons hb' hrest⟩
    | succ i =>
      rw [List.set_cons_succ] at h
      cases h with
      | cons hfirst hrest =>
        obtain ⟨b, hb, hR, hset⟩ := ih ha hrest
        exact ⟨b, hb, hR, fun b' hb' => .cons hfirst (hset b' hb')⟩

theorem forall_mem_of_forall₂ {α β : Type} {P : β → Prop} {as : List α} {bs : List β}
    (h : List.Forall₂ (fun _ b => P b) as bs) : ∀ b ∈ bs, P b := by
  induction h with
  | nil => exact List.forall_mem_nil P
  | cons hb _ ih => exact List.forall_mem_cons.2 ⟨hb, ih⟩

theorem forall₂_and_right {α β : Type} {R : α → β → Prop} {P : β → Prop} {as : List α}
    {bs : List β} (h : List.Forall₂ R as bs) (hP : ∀ b ∈ bs, P b) :
    List.Forall₂ (fun a b => R a b ∧ P b) as bs := by
  induction h with
  | nil => exact .nil
  | cons hb _ ih =>
    obtain ⟨hfirst, hrest⟩ := List.forall_mem_cons.1 hP
    exact .cons ⟨hb, hfirst⟩ (ih hrest)

namespace Program

variable {α β : Type} {p : Program α} {b : β} {log : List Exchange} {results : List α}

/-- What each of several workers said, and what it came to. -/
abbrev Parts (α : Type) := List (List Exchange × α)

/-- The talk of one step and of what follows, if there is a step left. -/
theorem talks_afterStep {resume : Program α → Program β} (h : (p.afterStep resume).Talks log b) :
    (resume p).Talks log b ∨
      ∃ x p' rest, p.Steps x p' ∧ (resume p').Talks rest b ∧ log = x :: rest := by
  cases p with
  | done a => exact .inl h
  | asking url credentials k =>
    cases h with
    | step h ht =>
      cases h with
      | asking answer => exact .inr ⟨_, _, _, .asking answer, ht, rfl⟩
  | executing conn sql fetchSize k =>
    cases h with
    | step h ht =>
      cases h with
      | executing answer => exact .inr ⟨_, _, _, .executing answer, ht, rfl⟩
  | closing conn k =>
    cases h with
    | step h ht =>
      cases h with
      | closing answer => exact .inr ⟨_, _, _, .closing answer, ht, rfl⟩
  | noting note k =>
    cases h with
    | step h ht =>
      cases h with
      | noting => exact .inr ⟨_, _, _, .noting, ht, rfl⟩

theorem talks_inSequence {ps : List (Program α)} (h : (inSequence ps).Talks log results) :
    ∃ parts : Parts α, List.Forall₂ (fun p part => p.Talks part.1 part.2) ps parts ∧
      results = parts.map (·.2) ∧ Interleaves (parts.map (·.1)) log := by
  induction ps generalizing log results with
  | nil =>
    obtain ⟨rfl, rfl⟩ := talks_done_iff.1 h
    exact ⟨[], .nil, rfl, .nil⟩
  | cons p ps ih =>
    obtain ⟨a, u, _, hp, hrest, rfl⟩ := talks_bind_iff.1 h
    obtain ⟨as, v, _, hps, hdone, rfl⟩ := talks_bind_iff.1 hrest
    obtain ⟨rfl, rfl⟩ := talks_done_iff.1 hdone
    obtain ⟨parts, hparts, rfl, hlog⟩ := ih hps
    rw [List.append_nil]
    exact ⟨(u, a) :: parts, .cons hp hparts, rfl, hlog.cons_append u⟩

/-- Workers that take turns say what each of them says alone, in whichever order, and come to what
each of them comes to. The induction is on the schedule; a step that it grants to a worker comes
before what that worker still has to say. -/
theorem talks_interleave {limit : Nat} {schedule : List Nat} {workers : List (Worker α)}
    (h : (interleave limit schedule workers).Talks log results) :
    ∃ parts : Parts α,
      List.Forall₂ (fun w part => w.rest.Talks part.1 part.2) workers parts ∧
      results = parts.map (·.2) ∧ Interleaves (parts.map (·.1)) log := by
  induction schedule generalizing workers log with
  | nil =>
    obtain ⟨parts, hparts, hresults, hlog⟩ := talks_inSequence h
    exact ⟨parts, List.forall₂_map_left_iff.1 hparts, hresults, hlog⟩
  | cons i schedule ih =>
    rw [interleave] at h
    split at h
    · exact ih h
    · next w hw =>
      split at h
      · rcases talks_afterStep h with hrest | ⟨x, p', rest, hstep, hrest, rfl⟩
        · obtain ⟨parts, hparts, hresults, hlog⟩ := ih hrest
          obtain ⟨part, hpart, htalk, hset⟩ := forall₂_of_set hw hparts
          have hsame := hset part htalk
          rw [set_eq_self hpart] at hsame
          exact ⟨parts, hsame, hresults, hlog⟩
        · obtain ⟨parts, hparts, rfl, hlog⟩ := ih hrest
          obtain ⟨⟨said, a⟩, hpart, htalk, hset⟩ := forall₂_of_set hw hparts
          have hsaid : (parts.map (·.1)).set i said = parts.map (·.1) :=
            set_eq_self (by rw [List.getElem?_map, hpart, Option.map_some])
          have hresult : (parts.map (·.2)).set i a = parts.map (·.2) :=
            set_eq_self (by rw [List.getElem?_map, hpart, Option.map_some])
          have hlt : i < (parts.map (·.1)).length := by
            rw [List.length_map]
            exact (List.getElem?_eq_some_iff.1 hpart).1
          refine ⟨parts.set i (x :: said, a), hset (x :: said, a) (.step hstep htalk), ?_, ?_⟩
          · rw [List.map_set, hresult]
          · rw [List.map_set]
            refine .step (List.getElem?_set_self hlt) ?_
            rwa [List.set_set, hsaid]
      · exact ih h

end Program

end TableExchange
