import Mathlib.Data.List.Forall2

/-!
# Results that may be failures

Where a chain of steps that may fail succeeds, each step has succeeded; where it fails, one step is
the first to fail.

* `bind_eq_ok`, `bind_eq_error`: for two steps.
* `mapError_eq_ok`, `map_some_eq_ok`: for a step whose result is put differently.
* `ite_eq_ok`, `guard_eq_ok`, `lastGuard_eq_ok`: for a step that checks a condition.
* `mapM_eq_ok`, `mapM_eq_error`: for one step for each element of a list.
* `forall_mem_of_mapM_eq_ok`: what such steps make sure of.
* `forM_eq_ok`, `forM_eq_error`, `forM_mapError`: for such steps without results.
-/

namespace TableExchange

variable {ε α β : Type}

theorem bind_eq_ok {x : Except ε α} {f : α → Except ε β} {b : β} :
    (x >>= f) = .ok b ↔ ∃ a, x = .ok a ∧ f a = .ok b := by
  cases x <;> simp [bind, Except.bind]

theorem bind_eq_error {x : Except ε α} {f : α → Except ε β} {e : ε} :
    (x >>= f) = .error e ↔ x = .error e ∨ ∃ a, x = .ok a ∧ f a = .error e := by
  cases x <;> simp [bind, Except.bind]

theorem mapError_eq_ok {ε' : Type} {x : Except ε α} {f : ε → ε'} {a : α} :
    x.mapError f = .ok a ↔ x = .ok a := by
  cases x <;> simp [Except.mapError]

theorem map_some_eq_ok {x : Except ε α} {a : α} : x.map some = .ok (some a) ↔ x = .ok a := by
  cases x <;> simp [Except.map]

theorem ite_eq_ok {p : Prop} [Decidable p] {a b : α} {e : ε} :
    (if p then .ok a else .error e : Except ε α) = .ok b ↔ p ∧ b = a := by
  by_cases h : p <;> simp [h, eq_comm]

/-- A check that throws is passed, and the rest succeeds. -/
theorem guard_eq_ok {p : Prop} [Decidable p] {e : ε} {k : PUnit → Except ε α} {a : α} :
    (if p then throw e >>= k else k ⟨⟩) = .ok a ↔ ¬p ∧ k ⟨⟩ = .ok a := by
  by_cases h : p
  · have hthrow : (throw e >>= k : Except ε α) = .error e := rfl
    simp [h, hthrow]
  · simp [h]

/-- A check that throws is passed at the end. -/
theorem lastGuard_eq_ok {p : Prop} [Decidable p] {e : ε} :
    (if p then throw e else pure () : Except ε Unit) = .ok () ↔ ¬p := by
  by_cases h : p
  · simp [h, throw, throwThe, MonadExceptOf.throw]
  · simp [h, pure, Except.pure]

theorem mapM_eq_ok {f : α → Except ε β} {as : List α} {bs : List β} :
    as.mapM f = .ok bs ↔ List.Forall₂ (fun a b => f a = .ok b) as bs := by
  induction as generalizing bs with
  | nil =>
    rw [List.mapM_nil, List.forall₂_nil_left_iff]
    exact ⟨fun h => by cases h; rfl, fun h => by rw [h]; rfl⟩
  | cons a as ih =>
    rw [List.mapM_cons, bind_eq_ok, List.forall₂_cons_left_iff]
    constructor
    · intro h
      obtain ⟨b, hb, h⟩ := h
      obtain ⟨rest, hrest, h⟩ := bind_eq_ok.1 h
      cases h
      exact ⟨b, rest, hb, ih.1 hrest, rfl⟩
    · intro h
      obtain ⟨b, rest, hb, hrest, rfl⟩ := h
      exact ⟨b, hb, bind_eq_ok.2 ⟨rest, ih.2 hrest, rfl⟩⟩

/-- What a step makes sure of holds of all results. -/
theorem forall_mem_of_mapM_eq_ok {f : α → Except ε β} {p : β → Prop} {as : List α} {bs : List β}
    (hp : ∀ a b, f a = .ok b → p b) (h : as.mapM f = .ok bs) : ∀ b ∈ bs, p b :=
  ((List.forall₂_and_left bs as).1 ((mapM_eq_ok.1 h).flip.imp fun b a hb => ⟨hp a b hb, hb⟩)).1

/-- A chain fails with its first failure. -/
theorem mapM_eq_error {f : α → Except ε β} {as : List α} {e : ε} :
    as.mapM f = .error e ↔ ∃ before a after, as = before ++ a :: after ∧
      (∀ x ∈ before, ∃ b, f x = .ok b) ∧ f a = .error e := by
  constructor
  · intro h
    induction as with
    | nil => cases h
    | cons a as ih =>
      rw [List.mapM_cons] at h
      rcases bind_eq_error.1 h with ha | ⟨b, hb, h⟩
      · exact ⟨[], a, as, rfl, by simp, ha⟩
      · have hrest : as.mapM f = .error e := by simpa [bind_eq_error, pure, Except.pure] using h
        obtain ⟨before, x, after, rfl, hbefore, hx⟩ := ih hrest
        exact ⟨a :: before, x, after, rfl, List.forall_mem_cons.2 ⟨⟨b, hb⟩, hbefore⟩, hx⟩
  · rintro ⟨before, a, after, rfl, hbefore, ha⟩
    induction before with
    | nil => rw [List.nil_append, List.mapM_cons, ha]; rfl
    | cons x before ih =>
      obtain ⟨⟨b, hb⟩, hbefore⟩ := List.forall_mem_cons.1 hbefore
      rw [List.cons_append, List.mapM_cons, hb, bind_eq_error]
      exact .inr ⟨b, rfl, bind_eq_error.2 (.inl (ih hbefore))⟩

theorem forM_eq_mapM (f : α → Except ε Unit) (as : List α) :
    as.forM f = (as.mapM f).map fun _ => () := by
  induction as with
  | nil => rfl
  | cons a as ih =>
    rw [List.mapM_cons]
    show (f a >>= fun _ => as.forM f) = _
    rw [ih]
    cases f a with
    | error e => rfl
    | ok _ => cases as.mapM f <;> rfl

theorem forM_eq_ok {f : α → Except ε Unit} {as : List α} :
    as.forM f = .ok () ↔ ∀ a ∈ as, f a = .ok () := by
  induction as with
  | nil => simp [pure, Except.pure]
  | cons a as ih =>
    rw [List.forM_eq_forM, List.forM_cons, bind_eq_ok, List.forall_mem_cons, ← ih]
    exact ⟨fun ⟨_, ha, has⟩ => ⟨ha, has⟩, fun ⟨ha, has⟩ => ⟨(), ha, has⟩⟩

/-- A failure is put differently at the end or at once. -/
theorem forM_mapError {ε' : Type} (f : α → Except ε Unit) (g : ε → ε') (as : List α) :
    (as.forM f).mapError g = as.forM fun a => (f a).mapError g := by
  induction as with
  | nil => rfl
  | cons a as ih =>
    rw [List.forM_eq_forM, List.forM_eq_forM, List.forM_cons, List.forM_cons,
      ← List.forM_eq_forM, ← List.forM_eq_forM, ← ih]
    cases f a <;> rfl

/-- A chain of steps without results fails with its first failure, too. -/
theorem forM_eq_error {f : α → Except ε Unit} {as : List α} {e : ε} :
    as.forM f = .error e ↔ ∃ before a after, as = before ++ a :: after ∧
      (∀ x ∈ before, f x = .ok ()) ∧ f a = .error e := by
  have hmap (r : Except ε (List Unit)) : (r.map fun _ => ()) = .error e ↔ r = .error e := by
    cases r <;> simp [Except.map]
  have hunit (x : α) : (∃ b, f x = .ok b) ↔ f x = .ok () :=
    ⟨fun ⟨_, h⟩ => h, fun h => ⟨(), h⟩⟩
  rw [forM_eq_mapM, hmap, mapM_eq_error]
  simp only [hunit]

end TableExchange
