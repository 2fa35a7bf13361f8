import Mathlib.Data.List.DropRight
import TableExchange.Text.Blank

/-!
# Texts without blanks around them

Blanks are taken off while there are any, as other scanners take characters up to a first one that
they stop at.

* `takeWhile_append_stop`, `dropWhile_append_stop`: a text taken apart at such a character.
* `exists_repeated`: what is taken off the end, where only one element is.
* `trim_trim`: trimming twice is trimming once.
* `TrimmedTo`: a text, and what is left of it without the blanks at its ends.
* `trim_eq_iff`, `nonBlank_eq_some_iff`: trimming leaves just that.
-/

namespace TableExchange

variable {cs before middle after : List Char} {text trimmed : String}

/-! ## Characters up to a stop -/

section

variable {p : Char → Bool} {before rest : List Char}

theorem takeWhile_append_stop (hbefore : ∀ c ∈ before, p c = true)
    (hrest : ∀ c ∈ rest.head?, p c = false) : (before ++ rest).takeWhile p = before := by
  rw [List.takeWhile_append_of_pos hbefore]
  cases rest with
  | nil => simp
  | cons c rest => simp [hrest c rfl]

theorem dropWhile_append_stop (hbefore : ∀ c ∈ before, p c = true)
    (hrest : ∀ c ∈ rest.head?, p c = false) : (before ++ rest).dropWhile p = rest := by
  rw [List.dropWhile_append_of_pos hbefore]
  cases rest with
  | nil => simp
  | cons c rest => simp [hrest c rfl]

end

/-! ## Elements at the end -/

section

variable {α : Type}

theorem getLast?_rdropWhile {p : α → Bool} {xs : List α} {x : α}
    (h : x ∈ (xs.rdropWhile p).getLast?) : p x = false := by
  have hfirst := List.head?_dropWhile_not p xs.reverse
  rw [List.rdropWhile, List.getLast?_reverse] at h
  rwa [h] at hfirst

theorem rdropWhile_append {p : α → Bool} {xs ys : List α} (h : ∀ y ∈ ys, p y = true) :
    (xs ++ ys).rdropWhile p = xs.rdropWhile p := by
  rw [List.rdropWhile, List.reverse_append,
    List.dropWhile_append_of_pos fun y hy => h y (List.mem_reverse.1 hy)]
  rfl

/-- Where only one element is taken off the end, copies of it were there. -/
theorem exists_repeated [BEq α] [LawfulBEq α] (a : α) (xs : List α) :
    ∃ k, xs = xs.rdropWhile (· == a) ++ List.replicate k a := by
  have hcopy : ∀ x ∈ xs.rtakeWhile (· == a), x = a := by
    intro x hx
    have hbeq := List.mem_rtakeWhile_imp hx
    exact eq_of_beq hbeq
  have hcopies := List.eq_replicate_iff.2 ⟨rfl, hcopy⟩
  refine ⟨(xs.rtakeWhile (· == a)).length, ?_⟩
  rw [← hcopies, List.rdropWhile_append_rtakeWhile]

end

/-! ## Blanks at one end -/

theorem mem_trimStart {c : Char} (h : c ∈ cs) (hc : isBlank c = false) : c ∈ trimStart cs := by
  rw [← List.takeWhile_append_dropWhile (p := isBlank) (l := cs)] at h
  rcases List.mem_append.1 h with hblank | hkept
  · have hblank := List.all_eq_true.1 List.all_takeWhile c hblank
    rw [hc] at hblank
    cases hblank
  · exact hkept

theorem isBlank_of_head?_trimStart {c : Char} (h : c ∈ (trimStart cs).head?) :
    isBlank c = false := by
  have hfirst := List.head?_dropWhile_not isBlank cs
  rw [trimStart] at h
  rwa [h] at hfirst

theorem isBlank_of_getLast?_trimEnd {c : Char} (h : c ∈ (trimEnd cs).getLast?) :
    isBlank c = false :=
  getLast?_rdropWhile h

theorem exists_trimStart (cs : List Char) :
    ∃ before, (∀ c ∈ before, isBlank c = true) ∧ cs = before ++ trimStart cs :=
  ⟨cs.takeWhile isBlank, List.all_eq_true.1 List.all_takeWhile,
    List.takeWhile_append_dropWhile.symm⟩

theorem exists_trimEnd (cs : List Char) :
    ∃ after, (∀ c ∈ after, isBlank c = true) ∧ cs = trimEnd cs ++ after := by
  obtain ⟨before, hbefore, hcs⟩ := exists_trimStart cs.reverse
  refine ⟨before.reverse, fun c hc => hbefore c (List.mem_reverse.1 hc), ?_⟩
  rw [trimEnd, ← List.reverse_append, ← hcs, List.reverse_reverse]

theorem trimStart_append (hbefore : ∀ c ∈ before, isBlank c = true)
    (hfirst : ∀ c ∈ middle.head?, isBlank c = false) : trimStart (before ++ middle) = middle :=
  dropWhile_append_stop hbefore hfirst

theorem trimEnd_append (hafter : ∀ c ∈ after, isBlank c = true)
    (hlast : ∀ c ∈ middle.getLast?, isBlank c = false) : trimEnd (middle ++ after) = middle := by
  rw [trimEnd, List.reverse_append, trimStart_append, List.reverse_reverse]
  · exact fun c hc => hafter c (List.mem_reverse.1 hc)
  · rwa [List.head?_reverse]

/-! ## Blanks at both ends -/

/-- Only blanks are trimmed. -/
theorem mem_trim {c : Char} (h : c ∈ text.toList) (hc : isBlank c = false) :
    c ∈ (trim text).toList := by
  rw [trim, String.toList_ofList, trimEnd, List.mem_reverse]
  exact mem_trimStart (List.mem_reverse.2 (mem_trimStart h hc)) hc

theorem trimStart_trimEnd (h : trimStart cs = cs) : trimStart (trimEnd cs) = trimEnd cs := by
  have hpart : trimEnd cs <+: cs := List.rdropWhile_prefix isBlank cs
  cases hend : trimEnd cs with
  | nil => rfl
  | cons c rest =>
    rw [hend] at hpart
    obtain ⟨more, rfl⟩ := hpart
    have hfirst : ¬isBlank c = true := List.dropWhile_eq_self_iff.1 h (by simp)
    rw [trimStart, List.dropWhile_cons_of_neg hfirst]

theorem trimStart_trimEnd_trimStart (cs : List Char) :
    trimStart (trimEnd (trimStart cs)) = trimEnd (trimStart cs) :=
  trimStart_trimEnd (List.dropWhile_idempotent isBlank _)

theorem trim_trim (text : String) : trim (trim text) = trim text := by
  have hend : trimEnd (trimEnd (trimStart text.toList)) = trimEnd (trimStart text.toList) :=
    List.rdropWhile_idempotent isBlank _
  rw [trim, trim, String.toList_ofList, trimStart_trimEnd_trimStart, hend]

/-- What is left of a text neither begins nor ends with a blank, and only blanks are gone. -/
structure TrimmedTo (text trimmed : String) : Prop where
  around : ∃ before after, text.toList = before ++ (trimmed.toList ++ after) ∧
    (∀ c ∈ before, isBlank c = true) ∧ ∀ c ∈ after, isBlank c = true
  first : ∀ c ∈ trimmed.toList.head?, isBlank c = false
  last : ∀ c ∈ trimmed.toList.getLast?, isBlank c = false

theorem trimmedTo_trim (text : String) : TrimmedTo text (trim text) := by
  obtain ⟨before, hbefore, htext⟩ := exists_trimStart text.toList
  obtain ⟨after, hafter, hrest⟩ := exists_trimEnd (trimStart text.toList)
  refine ⟨⟨before, after, ?_, hbefore, hafter⟩, fun c hc => ?_, fun c hc => ?_⟩
  · rw [trim, String.toList_ofList, ← hrest, ← htext]
  · rw [trim, String.toList_ofList, ← trimStart_trimEnd_trimStart] at hc
    exact isBlank_of_head?_trimStart hc
  · rw [trim, String.toList_ofList] at hc
    exact isBlank_of_getLast?_trimEnd hc

theorem TrimmedTo.trim_eq (h : TrimmedTo text trimmed) : trim text = trimmed := by
  obtain ⟨⟨before, after, htext, hbefore, hafter⟩, hfirst, hlast⟩ := h
  by_cases hempty : trimmed.toList = []
  · -- nothing is left, and the blanks at the front are all there are
    rw [hempty, List.nil_append] at htext
    have hblank : ∀ c ∈ before ++ after, isBlank c = true := fun c hc =>
      (List.mem_append.1 hc).elim (hbefore c) (hafter c)
    have hstart : trimStart text.toList = [] := by
      rw [htext, ← List.append_nil (before ++ after), trimStart_append hblank (by simp)]
    rw [trim, hstart, ← String.toList_inj, String.toList_ofList, hempty]
    rfl
  · have hrest : ∀ c ∈ (trimmed.toList ++ after).head?, isBlank c = false := by
      rwa [List.head?_append_of_ne_nil _ hempty]
    rw [trim, htext, trimStart_append hbefore hrest, trimEnd_append hafter hlast,
      String.ofList_toList]

theorem trim_eq_iff : trim text = trimmed ↔ TrimmedTo text trimmed :=
  ⟨fun h => h ▸ trimmedTo_trim text, TrimmedTo.trim_eq⟩

theorem nonBlank_eq_some_iff :
    nonBlank text = some trimmed ↔ trim text = trimmed ∧ trimmed ≠ "" := by
  rw [nonBlank]
  split
  · next hempty =>
    refine iff_of_false nofun fun ⟨htrim, hne⟩ => hne ?_
    rw [← htrim, String.isEmpty_iff.1 hempty]
  · next hsome =>
    rw [Option.some_inj]
    exact ⟨fun h => ⟨h, h ▸ fun hempty => hsome (String.isEmpty_iff.2 hempty)⟩, And.left⟩

end TableExchange
