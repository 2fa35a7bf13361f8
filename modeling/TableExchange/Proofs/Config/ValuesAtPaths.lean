import Mathlib.Data.List.Induction
import TableExchange.Proofs.Config.Paths

/-!
# The values at paths

A path is written as keys with points between them and indexes in brackets. Reading a document at a
path goes down step by step from the root, so a path that is put together of two leads as far as the
second does from where the first one ends.

* `Path.Leads`: where steps lead in a document.
* `Path.write`, `Path.read?_write`: how steps are written, and that they are read back.
* `Config.get_eq`: what a document holds at a path that is read.
* `Config.paths_address_tree`: written paths, paths behind paths, and texts that are no paths.
-/

namespace TableExchange

/-- A step that can be written: a key that is not empty and has no point and no opening bracket in
it, or an index of 64 bits. -/
def Step.IsPlain : Step → Prop
  | .key name => name ≠ "" ∧ '.' ∉ name.toList ∧ '[' ∉ name.toList
  | .index i => i < 2 ^ 64

instance : DecidablePred Step.IsPlain
  | .key _ => inferInstanceAs (Decidable (_ ∧ _ ∧ _))
  | .index _ => inferInstanceAs (Decidable (_ < _))

namespace Path

variable {doc v w : Json} {p q path : Path} {text : String}

/-! ## Steps through a document -/

/-- Steps lead from one value down to another: through the member of a key, or to the element at an
index. -/
inductive Leads : Path → Json → Json → Prop
  | here (v : Json) : Leads [] v v
  | member {members : List (String × Json)} {name : String} {path : Path} {value v : Json}
    (hmember : members.find? (·.1 = name) = some (name, value)) (h : Leads path value v) :
    Leads (.key name :: path) (.object members) v
  | item {items : List Json} {i : Nat} {path : Path} {value v : Json}
    (hitem : items[i]? = some value) (h : Leads path value v) :
    Leads (.index i :: path) (.array items) v

theorem walk_append (doc : Json) (p q : Path) :
    walk doc (p ++ q) = (walk doc p).bind (walk · q) := by
  induction p generalizing doc with
  | nil => rfl
  | cons step p ih =>
    simp only [List.cons_append, walk, Option.bind_assoc, ih]

theorem leads_cons_iff {step : Step} :
    Leads (step :: path) doc v ↔ ∃ value, stepInto doc step = some value ∧ Leads path value v := by
  constructor
  · intro h
    cases h with
    | member hmember h => exact ⟨_, by simp [stepInto, Json.member?, hmember], h⟩
    | item hitem h => exact ⟨_, hitem, h⟩
  · rintro ⟨value, hvalue, h⟩
    cases step with
    | key name =>
      cases doc with
      | object members =>
        obtain ⟨⟨key, value⟩, hmember, rfl⟩ := Option.map_eq_some_iff.1 hvalue
        obtain rfl : key = name := by simpa using List.find?_some hmember
        exact .member hmember h
      | null | bool b | number n | string s | array items => cases hvalue
    | index i =>
      cases doc with
      | array items => exact .item hvalue h
      | null | bool b | number n | string s | object members => cases hvalue

theorem leads_iff : Leads path doc v ↔ walk doc path = some v := by
  induction path generalizing doc with
  | nil => exact ⟨fun h => by cases h; rfl, fun h => by cases h; exact .here _⟩
  | cons step path ih => simp only [leads_cons_iff, walk, Option.bind_eq_some_iff, ih]

theorem walk_null (hne : path ≠ []) : walk .null path = none := by
  cases path with
  | nil => exact absurd rfl hne
  | cons step path => cases step <;> rfl

theorem follow_eq_some_iff : follow doc path = some v ↔ Leads path doc v ∧ v ≠ .null := by
  have hnull (v : Json) : (!v.isNull) = true ↔ v ≠ .null := by cases v <;> simp [Json.isNull]
  rw [follow, Option.filter_eq_some_iff, leads_iff, hnull]

/-- What lies behind a value is found from there; behind null there is nothing. -/
theorem follow_append (doc : Json) (p : Path) (hq : q ≠ []) :
    follow doc (p ++ q) = (follow doc p).bind (follow · q) := by
  ext w
  simp only [Option.bind_eq_some_iff, follow_eq_some_iff, leads_iff, walk_append]
  constructor
  · rintro ⟨⟨v, hv, hw⟩, hne⟩
    refine ⟨v, ⟨hv, ?_⟩, hw, hne⟩
    rintro rfl
    rw [walk_null hq] at hw
    cases hw
  · rintro ⟨v, ⟨hv, -⟩, hw, hne⟩
    exact ⟨⟨v, hv, hw⟩, hne⟩

/-! ## Written paths -/

/-- The text of a step at the front of a path. -/
def stepText : Step → List Char
  | .key name => name.toList
  | .index i => indexText i

/-- The text of a step behind others: a key has a point before it, an index is attached. -/
def attachedText : Step → List Char
  | .key name => '.' :: name.toList
  | .index i => indexText i

/-- A path as text: keys with points between them, indexes in brackets. -/
def write : Path → String
  | [] => ""
  | step :: path => String.ofList (stepText step ++ path.flatMap attachedText)

theorem write_append_key (hne : path ≠ []) (name : String) :
    write (path ++ [.key name]) = write path ++ "." ++ name := by
  cases path with
  | nil => exact absurd rfl hne
  | cons step path =>
    rw [← String.toList_inj]
    simp [write, attachedText]

theorem write_append_index (hne : path ≠ []) (i : Nat) :
    write (path ++ [.index i]) = Config.itemPath (write path) i := by
  cases path with
  | nil => exact absurd rfl hne
  | cons step path =>
    rw [← String.toList_inj, toList_itemPath]
    simp [write, attachedText]

theorem read?_key {name : String} (h : (Step.key name).IsPlain) :
    read? name = some [.key name] := by
  obtain ⟨hne, hpoint, hbracket⟩ := h
  have hspells := SpellsPart.keyed (by simpa using hne) hbracket .none
  rw [List.append_nil, String.ofList_toList] at hspells
  rw [read?_single hpoint, readPart_eq_some_iff.2 hspells]

theorem read?_indexText {i : Nat} (h : i < 2 ^ 64) :
    read? (String.ofList (indexText i)) = some [.index i] := by
  have hindex := spellsIndex_ofNat h
  rw [read?_single (by simp [indexText, hindex.not_mem.2.2]), String.toList_ofList,
    readPart_eq_some_iff]
  exact .indexes (by simp [indexText]) (.more hindex .none)

/-- What is written is read back. -/
theorem read?_write (hne : path ≠ []) (h : ∀ step ∈ path, step.IsPlain) :
    read? (write path) = some path := by
  induction path using List.reverseRecOn with
  | nil => exact absurd rfl hne
  | append_singleton path step ih =>
    simp only [List.forall_mem_append, List.forall_mem_singleton] at h
    obtain ⟨hpath, hstep⟩ := h
    by_cases hfirst : path = []
    · subst hfirst
      cases step with
      | key name => simpa [write, stepText] using read?_key hstep
      | index i => simpa [write, stepText] using read?_indexText hstep
    · cases step with
      | key name => rw [write_append_key hfirst, read?_point, ih hfirst hpath, read?_key hstep]; rfl
      | index i => rw [write_append_index hfirst, read?_index hstep (ih hfirst hpath)]

end Path

/-! ## Values -/

namespace Config

open TableExchange.Path

variable {doc : Json} {path p q : Path} {text first second : String} {found : Option Json}

theorem get_eq (h : read? text = some path) : get doc text = .ok (follow doc path) := by
  rw [get, h]

theorem get_eq_ok_iff :
    get doc text = .ok found ↔ ∃ path, read? text = some path ∧ follow doc path = found := by
  rw [get]
  cases read? text <;> simp

theorem get_eq_error_iff {e : ConfigError} :
    get doc text = .error e ↔ e = .invalidPath text ∧ IsFaulty text := by
  rw [← read?_eq_none_iff, get]
  cases read? text <;> simp [eq_comm]

theorem get_point (doc : Json) (hp : read? first = some p) (hq : read? second = some q) :
    get doc (first ++ "." ++ second) = .ok ((follow doc p).bind (follow · q)) := by
  rw [← follow_append doc p (ne_nil_of_read? hq)]
  refine get_eq ?_
  rw [read?_point, hp, hq]
  rfl

/-- **Paths address exactly the tree.** Steps written as a path lead where they lead in a document,
step by step through members and elements; where they lead nowhere, or to null, nothing is found. A
path behind another one, with a point between them, is looked up in what the first one finds. The
texts that are no paths are refused in every document: they have an empty part, a bracket that is
not closed, a text in brackets that is no index, or text behind a closing bracket. -/
theorem paths_address_tree :
    (∀ (path : Path) (doc : Json), path ≠ [] → (∀ step ∈ path, step.IsPlain) →
      ∃ found, get doc path.write = .ok found ∧
        ∀ v, found = some v ↔ Leads path doc v ∧ v ≠ .null) ∧
    (∀ (first second : String) (doc : Json), ¬IsFaulty first → ¬IsFaulty second →
      ∃ found, get doc first = .ok found ∧
        get doc (first ++ "." ++ second) = match found with
          | some v => get v second
          | none => .ok none) ∧
    (∀ (text : String) (doc : Json), get doc text = .error (.invalidPath text) ↔ IsFaulty text) := by
  refine ⟨fun path doc hne hplain => ?_, fun first second doc hfirst hsecond => ?_,
    fun text doc => ?_⟩
  · exact ⟨_, get_eq (read?_write hne hplain), fun v => follow_eq_some_iff⟩
  · obtain ⟨p, hp⟩ := exists_read? hfirst
    obtain ⟨q, hq⟩ := exists_read? hsecond
    refine ⟨_, get_eq hp, ?_⟩
    rw [get_point doc hp hq]
    cases follow doc p with
    | none => rfl
    | some v => exact (get_eq hq).symm
  · rw [get_eq_error_iff, and_iff_right rfl]

/-- A job with one reader. -/
def readerJob : Json :=
  .object [("job", .object [("content", .array [.object [("reader", .string "mysqlreader")]])])]

theorem paths_address_tree_readerJob :
    get readerJob "job.content[0].reader" = .ok (some (.string "mysqlreader")) := by
  let path : Path := [.key "job", .key "content", .index 0, .key "reader"]
  have hwrite : path.write = "job.content[0].reader" := by decide
  have hleads : Leads path readerJob (.string "mysqlreader") := leads_iff.2 rfl
  obtain ⟨found, hget, hfound⟩ := paths_address_tree.1 path readerJob nofun (by decide)
  rw [← hwrite, hget, (hfound _).2 ⟨hleads, nofun⟩]

end Config

end TableExchange
