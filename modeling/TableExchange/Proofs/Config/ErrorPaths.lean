import TableExchange.Config.CastSettings
import TableExchange.Config.ReaderSettings
import TableExchange.Proofs.Config.ValuesAtPaths
import TableExchange.Proofs.Results

/-!
# The paths that errors name

An error about a value shows the value and names a path. In the document that a getter reads, the
path leads to this value. The getters for the entries of the list of connections read these as
documents of their own, so their errors name paths that begin at the entry, not at the root.

* `Config.FoundAt`: a document has the value that an error shows at the path that it names.
* `Config.NamesIn`: every error of a step is such an error.
* `ReaderSettings.invalidValue_found`: where settings that are refused hold the value.
-/

namespace TableExchange

open TableExchange.Path

/-- No list of the document is longer than indexes reach. -/
def Json.Addressable (doc : Json) : Prop :=
  ∀ (path : Path) (items : List Json), Leads path doc (.array items) → items.length ≤ 2 ^ 64

theorem Path.Leads.append {p q : Path} {doc v w : Json} (h : Leads p doc v) (h' : Leads q v w) :
    Leads (p ++ q) doc w := by
  rw [leads_iff] at *
  rw [walk_append, h, Option.bind_some, h']

theorem Json.Addressable.of_leads {doc v : Json} {path : Path} (h : doc.Addressable)
    (hv : Leads path doc v) : v.Addressable :=
  fun more items hitems => h (path ++ more) items (hv.append hitems)

theorem Json.addressable_object {members : List (String × Json)}
    (h : ∀ member ∈ members, member.2.Addressable) : (Json.object members).Addressable := by
  intro path items hpath
  cases hpath with
  | member hmember hrest => exact h _ (List.mem_of_find?_eq_some hmember) _ items hrest

theorem Json.addressable_array {values : List Json} (hlength : values.length ≤ 2 ^ 64)
    (h : ∀ value ∈ values, value.Addressable) : (Json.array values).Addressable := by
  intro path items hpath
  cases hpath with
  | here => exact hlength
  | item hitem hrest => exact h _ (List.mem_of_getElem? hitem) _ items hrest

namespace Config

variable {α β : Type} {doc v : Json} {path : String} {found : String}

/-- A document has the value that an error shows at the path that the error names. A null, which may
stand in a list, is reported by the lookup as nothing. -/
inductive FoundAt (doc : Json) (path found : String) : Prop
  | value {v : Json} (hget : get doc path = .ok (some v)) (hfound : found = cut v.compact)
  | nullItem {list : String} {items : List Json} {i : Nat}
    (hlist : get doc list = .ok (some (.array items))) (hitem : items[i]? = some .null)
    (hpath : path = itemPath list i) (hget : get doc path = .ok none)
    (hfound : found = cut Json.null.compact)

/-- A value that an error of a step shows is found in the document. -/
def NamesIn (doc : Json) (x : Except ConfigError α) : Prop :=
  ∀ path expected found, x = .error (.invalidValue path expected found) → FoundAt doc path found

theorem NamesIn.bind {x : Except ConfigError α} {f : α → Except ConfigError β}
    (hx : NamesIn doc x) (hf : ∀ a, x = .ok a → NamesIn doc (f a)) : NamesIn doc (x >>= f) := by
  intro path expected found h
  rcases bind_eq_error.1 h with hfirst | ⟨a, ha, hsecond⟩
  · exact hx path expected found hfirst
  · exact hf a ha path expected found hsecond

theorem namesIn_ok (a : α) : NamesIn doc (.ok a : Except ConfigError α) := nofun

theorem namesIn_get (doc : Json) (text : String) : NamesIn doc (get doc text) := by
  intro path expected found h
  cases (get_eq_error_iff.1 h).1

theorem namesIn_require (doc : Json) (text : String) : NamesIn doc (require doc text) := by
  refine (namesIn_get doc text).bind fun value _ => ?_
  cases value with
  | some v => exact namesIn_ok v
  | none => exact nofun

theorem require_eq_ok_iff : require doc path = .ok v ↔ get doc path = .ok (some v) := by
  rw [require, bind_eq_ok]
  constructor
  · rintro ⟨found, hget, h⟩
    cases found with
    | some v' => cases h; exact hget
    | none => cases h
  · intro hget
    exact ⟨some v, hget, rfl⟩

theorem namesIn_mismatch {expected : Shape} (hget : get doc path = .ok (some v)) :
    NamesIn doc (.error (.mismatch path expected v) : Except ConfigError α) := by
  intro path' expected' found h
  cases h
  exact .value hget rfl

theorem namesIn_scalarText (hget : get doc path = .ok (some v)) :
    NamesIn doc (scalarText path v) := by
  cases v with
  | string s | number n | bool b => exact namesIn_ok _
  | null | array items | object members => exact namesIn_mismatch hget

/-! ## Getters -/

theorem namesIn_string (doc : Json) (path : String) : NamesIn doc (string doc path) := by
  exact (namesIn_require doc path).bind fun v hv => namesIn_scalarText (require_eq_ok_iff.1 hv)

theorem NamesIn.map {x : Except ConfigError α} (h : NamesIn doc x) (f : α → β) :
    NamesIn doc (x.map f) := by
  cases x with
  | ok a => exact namesIn_ok _
  | error e => exact fun path expected found he => h path expected found (by cases he; rfl)

theorem namesIn_optString (doc : Json) (path : String) : NamesIn doc (optString doc path) := by
  refine (namesIn_get doc path).bind fun found hget => ?_
  cases found with
  | some v => exact (namesIn_scalarText hget).map some
  | none => exact namesIn_ok _

theorem namesIn_stringOr (doc : Json) (path other : String) :
    NamesIn doc (stringOr doc path other) :=
  (namesIn_optString doc path).bind fun _ _ => namesIn_ok _

theorem namesIn_optInt (doc : Json) (path : String) : NamesIn doc (optInt doc path) := by
  refine (namesIn_get doc path).bind fun found hget => ?_
  cases found with
  | none => exact namesIn_ok _
  | some v =>
    dsimp only
    split
    · exact namesIn_ok _
    · exact namesIn_mismatch hget

theorem namesIn_intOr (doc : Json) (path : String) (other : Int) :
    NamesIn doc (intOr doc path other) :=
  (namesIn_optInt doc path).bind fun _ _ => namesIn_ok _

theorem namesIn_floatOr (doc : Json) (path : String) (other : Binary64) :
    NamesIn doc (floatOr doc path other) := by
  refine NamesIn.bind ((namesIn_get doc path).bind fun found hget => ?_) fun _ _ => namesIn_ok _
  cases found with
  | none => exact namesIn_ok _
  | some v =>
    dsimp only
    split
    · exact namesIn_ok _
    · exact namesIn_mismatch hget

theorem list_eq_ok_iff {items : List Json} :
    list doc path = .ok items ↔ get doc path = .ok (some (.array items)) := by
  rw [list, bind_eq_ok]
  simp only [require_eq_ok_iff]
  constructor
  · rintro ⟨v, hget, h⟩
    cases v with
    | array items => cases h; exact hget
    | null | bool b | number n | string s | object members => cases h
  · intro hget
    exact ⟨_, hget, rfl⟩

theorem namesIn_list (doc : Json) (path : String) : NamesIn doc (list doc path) := by
  refine (namesIn_require doc path).bind fun v hv => ?_
  have hget : get doc path = .ok (some v) := require_eq_ok_iff.1 hv
  cases v with
  | array items => exact namesIn_ok _
  | null | bool b | number n | string s | object members => exact namesIn_mismatch hget

/-- An element of a list is found behind the list, if its index is one of 64 bits. -/
theorem get_itemPath {items : List Json} {i : Nat}
    (hlist : get doc path = .ok (some (.array items))) (hi : i < 2 ^ 64) :
    get doc (itemPath path i) = .ok (items[i]?.filter (!·.isNull)) := by
  obtain ⟨steps, hsteps, hitems⟩ := get_eq_ok_iff.1 hlist
  rw [get_eq (read?_index hi hsteps), follow_append doc steps (by simp), hitems]
  cases hitem : items[i]? <;> simp [follow, walk, stepInto, Json.item?, hitem]

theorem leads_of_get {text : String} (hget : get doc text = .ok (some v)) :
    ∃ path, Leads path doc v := by
  obtain ⟨path, -, hfollow⟩ := get_eq_ok_iff.1 hget
  exact ⟨path, (follow_eq_some_iff.1 hfollow).1⟩

theorem namesIn_stringList (hdoc : doc.Addressable) (path : String) :
    NamesIn doc (stringList doc path) := by
  refine (namesIn_get doc path).bind fun value hget => ?_
  match value with
  | none => exact namesIn_ok _
  | some (.array items) =>
    obtain ⟨steps, hsteps⟩ := leads_of_get hget
    have hlength := hdoc steps items hsteps
    intro path' expected found h
    obtain ⟨before, ⟨item, i⟩, after, hzip, -, h⟩ := mapM_eq_error.1 h
    have hitem : items[i]? = some item :=
      List.mk_mem_zipIdx_iff_getElem?.1 (hzip ▸ by simp)
    obtain ⟨hi, -⟩ := List.getElem?_eq_some_iff.1 hitem
    have hfound := get_itemPath hget (i := i) (by omega)
    rw [hitem] at hfound
    cases item with
    | null =>
      cases h
      exact .nullItem hget hitem rfl hfound rfl
    | bool b | number n | string s | array xs | object members =>
      exact namesIn_scalarText hfound path' expected found h
  | some .null | some (.bool b) | some (.number n) | some (.string s) | some (.object members) =>
    exact (namesIn_scalarText hget).bind fun _ _ => namesIn_ok _

/-- An error that is not about the shape of a value names no place of a value. -/
theorem namesIn_guard {p : Prop} [Decidable p] {e : ConfigError} {k : PUnit → Except ConfigError α}
    (he : ∀ path expected found, e ≠ .invalidValue path expected found)
    (hk : NamesIn doc (k ⟨⟩)) : NamesIn doc (if p then throw e >>= k else k ⟨⟩) := by
  split
  · intro path expected found h
    cases h
    exact absurd rfl (he path expected found)
  · exact hk

end Config

/-! ## Settings -/

open Config

variable {doc : Json}

theorem CastSettings.namesIn_ofDocument (hdoc : doc.Addressable) :
    NamesIn doc (CastSettings.ofDocument doc) :=
  (namesIn_stringOr doc _ _).bind fun _ _ =>
  (namesIn_stringOr doc _ _).bind fun _ _ =>
  (namesIn_stringOr doc _ _).bind fun _ _ =>
  (namesIn_stringList hdoc _).bind fun _ _ =>
  (namesIn_stringOr doc _ _).bind fun _ _ =>
  (namesIn_stringOr doc _ _).bind fun _ _ => namesIn_ok _

theorem ConnectionSettings.namesIn_ofDocument {entry : Json} (hentry : entry.Addressable)
    (path : String) : NamesIn entry (ConnectionSettings.ofDocument entry path) := by
  refine (namesIn_stringList hentry _).bind fun urls _ => namesIn_guard nofun ?_
  refine (namesIn_stringList hentry _).bind fun tables _ => ?_
  refine (namesIn_stringList hentry _).bind fun queries _ => ?_
  split
  · exact namesIn_ok _
  · exact namesIn_ok _
  · exact nofun
  · exact nofun

namespace ReaderSettings

theorem namesIn_positive (doc : Json) (path : String) : NamesIn doc (positive doc path) := by
  refine (namesIn_optInt doc path).bind fun n _ => ?_
  cases n with
  | none => exact namesIn_ok _
  | some n =>
    dsimp only
    split
    · exact namesIn_ok _
    · exact nofun

theorem namesIn_readFetchSize (doc : Json) : NamesIn doc (readFetchSize doc) := by
  refine (namesIn_intOr doc _ _).bind fun n _ => ?_
  split
  · exact namesIn_ok _
  · exact nofun

theorem namesIn_readDialect (doc : Json) : NamesIn doc (readDialect doc) := by
  refine (namesIn_string doc _).bind fun name _ => ?_
  split
  · exact namesIn_ok _
  · exact nofun

theorem namesIn_optSplitMode (doc : Json) (path : String) :
    NamesIn doc (optSplitMode doc path) := by
  refine (namesIn_get doc path).bind fun value _ => ?_
  cases value with
  | none => exact namesIn_ok _
  | some v =>
    dsimp only
    split
    · exact namesIn_ok _
    · exact nofun

theorem namesIn_check (doc : Json) (s : ReaderSettings) : NamesIn doc s.check := by
  unfold check
  refine namesIn_guard nofun (namesIn_guard nofun (namesIn_guard nofun ?_))
  split
  · exact nofun
  · exact namesIn_ok _

/-! ## Connections -/

/-- The document of an entry in the list of connections is refused. -/
structure EntryFails (doc : Json) (i : Nat) (entry : Json) (e : ConfigError) : Prop where
  listed : ∃ entries, get doc "connection" = .ok (some (.array entries)) ∧ entries[i]? = some entry
  fails : ConnectionSettings.ofDocument entry (itemPath "connection" i) = .error e

theorem readConnections_eq_error {e : ConfigError} (h : readConnections doc = .error e) :
    list doc "connection" = .error e ∨ (∃ i entry, EntryFails doc i entry e) ∨
      e = .invalid "connection" .noConnection := by
  rcases bind_eq_error.1 h with hlist | ⟨entries, hlist, h⟩
  · exact .inl hlist
  · rcases bind_eq_error.1 h with hentries | ⟨connections, -, h⟩
    · obtain ⟨before, ⟨entry, i⟩, after, hzip, -, hfails⟩ := mapM_eq_error.1 hentries
      have hentry : entries[i]? = some entry := List.mk_mem_zipIdx_iff_getElem?.1 (hzip ▸ by simp)
      exact .inr (.inl ⟨i, entry, ⟨entries, list_eq_ok_iff.1 hlist, hentry⟩, hfails⟩)
    · split at h
      · cases h
        exact .inr (.inr rfl)
      · cases h

end ReaderSettings

/-- What is found at a path from some place is found from the root behind the path of that place. -/
theorem Config.FoundAt.behind {entry : Json} {place path found : String}
    (hplace : get doc place = .ok (some entry)) (h : FoundAt entry path found) :
    FoundAt doc (place ++ "." ++ path) found := by
  have hbehind {text : String} {value : Option Json} (hget : get entry text = .ok value) :
      get doc (place ++ "." ++ text) = .ok value := by
    obtain ⟨p, hp, hentry⟩ := get_eq_ok_iff.1 hplace
    obtain ⟨q, hq, hvalue⟩ := get_eq_ok_iff.1 hget
    rw [get_point doc hp hq, hentry, Option.bind_some, hvalue]
  cases h with
  | value hget hfound => exact .value (hbehind hget) hfound
  | nullItem hlist hitem hpath hget hfound =>
    refine .nullItem (hbehind hlist) hitem ?_ (hbehind hget) hfound
    rw [hpath]
    simp [itemPath, String.append_assoc]

theorem Config.FoundAt.ne_null {path found : String} (h : FoundAt .null path found) : False := by
  have hnone {text : String} {value : Option Json} (hget : get .null text = .ok value) :
      value = none := by
    obtain ⟨p, hp, rfl⟩ := get_eq_ok_iff.1 hget
    rw [follow, walk_null (ne_nil_of_read? hp)]
    rfl
  cases h with
  | value hget => cases hnone hget
  | nullItem hlist => cases hnone hlist

namespace ReaderSettings

/-- The error of an entry names a path that begins at the entry. -/
theorem EntryFails.foundAt {i : Nat} {entry : Json} {path found : String} {expected : Shape}
    (hdoc : doc.Addressable) (h : EntryFails doc i entry (.invalidValue path expected found)) :
    FoundAt entry path found ∧ FoundAt doc (itemPath "connection" i ++ "." ++ path) found := by
  obtain ⟨⟨entries, hlist, hentry⟩, hfails⟩ := h
  obtain ⟨steps, hsteps⟩ := leads_of_get hlist
  have hlength := hdoc steps entries hsteps
  obtain ⟨hi, -⟩ := List.getElem?_eq_some_iff.1 hentry
  have hitem : Leads [.index i] (.array entries) entry := .item hentry (.here entry)
  have hfound := ConnectionSettings.namesIn_ofDocument (hdoc.of_leads (hsteps.append hitem))
    (itemPath "connection" i) path expected found hfails
  refine ⟨hfound, hfound.behind ?_⟩
  have hget := get_itemPath hlist (i := i) (by omega)
  rw [hentry] at hget
  cases entry with
  | null => exact hfound.ne_null.elim
  | bool b | number n | string s | array xs | object members => exact hget

theorem foundAt_of_ofDocument {path found : String} {expected : Shape} (hdoc : doc.Addressable)
    (h : ofDocument doc = .error (.invalidValue path expected found)) :
    FoundAt doc path found ∨
      ∃ i entry, EntryFails doc i entry (.invalidValue path expected found) := by
  rcases bind_eq_error.1 h with hdialect | ⟨dialect, -, h⟩
  · exact .inl (namesIn_readDialect doc path expected found hdialect)
  · rcases bind_eq_error.1 h with hconnections | ⟨connections, -, h⟩
    · rcases readConnections_eq_error hconnections with hlist | hentry | hnone
      · exact .inl (namesIn_list doc _ path expected found hlist)
      · exact .inr hentry
      · cases hnone
    · refine .inl (NamesIn.bind (namesIn_stringOr doc _ _) ?_ path expected found h)
      refine fun username _ => (namesIn_stringOr doc _ _).bind fun password _ => ?_
      refine (namesIn_stringList hdoc _).bind fun columns _ => ?_
      refine (namesIn_optString doc _).bind fun predicate _ => ?_
      refine (namesIn_optString doc _).bind fun splitColumn _ => ?_
      refine (namesIn_positive doc _).bind fun advice _ => ?_
      refine (namesIn_floatOr doc _ _).bind fun percentage _ => ?_
      refine (namesIn_readFetchSize doc).bind fun fetchSize _ => ?_
      refine (namesIn_positive doc _).bind fun pieces _ => ?_
      refine (namesIn_optSplitMode doc _).bind fun splitMode _ => ?_
      exact (namesIn_check doc _).bind fun _ _ => namesIn_ok _

/-- **Errors about values name their paths, from the root or from an entry.** If the settings of a
codec or of a reader are refused for the shape of a value, the document has that value at the path
that the error names, unless an entry of the list of connections is at fault. Then the path begins
at that entry, and the value is found from the root behind the path of the entry. -/
theorem invalidValue_found (doc : Json) (hdoc : doc.Addressable) (path : String) (expected : Shape)
    (found : String) :
    (CastSettings.ofDocument doc = .error (.invalidValue path expected found) →
      FoundAt doc path found) ∧
    (ofDocument doc = .error (.invalidValue path expected found) →
      (¬∃ i entry, EntryFails doc i entry (.invalidValue path expected found)) →
        FoundAt doc path found) ∧
    (∀ i entry, EntryFails doc i entry (.invalidValue path expected found) →
      FoundAt entry path found ∧ FoundAt doc (itemPath "connection" i ++ "." ++ path) found) := by
  refine ⟨CastSettings.namesIn_ofDocument hdoc path expected found, fun h hentries => ?_,
    fun i entry => EntryFails.foundAt hdoc⟩
  exact (foundAt_of_ofDocument hdoc h).resolve_right hentries

/-- A list where a format should stand. -/
def nestedFormats : Json :=
  .object [("common", .object [("column", .object [("extraFormats", .array [.array []])])])]

theorem nestedFormats_addressable : nestedFormats.Addressable := by
  have hnested : (Json.array []).Addressable := Json.addressable_array (by simp) (by simp)
  have hformats : (Json.array [.array []]).Addressable :=
    Json.addressable_array (by simp) (by simpa using hnested)
  have hcolumn : (Json.object [("extraFormats", .array [.array []])]).Addressable :=
    Json.addressable_object (by simpa using hformats)
  refine Json.addressable_object (List.forall_mem_singleton.2 ?_)
  exact Json.addressable_object (by simpa using hcolumn)

theorem invalidValue_found_nestedFormats :
    nestedFormats.Addressable ∧
    CastSettings.ofDocument nestedFormats =
      .error (.invalidValue "common.column.extraFormats[0]" .scalar "[]") ∧
    FoundAt nestedFormats "common.column.extraFormats[0]" "[]" :=
  ⟨nestedFormats_addressable, rfl,
    (invalidValue_found nestedFormats nestedFormats_addressable _ .scalar _).1 rfl⟩

/-- A connection whose URL is an object. -/
def objectUrl : Json :=
  .object [("connection", .array [.object [("jdbcUrl", .object [])]]), ("dialect", .string "mysql")]

/-- The error of an entry is not found from the root at the path that it names. -/
theorem entry_value_not_found :
    ofDocument objectUrl = .error (.invalidValue "jdbcUrl" .scalar "\x7b\x7d") ∧
    get objectUrl "jdbcUrl" = .ok none ∧
    get objectUrl "connection[0].jdbcUrl" = .ok (some (.object [])) ∧
    ¬FoundAt objectUrl "jdbcUrl" "\x7b\x7d" := by
  refine ⟨rfl, rfl, rfl, fun h => ?_⟩
  cases h with
  | value hget => cases hget
  | nullItem _ _ _ _ hfound => exact absurd hfound (by decide)

end ReaderSettings

end TableExchange
