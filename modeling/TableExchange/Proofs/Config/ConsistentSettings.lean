import TableExchange.Proofs.Config.AcceptedSettings
import TableExchange.Proofs.Config.NullMembers
import TableExchange.Proofs.Number.Neighbours

/-!
# Accepted settings are consistent

Whatever the values of a document are, the settings that are read from it are refused, or they have
all that a reader relies on: something to connect to and to read, of one kind; counts of at least
one; a percentage between its bounds; and texts without blanks around them.

* `IsTrimmed`, `isTrimmed_of_nonBlank`: texts without blanks around them.
* `ConnectionSettings.IsComplete`: what a connection has.
* `ReaderSettings.Consistent`: what the settings have.
* `ReaderSettings.consistent_of_ofDocument`: accepted settings have it, and do not depend on keys
  whose values are null.
-/

namespace TableExchange

/-! ## Trimmed texts -/

/-- A text that is not empty, and neither begins nor ends with a blank. -/
structure IsTrimmed (text : String) : Prop where
  nonempty : text ≠ ""
  first : ∀ c ∈ text.toList.head?, isBlank c = false
  last : ∀ c ∈ text.toList.getLast?, isBlank c = false

theorem isTrimmed_of_nonBlank {text trimmed : String} (h : nonBlank text = some trimmed) :
    IsTrimmed trimmed := by
  obtain ⟨rfl, hne⟩ := nonBlank_eq_some_iff.1 h
  obtain ⟨-, hfirst, hlast⟩ := trimmedTo_trim text
  exact ⟨hne, hfirst, hlast⟩

theorem isTrimmed_of_bind {text : Option String} {trimmed : String}
    (h : text.bind nonBlank = some trimmed) : IsTrimmed trimmed := by
  obtain ⟨full, -, hfull⟩ := Option.bind_eq_some_iff.1 h
  exact isTrimmed_of_nonBlank hfull

/-! ## Connections -/

/-- The tables or queries of a source. -/
def Source.entries : Source → List String
  | .tables names => names
  | .queries texts => texts

/-- A connection has a URL, and something to read. -/
structure ConnectionSettings.IsComplete (c : ConnectionSettings) : Prop where
  urls : c.urls ≠ []
  source : c.source.entries ≠ []

theorem ConnectionSettings.isComplete_of_ofDocument {entry : Json} {path : String}
    {c : ConnectionSettings} (h : ofDocument entry path = .ok c) : c.IsComplete := by
  obtain ⟨urls, -, h⟩ := bind_eq_ok.1 h
  obtain ⟨hurls, h⟩ := guard_eq_ok.1 h
  obtain ⟨tables, -, h⟩ := bind_eq_ok.1 h
  obtain ⟨queries, -, h⟩ := bind_eq_ok.1 h
  split at h
  · next htables _ => cases h; exact ⟨by simpa using hurls, by simpa [Source.entries] using htables⟩
  · next hqueries => cases h; exact ⟨by simpa using hurls, by simpa [Source.entries] using hqueries⟩
  · cases h
  · cases h

namespace ReaderSettings

variable {doc : Json} {s : ReaderSettings}

theorem readConnections_eq_ok {connections : List ConnectionSettings}
    (h : readConnections doc = .ok connections) :
    connections ≠ [] ∧ ∀ c ∈ connections, c.IsComplete := by
  obtain ⟨entries, -, h⟩ := bind_eq_ok.1 h
  obtain ⟨found, hfound, h⟩ := bind_eq_ok.1 h
  obtain ⟨hne, h⟩ := guard_eq_ok.1 h
  cases h
  refine ⟨by simpa using hne, forall_mem_of_mapM_eq_ok ?_ hfound⟩
  exact fun _ _ => ConnectionSettings.isComplete_of_ofDocument

/-- What a reader relies on. -/
structure Consistent (s : ReaderSettings) : Prop where
  connected : s.connections ≠ []
  complete : ∀ c ∈ s.connections, c.IsComplete
  oneMode : s.isTableMode = true ∨ s.isQueryMode = true
  columns : s.isTableMode = true → s.columns ≠ []
  advice : 1 ≤ s.adviceCount
  pieces : ∀ n, s.eachTableSplitSize = some n → 1 ≤ n
  percentage : ∃ x : Binary64.Finite, s.samplePercentage = .finite x ∧ 0 < x.value ∧ x.value < 100
  sampling : s.splitMode = .sample → s.dialect.supportsSampling = true
  predicate : ∀ text, s.predicate = some text → IsTrimmed text
  splitColumn : ∀ text, s.splitColumn = some text → IsTrimmed text

theorem ReadFrom.consistent (h : s.ReadFrom doc) : s.Consistent := by
  obtain ⟨hconnected, hcomplete⟩ := readConnections_eq_ok h.connections
  obtain ⟨hmode, hcolumns, hpercentage, hsampling⟩ := check_eq_ok_iff.1 h.checked
  obtain ⟨predicate, hpredicate⟩ := h.predicate
  obtain ⟨splitColumn, hsplitColumn⟩ := h.splitColumn
  exact
    { connected := hconnected
      complete := hcomplete
      oneMode := hmode.symm
      columns := hcolumns
      advice := h.accepted.advice.1
      pieces := fun n hn => (h.accepted.pieces n hn).1
      percentage := by simpa using Binary64.isStrictlyBetween_iff.1 hpercentage
      sampling := hsampling
      predicate := fun text htext => isTrimmed_of_bind (hpredicate ▸ htext)
      splitColumn := fun text htext => isTrimmed_of_bind (hsplitColumn ▸ htext) }

/-- **Accepted settings are consistent.** Settings that are read from a document have all that a
reader relies on, and the document without the keys whose values are null, at its top and in the
entries of its list of connections, has the same settings. -/
theorem consistent_of_ofDocument (doc : Json) (h : ofDocument doc = .ok s) :
    s.Consistent ∧ ofDocument (withoutNulls doc) = .ok s :=
  ⟨(readFrom_of_ofDocument h).consistent, (ofDocument_withoutNulls doc).trans h⟩

/-- A document with keys whose values are null, and with numbers and texts in other forms. -/
def looseSettings : Json :=
  .object [("column", .string "*"),
    ("connection", .array [.object [("jdbcUrl", .string "db"), ("querySql", .null),
      ("table", .array [.string "orders"])]]),
    ("dialect", .string "mysql"), ("samplePercentage", .string " 0.5 "), ("splitPk", .null),
    ("where", .string " id > 0 ")]

theorem consistent_of_ofDocument_looseSettings :
    ∃ s, ofDocument looseSettings = .ok s ∧ s.predicate = some "id > 0" ∧ s.Consistent ∧
      ofDocument (withoutNulls looseSettings) = .ok s :=
  ⟨_, rfl, rfl, consistent_of_ofDocument looseSettings rfl⟩

end ReaderSettings

end TableExchange
