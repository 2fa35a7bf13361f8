import Mathlib.Algebra.Ring.Nat
import TableExchange.Config.ReaderSettings
import TableExchange.Proofs.Results
import TableExchange.Proofs.Text.Blank

/-!
# What accepted settings have in common

Settings that are read from a document have passed its checks. What planning needs of them is stated
once.

* `nonBlank_eq_some`: a text that has been trimmed stays as it is.
* `ReaderSettings.check_eq_ok_iff`: what the last check makes sure of.
* `ReaderSettings.ReadFrom`: what of a document settings come from.
* `ReaderSettings.Accepted`, `ReaderSettings.accepted_of_ofDocument`: what all checks make sure of.
-/

namespace TableExchange

/-! ## Trimmed texts -/

/-- A text that has been trimmed stays as it is. -/
theorem nonBlank_eq_some {text trimmed : String} (h : nonBlank text = some trimmed) :
    nonBlank trimmed = some trimmed := by
  obtain ⟨rfl, hne⟩ := nonBlank_eq_some_iff.1 h
  exact nonBlank_eq_some_iff.2 ⟨trim_trim text, hne⟩

theorem bind_nonBlank (text : Option String) :
    (text.bind nonBlank).bind nonBlank = text.bind nonBlank := by
  cases text with
  | none => rfl
  | some text =>
    rw [Option.bind_some]
    cases h : nonBlank text with
    | none => rfl
    | some trimmed => rw [Option.bind_some, nonBlank_eq_some h]

/-! ## Checks -/

namespace ReaderSettings

variable {doc : Json} {s : ReaderSettings} {path : String} {n : Nat}

theorem isLong_of_integer? {value : Json} {m : Int} (h : Config.integer? value = some m) :
    isLong m = true := by
  unfold Config.integer? at h
  split at h
  · next k =>
    split at h
    · next hlong =>
      cases h
      exact hlong
    · cases h
  · exact (Option.filter_eq_some_iff.1 h).2
  · cases h

theorem isLong_of_optInt {m : Int} (h : Config.optInt doc path = .ok (some m)) :
    isLong m = true := by
  obtain ⟨found, -, h⟩ := bind_eq_ok.1 h
  cases found with
  | none => cases h
  | some value =>
    dsimp only at h
    cases hinteger : Config.integer? value with
    | none =>
      rw [hinteger] at h
      cases h
    | some k =>
      rw [hinteger] at h
      cases h
      exact isLong_of_integer? hinteger

/-- A count is at least one, and is read as an integer of 64 bits. -/
theorem positive_eq_ok (h : positive doc path = .ok (some n)) : 1 ≤ n ∧ n < 2 ^ 63 := by
  obtain ⟨found, hfound, h⟩ := bind_eq_ok.1 h
  cases found with
  | none => cases h
  | some m =>
    have hlong := isLong_of_optInt hfound
    rw [isLong, decide_eq_true_iff, maxLong] at hlong
    dsimp only at h
    split at h
    · cases h
      omega
    · cases h

/-- What the last check makes sure of. -/
theorem check_eq_ok_iff :
    s.check = .ok () ↔ (s.isQueryMode = true ∨ s.isTableMode = true) ∧
      (s.isTableMode = true → s.columns ≠ []) ∧
      s.samplePercentage.isStrictlyBetween 0 100 = true ∧
      (s.splitMode = .sample → s.dialect.supportsSampling = true) := by
  unfold check
  dsimp only
  rw [guard_eq_ok, guard_eq_ok, guard_eq_ok, lastGuard_eq_ok]
  cases s.isQueryMode <;> cases s.isTableMode <;> simp

theorem exists_tables_of_isTableMode (h : s.isTableMode = true) {c : ConnectionSettings}
    (hc : c ∈ s.connections) : ∃ names, c.source = .tables names := by
  have hsource := List.all_eq_true.1 h c hc
  cases hnames : c.source with
  | tables names => exact ⟨names, rfl⟩
  | queries texts => simp [hnames, Source.isQueries] at hsource

/-- What planning needs of the settings. -/
structure Accepted (s : ReaderSettings) : Prop where
  oneMode : s.isQueryMode = true ∨ s.isTableMode = true
  advice : 1 ≤ s.adviceCount ∧ s.adviceCount < 2 ^ 63
  pieces : ∀ n, s.eachTableSplitSize = some n → 1 ≤ n ∧ n < 2 ^ 63
  sampling : s.splitMode = .sample → s.dialect.supportsSampling = true
  predicate : s.predicate.bind nonBlank = s.predicate

/-- What of a document, and which checks, settings come from. -/
structure ReadFrom (doc : Json) (s : ReaderSettings) : Prop where
  connections : readConnections doc = .ok s.connections
  predicate : ∃ text : Option String, s.predicate = text.bind nonBlank
  splitColumn : ∃ text : Option String, s.splitColumn = text.bind nonBlank
  advice : ∃ n, positive doc "adviceCount" = .ok n ∧ s.adviceCount = n.getD 1
  pieces : positive doc "eachTableSplitSize" = .ok s.eachTableSplitSize
  checked : s.check = .ok ()

theorem readFrom_of_ofDocument (h : ofDocument doc = .ok s) : s.ReadFrom doc := by
  obtain ⟨dialect, -, h⟩ := bind_eq_ok.1 h
  obtain ⟨connections, hconnections, h⟩ := bind_eq_ok.1 h
  obtain ⟨username, -, h⟩ := bind_eq_ok.1 h
  obtain ⟨password, -, h⟩ := bind_eq_ok.1 h
  obtain ⟨columns, -, h⟩ := bind_eq_ok.1 h
  obtain ⟨predicate, -, h⟩ := bind_eq_ok.1 h
  obtain ⟨splitColumn, -, h⟩ := bind_eq_ok.1 h
  obtain ⟨advice, hadvice, h⟩ := bind_eq_ok.1 h
  obtain ⟨percentage, -, h⟩ := bind_eq_ok.1 h
  obtain ⟨fetchSize, -, h⟩ := bind_eq_ok.1 h
  obtain ⟨pieces, hpieces, h⟩ := bind_eq_ok.1 h
  obtain ⟨splitMode, -, h⟩ := bind_eq_ok.1 h
  obtain ⟨_, hcheck, h⟩ := bind_eq_ok.1 h
  cases h
  exact
    { connections := hconnections
      predicate := ⟨predicate, rfl⟩
      splitColumn := ⟨splitColumn, rfl⟩
      advice := ⟨advice, hadvice, rfl⟩
      pieces := hpieces
      checked := hcheck }

theorem ReadFrom.accepted (h : s.ReadFrom doc) : s.Accepted := by
  obtain ⟨hmode, -, -, hsampling⟩ := check_eq_ok_iff.1 h.checked
  refine ⟨hmode, ?_, fun n hn => positive_eq_ok (hn ▸ h.pieces), hsampling, ?_⟩
  · obtain ⟨advice, hadvice, hcount⟩ := h.advice
    rw [hcount]
    cases advice with
    | none => decide
    | some n => exact positive_eq_ok hadvice
  · obtain ⟨text, htext⟩ := h.predicate
    rw [htext, bind_nonBlank]

theorem accepted_of_ofDocument (h : ofDocument doc = .ok s) : s.Accepted :=
  (readFrom_of_ofDocument h).accepted

end ReaderSettings

end TableExchange
