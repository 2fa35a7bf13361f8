import Mathlib.Algebra.Ring.Nat
import TableExchange.Database.Run
import TableExchange.Proofs.Results
import TableExchange.Proofs.Row.Columns
import TableExchange.Row.Scan

/-!
# Scans lose no row

Every row that a driver returns is handed over once, in order: as a record, or as the row that it is
with the reason why it is none. A failure of the driver ends the scan; what came before it stays
handed over.

* `HandedOver`: what an observer is told of one row.
* `sizeOfContent`, `Record.byteSize_of_materializeRow`: the size of a record.
* `handOver_eq`, `handOverAll_eq`: handing over one row, and all rows, with what is counted.
* `scan_conserves`: what a scan comes to on any database.
-/

namespace TableExchange

/-! ## Programs that only tell -/

namespace Program

variable {α β σ : Type}

/-- Tells some notes, one after the other, and goes on. -/
def telling (notes : List Note) (p : Program α) : Program α := notes.foldr .noting p

theorem telling_append (notes notes' : List Note) (p : Program α) :
    telling (notes ++ notes') p = telling notes (telling notes' p) := List.foldr_append

theorem bind_telling (notes : List Note) (p : Program α) (f : α → Program β) :
    (telling notes p).bind f = telling notes (p.bind f) := by
  induction notes with
  | nil => rfl
  | cons note notes ih => exact congrArg (noting note) ih

theorem run_telling (server : Server σ) (notes : List Note) (p : Program α) (s : σ)
    (next : Handle) :
    (telling notes p).run server s next = (p.run server s next).after (notes.map .noted) := by
  induction notes with
  | nil => rfl
  | cons note notes ih =>
    show ((telling notes p).run server s next).after [.noted note] = _
    rw [ih]
    rfl

end Program

/-! ## Rows -/

variable {columns : List Column} {row : DriverRow} {table : String} {column : Column}
  {v : DriverValue}

/-- The cells of a row are those of its values, each in its column. -/
abbrev CellsOf (columns : List Column) (row : DriverRow) (cells : List Cell) : Prop :=
  List.Forall₂ (fun (p : Column × DriverValue) cell => materializeCell p.1 p.2 = .ok cell)
    (columns.zip row) cells

theorem materializeCells_eq_mapM (columns : List Column) (row : DriverRow) :
    materializeCells columns row =
      (columns.zip row).mapM fun p => materializeCell p.1 p.2 := by
  fun_induction materializeCells columns row with
  | case1 column columns v row ih => rw [List.zip_cons_cons, List.mapM_cons, ih]
  | case2 columns row h =>
    cases columns with
    | nil => rfl
    | cons column columns =>
      cases row with
      | nil => rfl
      | cons v row => exact (h _ _ _ _ rfl rfl).elim

/-- A row that becomes no record is told of, and handed over as it is. -/
abbrev asDirty (table : String) (row : DriverRow) (reason : CellError) : List Note :=
  [.event (.dirtyRecord table reason.message), .dirty row reason]

/-- What an observer is told of a row: a record with one cell for each column if the row has a value
for each and all of them become cells; otherwise why not. The leftmost value that becomes no cell is
the reason. -/
inductive HandedOver (table : String) (columns : List Column) (row : DriverRow) :
    List Note → Prop
  | record {cells : List Cell} (hlength : row.length = columns.length)
      (hcells : CellsOf columns row cells) : HandedOver table columns row [.record ⟨cells⟩]
  | shape (hlength : row.length ≠ columns.length) :
      HandedOver table columns row (asDirty table row (.rowShape row.length columns.length))
  | cell {before after : List (Column × DriverValue)} {column : Column} {v : DriverValue}
      {reason : CellError} (hlength : row.length = columns.length)
      (hzip : columns.zip row = before ++ (column, v) :: after)
      (hbefore : ∀ p ∈ before, ∃ cell, materializeCell p.1 p.2 = .ok cell)
      (hfails : materializeCell column v = .error reason) :
      HandedOver table columns row (asDirty table row reason)

/-! ## Sizes -/

/-- The size of a cell that a value has become: one for a truth value, eight for an integer or a
date, twelve for a timestamp, and that of its text or its bytes for any other; an integer that is
read from text has the size of the text. Null has none. -/
def sizeOfContent (v : DriverValue) : CellValue → Nat
  | .bool (some _) => 1
  | .long (some _) => match v with
    | .decimal text | .text text => text.utf8ByteSize
    | _ => 8
  | .double (some text) | .string (some text) => text.utf8ByteSize
  | .bytes (some data) => data.length
  | .date (some _) => 8
  | .timestamp (some _) => 12
  | _ => 0

theorem byteSize_null (kind : CellKind) :
    (Cell.null kind).byteSize = sizeOfContent v (Cell.null kind).value := by
  cases kind <;> rfl

theorem byteSize_of_longOfText {text : String} {c : Cell}
    (hv : v = .decimal text ∨ v = .text text) (h : Cell.longOfText text = .ok c) :
    c.byteSize = sizeOfContent v c.value := by
  unfold Cell.longOfText at h
  split at h
  · cases h
  · split at h
    · cases h
      rcases hv with rfl | rfl <;> rfl
    · cases h

theorem byteSize_of_doubleOfText {text : String} {c : Cell} (h : Cell.doubleOfText text = .ok c) :
    c.byteSize = sizeOfContent v c.value := by
  unfold Cell.doubleOfText at h
  split at h
  · cases h
    rfl
  · split at h
    · cases h
      rfl
    · cases h

theorem byteSize_of_dateCell {c : Cell} (h : dateCell column v = .ok c) :
    c.byteSize = sizeOfContent v c.value := by
  unfold dateCell DateBuilder.withReportedPrecision at h
  split at h
  · split at h
    · cases h
      rfl
    · split at h <;> cases h <;> rfl
  · cases h

theorem byteSize_of_cellOfKind {kind : CellKind} {c : Cell} (h : cellOfKind column v kind = .ok c) :
    c.byteSize = sizeOfContent v c.value := by
  cases kind with
  | date => exact byteSize_of_dateCell h
  | string | bytes | bool | timestamp => cases v <;> cases h <;> rfl
  | long =>
    cases v with
    | decimal text => exact byteSize_of_longOfText (.inl rfl) h
    | text text => exact byteSize_of_longOfText (.inr rfl) h
    | integer n | bool b => cases h; rfl
    | null | double x | bytes data | instant millis nanos => cases h
  | double =>
    cases v with
    | decimal text | text text => exact byteSize_of_doubleOfText h
    | integer n | double x => cases h; rfl
    | null | bool b | bytes data | instant millis nanos => cases h

theorem byteSize_of_materializeCell {c : Cell} (h : materializeCell column v = .ok c) :
    c.byteSize = sizeOfContent v c.value := by
  cases hnull : v.isNull with
  | true =>
    rw [materializeCell, if_pos hnull] at h
    cases h
    exact byteSize_null _
  | false =>
    rw [materializeCell_of_isNull_false hnull] at h
    exact byteSize_of_cellOfKind h

theorem sum_byteSize_of_forall₂ {values : List (Column × DriverValue)} {cells : List Cell}
    (h : List.Forall₂ (fun p cell => materializeCell p.1 p.2 = .ok cell) values cells) :
    (⟨cells⟩ : Record).byteSize =
      (List.zipWith (fun v c => sizeOfContent v c.value) (values.map Prod.snd) cells).sum := by
  induction h with
  | nil => rfl
  | cons hcell _ ih =>
    rw [List.map_cons, List.zipWith_cons_cons, List.sum_cons, ← ih,
      ← byteSize_of_materializeCell hcell]
    rfl

/-- The size of a record is that of all its cells. -/
theorem Record.byteSize_of_materializeRow {r : Record} (h : materializeRow columns row = .ok r) :
    r.byteSize = (List.zipWith (fun v c => sizeOfContent v c.value) row r.cells).sum := by
  unfold materializeRow at h
  split at h
  · next hlength =>
    cases hcells : materializeCells columns row with
    | error reason =>
      rw [hcells] at h
      cases h
    | ok cells =>
      rw [hcells] at h
      cases h
      rw [materializeCells_eq_mapM, mapM_eq_ok] at hcells
      rw [sum_byteSize_of_forall₂ hcells, List.map_snd_zip (Nat.le_of_eq hlength)]
  · cases h

/-! ## Counting -/

def Note.record? : Note → Option Record
  | .record r => some r
  | _ => none

def Note.dirty? : Note → Option (DriverRow × CellError)
  | .dirty row reason => some (row, reason)
  | _ => none

/-- The records among some notes. -/
def delivered (notes : List Note) : List Record := notes.filterMap Note.record?

/-- The rows that became no record, among some notes. -/
def rejected (notes : List Note) : List (DriverRow × CellError) := notes.filterMap Note.dirty?

/-- Counts on, with what some notes tell. -/
def ScanStats.plus (stats : ScanStats) (notes : List Note) : ScanStats where
  records := stats.records + (delivered notes).length
  dirty := stats.dirty + (rejected notes).length
  bytes := stats.bytes + ((delivered notes).map (·.byteSize)).sum

theorem ScanStats.plus_append (stats : ScanStats) (notes notes' : List Note) :
    stats.plus (notes ++ notes') = (stats.plus notes).plus notes' := by
  simp [plus, delivered, rejected, Nat.add_assoc]

/-- A row is handed over once. -/
theorem HandedOver.once {notes : List Note} (h : HandedOver table columns row notes) :
    (delivered notes).length + (rejected notes).length = 1 := by
  cases h <;> rfl

theorem length_eq_of_handedOver {rows : List DriverRow} {handed : List (List Note)}
    (h : List.Forall₂ (HandedOver table columns) rows handed) :
    (delivered handed.flatten).length + (rejected handed.flatten).length = rows.length := by
  induction h with
  | nil => rfl
  | @cons row notes rows handed hrow _ ih =>
    have honce := hrow.once
    simp only [List.flatten_cons, delivered, rejected, List.filterMap_append, List.length_append,
      List.length_cons] at honce ih ⊢
    omega

/-! ## Handing over -/

/-- What is told of a row. -/
def notesOf (table : String) (columns : List Column) (row : DriverRow) : List Note :=
  match materializeRow columns row with
  | .ok r => [.record r]
  | .error reason => asDirty table row reason

theorem materializeRow_of_length (hlength : row.length = columns.length) :
    materializeRow columns row =
      ((columns.zip row).mapM fun p => materializeCell p.1 p.2).map .mk := by
  rw [materializeRow, if_pos hlength, materializeCells_eq_mapM]

/-- What an observer is told of a row leaves no choice, and is what is told. -/
theorem handedOver_iff {notes : List Note} :
    HandedOver table columns row notes ↔ notes = notesOf table columns row := by
  constructor
  · intro h
    cases h with
    | record hlength hcells =>
      rw [notesOf, materializeRow_of_length hlength, mapM_eq_ok.2 hcells]
      rfl
    | shape hlength => rw [notesOf, materializeRow, if_neg hlength]
    | cell hlength hzip hbefore hfails =>
      rw [notesOf, materializeRow_of_length hlength,
        mapM_eq_error.2 ⟨_, _, _, hzip, hbefore, hfails⟩]
      rfl
  · rintro rfl
    by_cases hlength : row.length = columns.length
    · rw [notesOf, materializeRow_of_length hlength]
      cases hcells : (columns.zip row).mapM fun p => materializeCell p.1 p.2 with
      | ok cells => exact .record hlength (mapM_eq_ok.1 hcells)
      | error reason =>
        obtain ⟨before, ⟨column, v⟩, after, hzip, hbefore, hfails⟩ := mapM_eq_error.1 hcells
        exact .cell hlength hzip hbefore hfails
    · rw [notesOf, materializeRow, if_neg hlength]
      exact .shape hlength

theorem forall₂_handedOver_iff {rows : List DriverRow} {handed : List (List Note)} :
    List.Forall₂ (HandedOver table columns) rows handed ↔
      handed = rows.map (notesOf table columns) := by
  induction rows generalizing handed with
  | nil => simp
  | cons row rows ih => simp [List.forall₂_cons_left_iff, handedOver_iff, ih]

/-- Handing over a row tells of it, and counts what is told. -/
theorem handOver_eq (table : String) (columns : List Column) (stats : ScanStats) (row : DriverRow) :
    handOver table columns stats row =
      .telling (notesOf table columns row) (.done (stats.plus (notesOf table columns row))) := by
  rw [handOver, notesOf]
  cases materializeRow columns row <;> rfl

/-- Handing over all rows tells of each one in turn, and counts all that is told. -/
theorem handOverAll_eq (table : String) (columns : List Column) (stats : ScanStats)
    (rows : List DriverRow) :
    handOverAll table columns stats rows =
      .telling (rows.flatMap (notesOf table columns))
        (.done (stats.plus (rows.flatMap (notesOf table columns)))) := by
  induction rows generalizing stats with
  | nil => rfl
  | cons row rows ih =>
    rw [handOverAll, handOver_eq]
    show Program.bind _ _ = _
    rw [Program.bind_telling, Program.done_bind, ih, List.flatMap_cons, Program.telling_append,
      ScanStats.plus_append]

/-! ## Scans -/

/-- A scan runs its statement and hands over the rows of the answer; then it returns what has been
counted, unless a failure ended the rows. -/
theorem scan_run (conn : Handle) (table sql : String) (fetchSize : Int) :
    (scan conn table sql fetchSize).run =
      .executing conn sql fetchSize fun
        | .error e => .done (.error ⟨table, sql, .driver e⟩)
        | .ok ⟨columns, rows, failure⟩ =>
          (handOverAll table columns {} rows).bind fun stats =>
            .done (match failure with
              | some e => .error ⟨table, sql, .driver e⟩
              | none => .ok stats) := by
  show Program.executing conn sql fetchSize _ = _
  congr 1
  funext r
  rcases r with e | ⟨columns, rows, failure⟩
  · rfl
  · show Program.bind (Program.bind (handOverAll table columns {} rows) _) _ = _
    rw [Program.bind_assoc]
    congr 1
    funext stats
    cases failure <;> rfl

/-- **No row is lost.** Whatever a database answers to the statement of a scan, each row of the
answer is handed over once, in order, and nothing else is done besides running the statement. The
scan returns how many rows became records, how many did not, and the size of the records; a failure
of the driver is returned with the table and the statement, after the rows that came before it. -/
theorem scan_conserves (conn : Handle) (table sql : String) (fetchSize : Int) {σ : Type}
    (server : Server σ) (state : σ) (next : Handle) :
    let o := (scan conn table sql fetchSize).run.run server state next
    let answer := server.execute state conn sql fetchSize
    o.state = answer.2 ∧ o.next = next ∧
    match answer.1 with
    | .error e =>
      o.result = .error ⟨table, sql, .driver e⟩ ∧ o.trace = [.executed conn sql fetchSize]
    | .ok ⟨columns, rows, failure⟩ =>
      ∃ handed, List.Forall₂ (HandedOver table columns) rows handed ∧
        (∀ other, List.Forall₂ (HandedOver table columns) rows other → other = handed) ∧
        o.trace = .executed conn sql fetchSize :: handed.flatten.map .noted ∧
        (delivered handed.flatten).length + (rejected handed.flatten).length = rows.length ∧
        o.result = match failure with
          | some e => .error ⟨table, sql, .driver e⟩
          | none => .ok
            { records := (delivered handed.flatten).length
              dirty := (rejected handed.flatten).length
              bytes := ((delivered handed.flatten).map (·.byteSize)).sum } := by
  intro o answer
  simp only [o, answer, scan_run, Program.run_executing]
  generalize server.execute state conn sql fetchSize = answer
  obtain ⟨e | ⟨columns, rows, failure⟩, state'⟩ := answer
  · exact ⟨rfl, rfl, rfl, rfl⟩
  · have hrows := forall₂_handedOver_iff.2 (rfl : rows.map (notesOf table columns) = _)
    simp only [handOverAll_eq, Program.bind_telling, Program.run_telling, Program.done_bind,
      Program.run_done, List.flatMap_def]
    refine ⟨rfl, rfl, _, hrows, fun other => forall₂_handedOver_iff.1, ?_,
      length_eq_of_handedOver hrows, ?_⟩
    · simp [Outcome.after]
    · simp [Outcome.after, ScanStats.plus]

end TableExchange
