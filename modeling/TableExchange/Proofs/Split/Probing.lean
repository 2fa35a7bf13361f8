import TableExchange.Database.Run
import TableExchange.Proofs.Split.KeyValues

/-!
# What probes do

Probes as programs: the events that are told, the one statement that is run, and what becomes of its
answer.

* `Probe.run_run`, `Probe.minMax_run`, `Probe.samples_run`: these programs.
* `Probe.minMax_result`, `Probe.samples_result`: a probe that succeeds comes from an answer without a
  failure.
* `sampleStats_ok`: the statistics then hold the keys in the rows of that answer.
-/

namespace TableExchange

/-! ## Attempts -/

theorem Attempt.run_bind {ε α β : Type} (x : Attempt ε α) (f : α → Attempt ε β) :
    (x >>= f).run = x.run.bind fun r =>
      match r with
      | .ok a => (f a).run
      | .error e => .done (.error e) := rfl

/-! ## Queries -/

/-- What becomes of a driver's answer to a statement. -/
def queryAnswer (table sql : String) :
    Except DriverError ResultSet → Except QueryError (List Column × List DriverRow)
  | .error e => .error ⟨table, sql, .driver e⟩
  | .ok ⟨_, _, some e⟩ => .error ⟨table, sql, .driver e⟩
  | .ok ⟨columns, rows, none⟩ => .ok (columns, rows)

namespace Probe

/-- A probe tells that it begins, runs its query and, if this succeeds, tells how many rows came. -/
theorem run_run (dialect : Dialect) (conn : Handle) (table : String) (kind : ProbeKind)
    (sql : String) :
    (run dialect conn table kind sql).run =
      .noting (.event (.probeStarted table kind sql))
        (.executing conn sql dialect.features.probeFetchSize fun r =>
          match queryAnswer table sql r with
          | .error e => .done (.error (.query e))
          | .ok answer =>
            .noting (.event (.probeFinished table kind answer.2.length)) (.done (.ok answer))) := by
  show Program.noting _ (Program.executing conn sql dialect.features.probeFetchSize _) = _
  congr 2
  funext r
  rcases r with e | ⟨columns, rows, _ | e⟩ <;> rfl

variable {dialect : Dialect} {conn : Handle} {t : ProbeTarget} {percentage : Binary64}
  {limit : Nat} {sql : String}

section
variable {σ : Type} {server : Server σ} {state : σ} {next : Handle} {stats : KeyStats}

/-- Where a failed probe ends an attempt, an attempt that succeeds goes on with an answer that no
failure has ended. -/
theorem exists_answer {table : String} {kind : ProbeKind}
    {f : Except SplitError (List Column × List DriverRow) → Program (Except SplitError KeyStats)}
    (hf : ∀ e, f (.error e) = .done (.error e))
    (h : (((run dialect conn table kind sql).run.bind f).run server state next).result =
      .ok stats) :
    ∃ columns rows, (server.execute state conn sql dialect.features.probeFetchSize).1 =
        .ok ⟨columns, rows, none⟩ ∧
      ∃ later, ((f (.ok (columns, rows))).run server later next).result = .ok stats := by
  rw [run_run] at h
  simp only [Program.bind, Program.run, Outcome.after] at h
  generalize (server.execute state conn sql dialect.features.probeFetchSize).1 = r at h ⊢
  rcases r with e | ⟨columns, rows, _ | e⟩
  · simp only [queryAnswer, Program.bind, hf] at h
    cases h
  · exact ⟨columns, rows, rfl, _, h⟩
  · simp only [queryAnswer, Program.bind, hf] at h
    cases h

/-! ### The least and the greatest key -/

/-- Asking for the least and the greatest key is one probe, whose answer is made into statistics. -/
theorem minMax_run :
    (minMax dialect conn t).run =
      (run dialect conn t.table .minMax (Sql.minMax t.table t.column t.predicate)).run.bind fun r =>
        match r with
        | .error e => .done (.error e)
        | .ok (columns, rows) => .done (minMaxStats dialect t columns rows) := by
  show Program.bind _ _ = _
  congr 1
  funext r
  cases r <;> rfl

/-- Bounds that are found come from an answer that no failure has ended. -/
theorem minMax_result
    (h : ((minMax dialect conn t).run.run server state next).result = .ok stats) :
    ∃ columns rows,
      (server.execute state conn (Sql.minMax t.table t.column t.predicate)
        dialect.features.probeFetchSize).1 = .ok ⟨columns, rows, none⟩ ∧
      minMaxStats dialect t columns rows = .ok stats := by
  rw [minMax_run] at h
  obtain ⟨columns, rows, hanswer, later, h⟩ := exists_answer (fun _ => rfl) h
  exact ⟨columns, rows, hanswer, h⟩

/-! ### Samples -/

def sampledEntry (t : ProbeTarget) (stats : KeyStats) : LogEntry :=
  ⟨.debug, "sampled split keys", [("table", t.table), ("samples", natText stats.samples.length)]⟩

/-- Sampling is one probe, whose answer is made into statistics. -/
theorem samples_run
    (hsql : Sql.sample dialect t.table t.column t.predicate percentage limit = some sql) :
    (samples dialect conn t percentage limit).run =
      (run dialect conn t.table .sample sql).run.bind fun r =>
        match r with
        | .error e => .done (.error e)
        | .ok (columns, rows) =>
          match sampleStats dialect t columns rows with
          | .error e => .done (.error e)
          | .ok stats => .noting (.log (sampledEntry t stats)) (.done (.ok stats)) := by
  rw [samples, hsql]
  show Program.bind _ _ = _
  congr 1
  funext r
  rcases r with e | ⟨columns, rows⟩
  · rfl
  · show ExceptT.run (bind _ _) = _
    rw [Attempt.run_bind]
    dsimp only
    cases sampleStats dialect t columns rows <;> rfl

/-- A sample that succeeds comes from an answer that no failure has ended. -/
theorem samples_result
    (hsql : Sql.sample dialect t.table t.column t.predicate percentage limit = some sql)
    (h : ((samples dialect conn t percentage limit).run.run server state next).result =
      .ok stats) :
    ∃ columns rows, (server.execute state conn sql dialect.features.probeFetchSize).1 =
        .ok ⟨columns, rows, none⟩ ∧
      sampleStats dialect t columns rows = .ok stats := by
  rw [samples_run hsql] at h
  obtain ⟨columns, rows, hanswer, later, h⟩ := exists_answer (fun _ => rfl) h
  refine ⟨columns, rows, hanswer, ?_⟩
  dsimp only at h
  cases hstats : sampleStats dialect t columns rows with
  | error e => simp [hstats, Program.run] at h
  | ok found =>
    simp only [hstats, Program.run, Outcome.after] at h
    exact h

/-- Samples are found just in a dialect that has them. -/
theorem exists_sample_of_result
    (h : ((samples dialect conn t percentage limit).run.run server state next).result =
      .ok stats) :
    ∃ sql, Sql.sample dialect t.table t.column t.predicate percentage limit = some sql := by
  cases hsql : Sql.sample dialect t.table t.column t.predicate percentage limit with
  | some sql => exact ⟨sql, rfl⟩
  | none =>
    rw [samples, hsql] at h
    cases h

end

end Probe

/-! ## Keys in an answer -/

/-- The keys in the rows of a sample, null ones left out, in the order of the rows. -/
def sampledKeys (kind : KeyKind) (rows : List DriverRow) : List SplitPoint :=
  rows.filterMap fun row => (SplitPoint.ofValue kind (row[0]?.getD .null)).toOption.join

theorem kind_of_mem_sampledKeys {kind : KeyKind} {rows : List DriverRow} {p : SplitPoint}
    (h : p ∈ sampledKeys kind rows) : p.kind = kind := by
  obtain ⟨row, -, hrow⟩ := List.mem_filterMap.1 h
  cases hvalue : SplitPoint.ofValue kind (row[0]?.getD .null) with
  | error e => simp [hvalue, Except.toOption] at hrow
  | ok found =>
    obtain rfl : found = some p := by simpa [hvalue, Except.toOption] using hrow
    exact (SplitPoint.ofValue_eq_ok_iff.1 hvalue).isKey.kind_eq

namespace Probe

variable {dialect : Dialect} {t : ProbeTarget} {columns : List Column} {rows : List DriverRow}
  {stats : KeyStats} {kind : KeyKind} {found : List (Option SplitPoint)}

/-- A value of a row; a row that is too short has null. -/
def valueAt (row : DriverRow) (i : Nat) : DriverValue := row[i]?.getD .null

theorem point_eq_ok_iff {kind : KeyKind} {row : DriverRow} {i : Nat} {found : Option SplitPoint} :
    t.point kind row i = .ok found ↔ (valueAt row i).Holds kind found := by
  rw [ProbeTarget.point, mapError_eq_ok, SplitPoint.ofValue_eq_ok_iff]
  rfl

theorem keyKind_eq_ok_iff {c : Column} {kind : KeyKind} :
    t.keyKind dialect c = .ok kind ↔ dialect.keyKind? c.type = some kind := by
  unfold ProbeTarget.keyKind
  cases dialect.keyKind? c.type <;> simp

/-- The keys that are found in the rows are the keys of the sample. -/
theorem filterMap_eq_sampledKeys
    (h : List.Forall₂ (DriverValue.Holds kind) (rows.map (valueAt · 0)) found) :
    found.filterMap id = sampledKeys kind rows := by
  induction rows generalizing found with
  | nil =>
    cases h
    rfl
  | cons row rows ih =>
    cases h with
    | @cons _ p _ found hvalue hrest =>
      have hread : SplitPoint.ofValue kind (row[0]?.getD .null) = .ok p :=
        SplitPoint.ofValue_eq_ok_iff.2 hvalue
      have hhere : (SplitPoint.ofValue kind (row[0]?.getD .null)).toOption.join = p := by
        rw [hread]
        rfl
      simp only [sampledKeys, List.filterMap_cons, hhere, id_eq] at ih ⊢
      rw [ih hrest]

/-- What is found for a sample: the kind that the first column makes, and what the rows hold. -/
theorem sampleStats_eq_ok (h : sampleStats dialect t columns rows = .ok stats) :
    ∃ column rest found, columns = column :: rest ∧
      dialect.keyKind? column.type = some stats.kind ∧
      List.Forall₂ (DriverValue.Holds stats.kind) (rows.map (valueAt · 0)) found ∧
      stats = ⟨t.table, t.column, stats.kind, .samples (samplePoints stats.kind found)⟩ := by
  unfold sampleStats at h
  match columns with
  | column :: rest =>
    obtain ⟨kind, hkind, h⟩ := bind_eq_ok.1 h
    obtain ⟨found, hfound, h⟩ := bind_eq_ok.1 h
    cases h
    refine ⟨column, rest, found, rfl, keyKind_eq_ok_iff.1 hkind, ?_, rfl⟩
    rw [List.forall₂_map_left_iff]
    exact (mapM_eq_ok.1 hfound).imp fun _ _ => point_eq_ok_iff.1

end Probe

/-- The statistics in an answer hold its keys. -/
theorem sampleStats_ok {dialect : Dialect} {t : ProbeTarget} {columns : List Column}
    {rows : List DriverRow} {stats : KeyStats}
    (h : Probe.sampleStats dialect t columns rows = .ok stats) :
    stats = ⟨t.table, t.column, stats.kind,
      .samples (Probe.samplePoints stats.kind ((sampledKeys stats.kind rows).map some))⟩ := by
  obtain ⟨_, _, found, -, -, hfound, hstats⟩ := Probe.sampleStats_eq_ok h
  have hpoints : Probe.samplePoints stats.kind ((found.filterMap id).map some) =
      Probe.samplePoints stats.kind found := by
    simp [Probe.samplePoints, List.filterMap_map]
  rw [← Probe.filterMap_eq_sampledKeys hfound, hpoints]
  exact hstats

end TableExchange
