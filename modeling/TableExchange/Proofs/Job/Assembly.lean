import Mathlib.Algebra.Ring.Nat
import Mathlib.Order.Bounds.Basic
import TableExchange.Proofs.Job.Tables

/-!
# How a job is put together

A job that can be planned has the tasks of its readings one after the other, each connection with
one URL of its own. Its events tell the same: one verdict for each table that is in more than one
piece, in the order of the tasks, and the counters come to the tables and to the tasks of the job.

* `ReaderSettings.IsPieceCount`, `ReaderSettings.Accepted.exists_pieceCount`: into how many pieces
  tables are wanted, and are split.
* `ReaderSettings.Settled`: the tasks and the verdicts of some readings.
* `Planner.settled_of_ends_plan`: those of all readings are what a job comes to.
* `Planner.plan_tells_retries`: nothing else is told of queries and of tables in one piece.
* `Counters.plans_addAll_add_fallbacks` and its sibling: what the counters come to.
* `Planner.plan_assembles`: all of it, for a run.
-/

namespace TableExchange

/-! ## Pieces -/

namespace ReaderSettings

variable {s : ReaderSettings}

/-- A number of pieces: the fixed one, five times the tasks wanted for a single table, or else the
least with which all tables together have as many pieces as wanted. -/
structure IsPieceCount (s : ReaderSettings) (count : Nat) : Prop where
  fixed : ∀ n, s.eachTableSplitSize = some n → count = n
  single : s.eachTableSplitSize = none → s.tableCount = 1 → count = 5 * s.adviceCount
  least : s.eachTableSplitSize = none → 2 ≤ s.tableCount →
    IsLeast {n | 1 ≤ n ∧ s.adviceCount ≤ n * s.tableCount} count

theorem isLeast_ceiling (advice : Nat) {tables : Nat} (h : 0 < tables) :
    IsLeast {n | 1 ≤ n ∧ advice ≤ n * tables} (max ((advice + tables - 1) / tables) 1) := by
  have hceiling (n : Nat) : (advice + tables - 1) / tables ≤ n ↔ advice ≤ n * tables := by
    rw [← Nat.lt_succ_iff, Nat.div_lt_iff_lt_mul h, Nat.succ_mul]
    omega
  refine ⟨⟨Nat.le_max_right _ _, (hceiling _).1 (Nat.le_max_left _ _)⟩, ?_⟩
  rintro n ⟨hone, hadvice⟩
  exact Nat.max_le.2 ⟨(hceiling n).2 hadvice, hone⟩

/-- Five times an accepted count goes round the words twice at most, and comes to neither of the
first two. -/
theorem two_le_wrapped {advice : Nat} (hone : 1 ≤ advice) (hword : advice < 2 ^ 63) :
    2 ≤ 5 * advice % 2 ^ 64 := by
  obtain hround | hround | hround : 5 * advice / 2 ^ 64 = 0 ∨ 5 * advice / 2 ^ 64 = 1 ∨
      5 * advice / 2 ^ 64 = 2 := by omega
  all_goals omega

/-- Tables are split into such a number of pieces, as a machine word. A single table that is wanted
in more pieces than there are words is split into fewer, but it is not left whole. -/
theorem Accepted.exists_pieceCount (hs : s.Accepted) :
    ∃ count, s.IsPieceCount count ∧ 1 ≤ count ∧ s.splitCount = count % wordCount ∧
      (2 ≤ s.splitCount ↔ 2 ≤ count) := by
  obtain ⟨hadvice, hword⟩ := hs.advice
  unfold splitCount tableSplitCount wordCount
  cases hpieces : s.eachTableSplitSize with
  | some n =>
    obtain ⟨hone, hfits⟩ := hs.pieces n hpieces
    have hmod : n % 2 ^ 64 = n := Nat.mod_eq_of_lt (by omega)
    refine ⟨n, ⟨fun m hm => ?_, fun hm => ?_, fun hm => ?_⟩, hone, hmod.symm, Iff.rfl⟩
    · exact Option.some.inj (hpieces.symm.trans hm)
    all_goals cases hpieces.symm.trans hm
  | none =>
    have hfixed : ∀ n, s.eachTableSplitSize ≠ some n := fun n hn => by
      cases hpieces.symm.trans hn
    dsimp only
    split
    · next hfew =>
      have hfactor : max s.adviceCount 1 * singleTableFactor = 5 * s.adviceCount := by
        rw [singleTableFactor]
        omega
      have htwo := two_le_wrapped hadvice hword
      rw [hfactor]
      exact ⟨_, ⟨fun n hn => absurd hn (hfixed n), fun _ _ => rfl, fun _ hmany => by omega⟩,
        by omega, rfl, by omega⟩
    · next hmany =>
      have htables : 0 < s.tableCount := by omega
      have hleast := isLeast_ceiling s.adviceCount htables
      have hle := hleast.2 ⟨hadvice, Nat.le_mul_of_pos_right _ (by omega)⟩
      have hmod := Nat.mod_eq_of_lt (b := 2 ^ 64) (hle.trans_lt (by omega))
      exact ⟨_, ⟨fun n hn => absurd hn (hfixed n), fun _ hone => by omega, fun _ _ => hleast⟩,
        hleast.1.1, hmod.symm, Iff.rfl⟩

/-- Five times this count goes round the words twice and comes to three. -/
example : tableSplitCount 7378697629483820647 1 none = 3 := by decide

/-! ## Readings -/

/-- The tasks and the verdicts of some readings, one reading after the other. -/
def Settled (s : ReaderSettings) (readings : List Reading) (tasks : List ReadTask)
    (verdicts : List Event) : Prop :=
  ∃ found : List (List ReadTask × List Event),
    List.Forall₂ (fun reading f => s.Settles reading f.1 f.2) readings found ∧
      tasks = found.flatMap (·.1) ∧ verdicts = found.flatMap (·.2)

variable {readings readings' : List Reading} {reading : Reading} {tasks tasks' : List ReadTask}
  {verdicts verdicts' : List Event}

theorem settled_nil : s.Settled [] [] [] := ⟨[], .nil, rfl, rfl⟩

theorem Settles.settled (h : s.Settles reading tasks verdicts) :
    s.Settled [reading] tasks verdicts :=
  ⟨[(tasks, verdicts)], .cons h .nil, by simp, by simp⟩

theorem Settled.append (h : s.Settled readings tasks verdicts)
    (h' : s.Settled readings' tasks' verdicts') :
    s.Settled (readings ++ readings') (tasks ++ tasks') (verdicts ++ verdicts') := by
  obtain ⟨found, hfound, rfl, rfl⟩ := h
  obtain ⟨found', hfound', rfl, rfl⟩ := h'
  exact ⟨found ++ found', List.rel_append hfound hfound', List.flatMap_append.symm,
    List.flatMap_append.symm⟩

theorem settled_queries (url : String) (texts : List String) :
    s.Settled (texts.map (.query url)) (texts.map (s.queryTask url)) [] := by
  induction texts with
  | nil => exact settled_nil
  | cons text texts ih => exact (Settles.query url text).settled.append ih

/-- What is done for each element of a list settles the readings of all of them, if it settles those
of each. -/
theorem settled_of_ends_mapM {α : Type} {as : List α} {f : α → Attempt Error (List ReadTask)}
    {readings : α → List Reading}
    (hf : ∀ a tasks t, (f a).Ends (.ok tasks) t → s.Settled (readings a) tasks t.verdicts)
    {blocks : List (List ReadTask)} {t : Trace} (h : Attempt.Ends (as.mapM f) (.ok blocks) t) :
    s.Settled (as.flatMap readings) blocks.flatten t.verdicts := by
  induction as generalizing blocks t with
  | nil =>
    rw [List.mapM_nil] at h
    obtain ⟨hblocks, rfl⟩ := Attempt.ends_pure_iff.1 h
    cases hblocks
    exact settled_nil
  | cons a as ih =>
    rw [List.mapM_cons] at h
    obtain ⟨tasks, u, v, ha, hrest, rfl⟩ := Attempt.ends_bind_ok.1 h
    obtain ⟨rest, v, w, has, hpure, rfl⟩ := Attempt.ends_bind_ok.1 hrest
    obtain ⟨hblocks, rfl⟩ := Attempt.ends_pure_iff.1 hpure
    cases hblocks
    rw [List.append_nil, Trace.verdicts_append]
    exact (hf a tasks u ha).append (ih has)

end ReaderSettings

/-! ## Jobs -/

namespace Planner

variable {p : Planner} {s : ReaderSettings} {tasks : List ReadTask} {t : Trace}

theorem settled_of_ends_planSource (hcatalog : p.catalog.Neutral) (hs : s.Accepted) {url : String}
    {source : Source} (h : (p.planSource s url source).Ends (.ok tasks) t) :
    s.Settled (source.readings url) tasks t.verdicts := by
  cases source with
  | queries texts =>
    obtain ⟨htasks, rfl⟩ := Attempt.ends_pure_iff.1 h
    cases htasks
    exact ReaderSettings.settled_queries url texts
  | tables names =>
    obtain ⟨blocks, u, v, hblocks, hpure, rfl⟩ := Attempt.ends_bind_ok.1 h
    obtain ⟨htasks, rfl⟩ := Attempt.ends_pure_iff.1 hpure
    cases htasks
    rw [List.append_nil, Source.readings, List.map_eq_flatMap]
    exact ReaderSettings.settled_of_ends_mapM
      (fun _ _ _ h => (settles_of_ends_planTable hcatalog hs h).settled) hblocks

/-- A job has the tasks and the verdicts of its readings, each connection with one of its own
URLs. -/
theorem settled_of_ends_plan (hcatalog : p.catalog.Neutral) (hs : s.Accepted)
    (h : (p.plan s).Ends (.ok tasks) t) :
    ∃ urls, List.Forall₂ (fun c url => url ∈ c.urls) s.connections urls ∧
      s.Settled (s.readings urls) tasks t.verdicts := by
  obtain ⟨urls, u, v, hurls, hrest, rfl⟩ := Attempt.ends_bind_ok.1 h
  obtain ⟨blocks, v, w, hblocks, hpure, rfl⟩ := Attempt.ends_bind_ok.1 hrest
  obtain ⟨htasks, rfl⟩ := Attempt.ends_pure_iff.1 hpure
  cases htasks
  have hresolve := p.resolveUrls_meets s
  have hquiet : ∀ e ∈ Trace.events u, e.IsOther := fun e he =>
    (hresolve.told hurls e he).isOther
  refine ⟨urls, hresolve.given hurls, ?_⟩
  rw [List.append_nil, Trace.verdicts_append, Trace.verdicts_eq_nil hquiet, List.nil_append]
  exact ReaderSettings.settled_of_ends_mapM
    (fun _ _ _ h => settled_of_ends_planSource hcatalog hs h) hblocks

/-- The database is not asked about queries, nor about tables in one piece, so nothing but failed
attempts to connect is told. -/
theorem plan_tells_retries (p : Planner) (h : s.isQueryMode = true ∨ s.splitCount ≤ 1) :
    (p.plan s).Meets Event.IsRetry (fun _ => True) fun _ => True := by
  refine plan_meets_of_planTable (fun _ h => h) (fun _ => trivial) fun c hc url table htable => ?_
  rcases h with hqueries | hwhole
  · have hsource := List.all_eq_true.1 hqueries c hc
    cases hnames : c.source with
    | queries texts => simp [hnames, Source.tableNames] at htable
    | tables names => simp [hnames, Source.isQueries] at hsource
  · rw [planTable, if_pos hwhole]
    exact Attempt.meets_pure trivial

end Planner

/-! ## Counting -/

/-- How many tables an event settles. -/
def Event.tables : Event → Nat
  | .planComputed .. | .fallback .. => 1
  | _ => 0

/-- How many tasks the tables have that an event settles. -/
def Event.tasks : Event → Nat
  | .planComputed _ _ fragments => fragments.length
  | .fallback .. => 1
  | _ => 0

theorem Event.IsOther.tables_eq_zero {e : Event} (h : e.IsOther) : e.tables = 0 := by
  cases e <;> first | rfl | cases h

theorem Event.IsOther.tasks_eq_zero {e : Event} (h : e.IsOther) : e.tasks = 0 := by
  cases e <;> first | rfl | cases h

/-- What only verdicts add to can be summed over the verdicts. -/
theorem Trace.sum_map_verdicts {weight : Event → Nat} (h : ∀ e, e.IsOther → weight e = 0)
    (t : Trace) :
    (t.verdicts.map weight).sum = (t.events.map weight).sum := by
  rw [verdicts]
  induction t.events with
  | nil => rfl
  | cons e events ih =>
    rw [List.map_cons, List.sum_cons, ← ih]
    cases hverdict : e.isVerdict with
    | true => rw [List.filter_cons_of_pos hverdict, List.map_cons, List.sum_cons]
    | false => rw [List.filter_cons_of_neg (by simp [hverdict]), h e hverdict, Nat.zero_add]

namespace Counters

/-- What each event adds to is what all of them add to. -/
theorem measure_addAll (measure : Counters → Nat) {weight : Event → Nat}
    (h : ∀ c e, measure (add c e) = measure c + weight e) (c : Counters) (events : List Event) :
    measure (c.addAll events) = measure c + (events.map weight).sum := by
  induction events generalizing c with
  | nil => rfl
  | cons e events ih =>
    have hrest : measure (c.addAll (e :: events)) = measure ((c.add e).addAll events) := rfl
    rw [hrest, ih, h, List.map_cons, List.sum_cons, Nat.add_assoc]

theorem plans_addAll_add_fallbacks (c : Counters) (events : List Event) :
    (c.addAll events).plans + (c.addAll events).fallbacks =
      c.plans + c.fallbacks + (events.map Event.tables).sum := by
  refine measure_addAll (fun c => c.plans + c.fallbacks) (fun c e => ?_) c events
  cases e <;> simp only [add, Event.tables] <;> omega

theorem fragments_addAll_add_fallbacks (c : Counters) (events : List Event) :
    (c.addAll events).fragments + (c.addAll events).fallbacks =
      c.fragments + c.fallbacks + (events.map Event.tasks).sum := by
  refine measure_addAll (fun c => c.fragments + c.fallbacks) (fun c e => ?_) c events
  cases e <;> simp only [add, Event.tasks] <;> omega

end Counters

namespace ReaderSettings

variable {s : ReaderSettings} {reading : Reading} {readings : List Reading} {tasks : List ReadTask}
  {verdicts : List Event}

theorem Settles.sum_tables (h : s.Settles reading tasks verdicts) (hcount : 2 ≤ s.splitCount) :
    (verdicts.map Event.tables).sum = [reading].countP Reading.isTable := by
  cases h with
  | query _ _ | fallsBack _ _ _ _ | divided _ _ _ _ _ _ => rfl
  | whole _ _ hwhole => omega

theorem Settles.sum_tasks (h : s.Settles reading tasks verdicts) (hcount : 2 ≤ s.splitCount)
    (htable : reading.isTable = true) : (verdicts.map Event.tasks).sum = tasks.length := by
  cases h with
  | query _ _ => cases htable
  | whole _ _ hwhole => omega
  | fallsBack _ _ _ _ => rfl
  | divided _ _ _ ranges _ _ => simp [Event.tasks]

theorem Settled.sum_tables (h : s.Settled readings tasks verdicts) (hcount : 2 ≤ s.splitCount) :
    (verdicts.map Event.tables).sum = readings.countP Reading.isTable := by
  obtain ⟨found, hfound, rfl, rfl⟩ := h
  induction hfound with
  | nil => rfl
  | @cons reading f readings _ hhead _ ih =>
    rw [List.flatMap_cons, List.map_append, List.sum_append, ih, hhead.sum_tables hcount,
      ← List.countP_append, List.singleton_append]

theorem Settled.sum_tasks (h : s.Settled readings tasks verdicts) (hcount : 2 ≤ s.splitCount)
    (htables : ∀ reading ∈ readings, reading.isTable = true) :
    (verdicts.map Event.tasks).sum = tasks.length := by
  obtain ⟨found, hfound, rfl, rfl⟩ := h
  induction hfound with
  | nil => rfl
  | @cons reading f readings _ hhead _ ih =>
    obtain ⟨htable, htables⟩ := List.forall_mem_cons.1 htables
    rw [List.flatMap_cons, List.map_append, List.sum_append, ih htables,
      hhead.sum_tasks hcount htable, List.flatMap_cons, List.length_append]

theorem countP_readings (url : String) (source : Source) :
    (source.readings url).countP Reading.isTable = source.tableNames.length := by
  cases source <;>
    simp [Source.readings, Source.tableNames, Reading.isTable, List.countP_map, Function.comp_def]

/-- The tables among the readings are those of the settings. -/
theorem countP_isTable {urls : List String}
    (h : List.Forall₂ (fun c url => url ∈ c.urls) s.connections urls) :
    (s.readings urls).countP Reading.isTable = s.tableCount := by
  rw [readings, tableCount]
  generalize s.connections = connections at h
  induction h with
  | nil => rfl
  | cons _ _ ih =>
    rw [List.zip_cons_cons, List.flatMap_cons, List.countP_append, ih, countP_readings]
    rfl

theorem isTable_of_mem_readings (htables : s.isTableMode = true) {urls : List String}
    (h : reading ∈ s.readings urls) : reading.isTable = true := by
  obtain ⟨c, hc, hreading⟩ := List.mem_flatMap.1 h
  obtain ⟨names, hnames⟩ := exists_tables_of_isTableMode htables (List.of_mem_zip hc).1
  rw [hnames, Source.readings] at hreading
  obtain ⟨name, -, rfl⟩ := List.mem_map.1 hreading
  rfl

end ReaderSettings

/-! ## Runs -/

namespace Planner

/-- **How every job is put together.** Whatever the database answers, with settings that have passed
their checks: a job that can be planned has for each connection one of its own URLs, and the tasks
of its readings in order. The verdicts among its events are those of its tables, in the same order.
Of queries and of tables in one piece nothing is told. Where tables are in more than one piece, the
counters come to the tables and, without queries, to the tasks of the job. All this is for the number
of pieces as it is wanted, however great; the number that is used is the same as a machine word. -/
theorem plan_assembles {p : Planner} (hcatalog : p.catalog.Neutral) {doc : Json}
    {s : ReaderSettings} (hs : ReaderSettings.ofDocument doc = .ok s) {σ : Type}
    (server : Server σ) (state : σ) (next : Handle) {tasks : List ReadTask}
    (htasks : ((p.plan s).run.run server state next).result = .ok tasks) :
    let events := ((p.plan s).run.run server state next).trace.events
    let counts := Counters.addAll {} events
    (s.isQueryMode = true ∨ s.isTableMode = true) ∧
    ∃ count, s.IsPieceCount count ∧ 1 ≤ count ∧ s.splitCount = count % wordCount ∧
      (2 ≤ s.splitCount ↔ 2 ≤ count) ∧
      (∃ urls, List.Forall₂ (fun c url => url ∈ c.urls) s.connections urls ∧
        s.Settled (s.readings urls) tasks (events.filter Event.isVerdict)) ∧
      (s.isQueryMode = true ∨ count = 1 → ∀ e ∈ events, e.IsRetry) ∧
      (s.isTableMode = true → 2 ≤ count →
        counts.plans + counts.fallbacks = s.tableCount ∧
          counts.fragments + counts.fallbacks = tasks.length) := by
  intro events counts
  have haccepted := ReaderSettings.accepted_of_ofDocument hs
  obtain ⟨count, hpieces, hone, hword, htwo⟩ := haccepted.exists_pieceCount
  have hends := Program.ends_run server (p.plan s).run state next
  rw [htasks] at hends
  obtain ⟨urls, hurls, hsettled⟩ := settled_of_ends_plan hcatalog haccepted hends
  refine ⟨haccepted.oneMode, count, hpieces, hone, hword, htwo, ⟨urls, hurls, hsettled⟩,
    fun h => ?_, fun hmode hcount => ⟨?_, ?_⟩⟩
  · exact (plan_tells_retries p (h.imp_right fun hwhole => by omega)).told hends
  -- counters are sums over all events, of which only the verdicts add anything
  · rw [Counters.plans_addAll_add_fallbacks,
      ← Trace.sum_map_verdicts fun _ => Event.IsOther.tables_eq_zero,
      hsettled.sum_tables (htwo.2 hcount), ReaderSettings.countP_isTable hurls]
    exact Nat.zero_add _
  · have htables : ∀ reading ∈ s.readings urls, reading.isTable = true := fun _ =>
      ReaderSettings.isTable_of_mem_readings hmode
    rw [Counters.fragments_addAll_add_fallbacks,
      ← Trace.sum_map_verdicts fun _ => Event.IsOther.tasks_eq_zero,
      hsettled.sum_tasks (htwo.2 hcount) htables]
    exact Nat.zero_add _

/-- Two tables in two pieces each, of which the second one holds no keys, and a URL that is down. -/
theorem plan_assembles_twoTables :
    let doc : Json := .ofMembers
      [("dialect", .string "mysql"), ("column", .array [.string "*"]), ("splitPk", .string "id"),
        ("adviceCount", .int 3), ("connection", .array
          [.ofMembers [("jdbcUrl", .array [.string "down", .string "up"]),
            ("table", .array [.string "people", .string "empty"])]])]
    let s : ReaderSettings :=
      ⟨"", "", ["*"], none, some "id", 3, ReaderSettings.defaultPercentage, 1024, none, .auto,
        .mySql, [⟨["down", "up"], .tables ["people", "empty"]⟩]⟩
    let columns : List Column := [⟨"min", .bigInt, "BIGINT", 0⟩, ⟨"max", .bigInt, "BIGINT", 0⟩]
    let server : Server (List DriverRow) :=
      ⟨fun rows url _ => (if url = "down" then .error (.connect url "refused") else .ok (), rows),
        fun rows _ _ _ => (.ok ⟨columns, rows.take 1, none⟩, rows.drop 1),
        fun rows _ => (.ok (), rows)⟩
    let o := (plan {} s).run.run server [[.integer 0, .integer 10], [.null, .null]] 0
    let counts := Counters.addAll {} o.trace.events
    let tasks : List ReadTask :=
      [⟨"up", some "people", "select * from people where (0 <= id AND id < 5)", false, 1024⟩,
        ⟨"up", some "people", "select * from people where (5 <= id AND id <= 10)", false, 1024⟩,
        ⟨"up", some "people", "select * from people where id IS NULL", true, 1024⟩,
        ⟨"up", some "empty", "select * from empty", false, 1024⟩]
    ReaderSettings.ofDocument doc = .ok s ∧ s.IsPieceCount 2 ∧ o.result = .ok tasks ∧
      (∃ urls, List.Forall₂ (fun c url => url ∈ c.urls) s.connections urls ∧
        s.Settled (s.readings urls) tasks (o.trace.events.filter Event.isVerdict)) ∧
      counts.plans + counts.fallbacks = 2 ∧ counts.fragments + counts.fallbacks = 4 := by
  intro doc s columns server o counts tasks
  have hs : ReaderSettings.ofDocument doc = .ok s := rfl
  have htasks : o.result = .ok tasks := by decide +kernel
  obtain ⟨-, count, hpieces, -, -, -, hsettled, -, hcounts⟩ :=
    plan_assembles (p := {}) KeyCatalog.system_neutral hs server _ 0 htasks
  obtain rfl : count = 2 := by
    refine (hpieces.least rfl (by decide)).unique ⟨by decide, ?_⟩
    rintro n ⟨-, hthree⟩
    change 3 ≤ n * 2 at hthree
    omega
  obtain ⟨hplans, hfragments⟩ := hcounts rfl le_rfl
  exact ⟨hs, hpieces, htasks, hsettled, hplans, hfragments⟩

end Planner

end TableExchange
