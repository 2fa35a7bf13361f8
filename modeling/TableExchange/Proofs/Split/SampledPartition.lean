import TableExchange.Proofs.Split.Planning
import TableExchange.Proofs.Split.Probing
import TableExchange.Proofs.Split.Ranges
import TableExchange.Proofs.Split.Samples

/-!
# Plans from a sample

The ranges between sampled keys and the condition for the keys outside of them divide all keys, those
that no sample has seen among them.

* `countTrue_sampled`: a key is in exactly one of these conditions.
* `sampled_plan_partitions`: each row is read by exactly one fragment of a plan from a sample.
-/

namespace TableExchange

open Splitter

variable {order : Collation} {row : Row} {s : Splitter} {table column : String} {kind : KeyKind}
  {points inner : List SplitPoint} {low last : SplitPoint} {predicate : Option String}
  {count : Nat}

abbrev sampleOf (table column : String) (kind : KeyKind) (points : List SplitPoint) : KeyStats :=
  ⟨table, column, kind, .samples points⟩

theorem exists_ends (h : ¬points.length < 2) :
    ∃ low inner last, points = low :: (inner ++ [last]) := by
  cases points with
  | nil => simp at h
  | cons low rest =>
    have hrest : rest ≠ [] := by
      intro hnil
      simp [hnil] at h
    exact ⟨low, rest.dropLast, rest.getLast hrest, by rw [List.dropLast_append_getLast]⟩

/-! ## All conditions together -/

theorem bounds?_sampleOf (hpoints : points = low :: (inner ++ [last])) :
    (sampleOf table column kind points).bounds? = some (low, last) := by
  have hlast : (low :: (inner ++ [last])).getLast? = some last := by
    rw [← List.cons_append, List.getLast?_append]
    rfl
  simp only [KeyStats.bounds?, KeyStats.lower, KeyStats.upper, KeyFindings.samples, hpoints, hlast,
    List.head?_cons]

theorem ranges_sampleOf (s : Splitter) (hpoints : points = low :: (inner ++ [last])) :
    s.ranges (sampleOf table column kind points) points =
      rangeConditions column (operands s.dialect points) ++
        [outsideCondition column (low.operand s.dialect) (last.operand s.dialect)] := by
  rw [Splitter.ranges, bounds?_sampleOf hpoints]
  rfl

/-- A key of the kind that was sampled is in exactly one condition: in a range if it lies between
the sampled keys, and else in the last one. -/
theorem countTrue_sampled {key : SplitPoint} (hkey : row.key column = some key)
    (hpoints : points = low :: (inner ++ [last])) (hsorted : points.Pairwise order.Le)
    (hkind : key.kind = low.kind) :
    countTrue order row (s.ranges (sampleOf table column kind points) points) = 1 := by
  have houtside := outsideCondition_truth order s.dialect hkey low last
  have hrange : countTrue order row (s.ranges (sampleOf table column kind points) points) =
      countTrue order row (rangeConditions column (operands s.dialect points)) +
        if order.Less key low ∨ order.Less last key then 1 else 0 := by
    rw [ranges_sampleOf s hpoints, countTrue, List.countP_append, List.countP_singleton]
    simp only [decide_eq_true_eq, houtside]
  subst hpoints
  obtain ⟨hfirst, hrest⟩ := List.pairwise_cons.1 hsorted
  have hlowlast : order.Le low last := hfirst last (by simp)
  have hlast : ∀ p ∈ low :: (inner ++ [last]), order.Le p last := by
    intro p hp
    rcases List.mem_cons.1 hp with rfl | hp
    · exact hlowlast
    · rcases List.mem_append.1 hp with hp | hp
      · exact (List.pairwise_append.1 hrest).2.2 p hp last (by simp)
      · rw [List.mem_singleton.1 hp]
        exact Collation.Le.refl last
  rw [hrange]
  rcases Collation.le_or_less order hkind.symm with hlow | hbelow
  · rcases Collation.le_or_less order (hkind.trans hlowlast.kind_eq) with
      hhigh | habove
    · -- between the first and the last sampled key, or equal to one of them
      rw [countTrue_rangeConditions hkey hrest hlow hhigh, if_neg]
      exact not_or.2 ⟨hlow.not_less, hhigh.not_less⟩
    · have hafter : ∀ p ∈ low :: (inner ++ [last]), order.Less p key :=
        fun p hp => (hlast p hp).trans_less habove
      rw [countTrue_rangeConditions_eq_zero hkey (.inr hafter), if_pos (.inr habove)]
  · have hbefore : ∀ p ∈ low :: (inner ++ [last]), order.Less key p := by
      intro p hp
      rcases List.mem_cons.1 hp with rfl | hp
      · exact hbelow
      · exact hbelow.trans_le (hfirst p hp)
    rw [countTrue_rangeConditions_eq_zero hkey (.inl hbefore), if_pos (.inl hbelow)]

theorem not_truth_sampled_of_null (hkey : row.key column = none)
    (hpoints : points = low :: (inner ++ [last])) {c : Condition}
    (hc : c ∈ s.ranges (sampleOf table column kind points) points) :
    c.truth order row ≠ .yes := by
  rw [ranges_sampleOf s hpoints, List.mem_append, List.mem_singleton] at hc
  rcases hc with hc | rfl
  · exact not_truth_rangeConditions_of_null hkey hc
  · exact not_truth_outsideCondition_of_null hkey _ _

open Sql in
theorem written_sampled (hpoints : points = low :: (inner ++ [last])) {c : Condition}
    (hc : c ∈ s.ranges (sampleOf table column kind points) points) :
    Written column s.dialect.features.escape 2 c := by
  rw [ranges_sampleOf s hpoints, List.mem_append, List.mem_singleton] at hc
  rcases hc with hc | rfl
  · exact written_rangeConditions hc
  · exact written_outsideCondition low last

/-! ## Planning -/

theorem returns_sampleOf_few (hcount : 2 ≤ count) (hfew : points.length < 2) :
    (s.planFromStats (sampleOf table column kind points) predicate count).Returns
      (.single predicate) := by
  cases points with
  | nil => exact returns_fallback .noNonNullKeys hcount rfl
  | cons p rest =>
    have hrest : rest = [] := by
      rw [List.length_cons] at hfew
      exact List.length_eq_zero_iff.1 (by omega)
    subst hrest
    exact returns_fallback .tooFewSamples hcount rfl

theorem returns_sampleOf (hcount : 2 ≤ count) (hpoints : points = low :: (inner ++ [last]))
    (hkinds : ∀ p ∈ points, p.kind = kind) :
    (s.planFromStats (sampleOf table column kind points) predicate count).Returns
      (s.rangePlan (sampleOf table column kind points) predicate points) := by
  refine returns_ranges hcount ?_ ?_
  · have hlength : ¬points.length < 2 := by simp [hpoints]
    simp only [fallbackReason?, bounds?_sampleOf hpoints, KeyStats.statistics, KeyStats.samples,
      KeyFindings.statistics_samples, KeyFindings.points_samples, hlength, if_false]
  · have hall : points.all (·.kind = kind) = true := by
      simpa [List.all_eq_true] using hkinds
    simp only [Strategy.select, KeyStats.statistics, KeyFindings.statistics_samples,
      Strategy.boundaries, KeyStats.samples, KeyFindings.points_samples, hall, if_true]

/-- The rows that the fragments of that plan read. -/
theorem selected_sampleOf (hpoints : points = low :: (inner ++ [last]))
    (hkinds : ∀ p ∈ points, p.kind = kind) (hsorted : points.Pairwise order.Le) :
    let plan := s.rangePlan (sampleOf table column kind points) predicate points
    (∀ key, row.Meets predicate → row.key column = some key → key.kind = kind →
      ∃ f, plan.selected order row = [f] ∧ f.isNullPartition = false) ∧
    (row.Meets predicate → row.key column = none →
      ∃ f, plan.fragments.getLast? = some f ∧ plan.selected order row = [f]) ∧
    (¬row.Meets predicate → plan.selected order row = []) := by
  intro plan
  refine ⟨fun key hmeets hkey hkind => ?_, fun hmeets hkey => ?_, fun hmeets => ?_⟩
  · have hlow : key.kind = low.kind := by
      rw [hkind, hkinds low (by simp [hpoints])]
    exact selected_of_countTrue_eq_one hmeets hkey (countTrue_sampled hkey hpoints hsorted hlow)
  · have hnone : ∀ c ∈ s.ranges (sampleOf table column kind points) points,
        c.truth order row ≠ .yes := fun c hc => not_truth_sampled_of_null hkey hpoints hc
    refine ⟨_, ?_, selected_of_null hmeets hkey hnone⟩
    simp [plan, SplitPlan.ofRanges]
  · exact selected_ofRanges_of_not_meets hmeets _

/-- **A plan from a sample divides all rows exactly.** The sample succeeded on the rows that the
database answered with. If no two of the keys in them differ, the plan has the user's condition as
its one fragment; otherwise it has the ranges, one more for the keys outside, and a fragment for null
keys. Under every collation in which the texts came in ascending order, a row that meets the user's
condition is read by just one fragment: one that is not for null keys if it has a key of the sampled
kind, and just the last one if it has none. A row that does not meet the condition is read by none.
The fragments' texts read back as the conditions that this is said of, for each column name. -/
theorem sampled_plan_partitions (s : Splitter) (conn : Handle) (t : ProbeTarget)
    (percentage : Binary64) (limit : Nat) {σ : Type} (server : Server σ) (state : σ)
    (next : Handle) (predicate : Option String) (count : Nat) {sql : String}
    {columns : List Column} {rows : List DriverRow} {failure : Option DriverError}
    {stats : KeyStats} (hcount : 2 ≤ count)
    (hsql : Sql.sample s.dialect t.table t.column t.predicate percentage limit = some sql)
    (hanswer : (server.execute state conn sql s.dialect.features.probeFetchSize).1 =
      .ok ⟨columns, rows, failure⟩)
    (hstats : ((Probe.samples s.dialect conn t percentage limit).run.run server state
      next).result = .ok stats) :
    ∃ plan : SplitPlan,
      (s.planFromStats stats predicate count).Returns plan ∧
      ((∀ p ∈ sampledKeys stats.kind rows, ∀ q ∈ sampledKeys stats.kind rows, p = q) →
        plan = .single predicate) ∧
      ((∃ p ∈ sampledKeys stats.kind rows, ∃ q ∈ sampledKeys stats.kind rows, p ≠ q) →
        plan.fragments.map (·.isNullPartition) =
          List.replicate stats.samples.length false ++ [true] ∧
        (Sql.isName t.column = true →
          plan.ReadBack t.column s.dialect.features.escape predicate)) ∧
      ∀ (order : Collation) (row : Row),
        (stats.kind = .string → (sampledKeys stats.kind rows).Pairwise order.Le) →
        (∀ key, row.Meets predicate → row.key t.column = some key → key.kind = stats.kind →
          ∃ f, plan.selected order row = [f] ∧ f.isNullPartition = false) ∧
        (row.Meets predicate → row.key t.column = none →
          ∃ f, plan.fragments.getLast? = some f ∧ plan.selected order row = [f]) ∧
        (¬row.Meets predicate → plan.selected order row = []) := by
  obtain ⟨columns', rows', hanswer', hsample⟩ := Probe.samples_result hsql hstats
  obtain ⟨rfl, rfl, -⟩ : columns = columns' ∧ rows = rows' ∧ failure = none := by
    simpa using hanswer.symm.trans hanswer'
  have hpoints := sampleStats_ok hsample
  generalize stats.kind = kind at hpoints ⊢
  subst hpoints
  have hkinds : ∀ p ∈ sampledKeys kind rows, p.kind = kind := fun p hp => kind_of_mem_sampledKeys hp
  generalize sampledKeys kind rows = keys at hkinds ⊢
  generalize hpoints : Probe.samplePoints kind (keys.map some) = points
  have hfew : points.length < 2 ↔ ∀ p ∈ keys, ∀ q ∈ keys, p = q := by
    rw [← hpoints]
    exact Probe.length_samplePoints_lt_two
  have hmem : ∀ p, p ∈ points ↔ p ∈ keys := by
    intro p
    rw [← hpoints]
    exact Probe.mem_samplePoints
  by_cases hlength : points.length < 2
  · -- one fragment
    refine ⟨.single predicate, returns_sampleOf_few hcount hlength, fun _ => rfl, ?_, ?_⟩
    · intro ⟨p, hp, q, hq, hne⟩
      exact absurd (hfew.1 hlength p hp q hq) hne
    · intro order row _
      obtain ⟨hread, hnone⟩ := selected_single order row predicate
      exact ⟨fun key hmeets _ _ => ⟨_, hread hmeets, rfl⟩, fun hmeets _ => ⟨_, rfl, hread hmeets⟩,
        hnone⟩
  · -- ranges between the points, and one condition for the keys outside
    obtain ⟨low, inner, last, hends⟩ := exists_ends hlength
    have hpointkinds : ∀ p ∈ points, p.kind = kind := fun p hp => hkinds p ((hmem p).1 hp)
    refine ⟨_, returns_sampleOf hcount hends hpointkinds, fun h => absurd (hfew.2 h) hlength,
      fun _ => ⟨?_, fun hname => ?_⟩, fun order row hsorted => ?_⟩
    · rw [isNullPartition_ofRanges, ranges_sampleOf s hends, List.length_append,
        length_rangeConditions]
      simp [operands, KeyStats.samples, hends]
    · exact readBack_ofRanges hname (fun c hc => written_sampled hends hc) predicate
    · have hascending : points.Pairwise order.Le := by
        rw [← hpoints]
        exact Probe.pairwise_samplePoints hkinds hsorted
      exact selected_sampleOf hends hpointkinds hascending

/-- A database that answers every statement with the same rows: texts in the order of a collation
that need not tell "B" from "b". -/
def namesServer : Server Unit where
  connect state _ _ := (.ok (), state)
  execute state _ _ _ :=
    (.ok ⟨[⟨"name", .varChar, "VARCHAR", 20⟩],
      [[.text "B"], [.text "b"], [.null], [.text "b"], [.text "c"]], none⟩, state)
  close state _ := (.ok (), state)

/-- A row whose key is a sampled text is read once, also where other sampled texts are equal to it
in the collation. -/
theorem sampled_plan_partitions_names :
    2 ≤ 5 ∧ ∃ sql stats,
      Sql.sample .mySql "people" "name" none (.ofDecimal ⟨1, 1⟩) 4 = some sql ∧
      ((Probe.samples .mySql 0 ⟨"people", "name", none⟩ (.ofDecimal ⟨1, 1⟩) 4).run.run namesServer
        () 1).result = .ok stats ∧
      stats = sampleOf "people" "name" .string [.text "B", .text "b", .text "c"] ∧
      ∃ plan : SplitPlan,
        (planFromStats { dialect := .mySql } stats none 5).Returns plan ∧
        plan.fragments.map (·.isNullPartition) = [false, false, false, true] ∧
        ∀ order : Collation,
          [.text "B", .text "b", .text "b", .text "c"].Pairwise order.Le →
          ∃ f, plan.selected order ⟨fun _ => some (.text "b"), fun _ => .yes⟩ = [f] ∧
            f.isNullPartition = false := by
  obtain ⟨sql, hsql⟩ : ∃ sql,
      Sql.sample .mySql "people" "name" none (.ofDecimal ⟨1, 1⟩) 4 = some sql := ⟨_, rfl⟩
  have hstats : ((Probe.samples .mySql 0 ⟨"people", "name", none⟩ (.ofDecimal ⟨1, 1⟩) 4).run.run
      namesServer () 1).result =
        .ok (sampleOf "people" "name" .string [.text "B", .text "b", .text "c"]) := by
    rw [Probe.samples_run hsql, Probe.run_run]
    rfl
  obtain ⟨plan, hreturns, -, hmany, hrows⟩ :=
    sampled_plan_partitions { dialect := .mySql } 0 ⟨"people", "name", none⟩ (.ofDecimal ⟨1, 1⟩) 4
      namesServer () 1 none 5 (by decide) hsql rfl hstats
  refine ⟨by decide, sql, _, hsql, hstats, rfl, plan, hreturns, ?_, fun order hsorted => ?_⟩
  · exact (hmany ⟨.text "B", by decide, .text "c", by decide, by decide⟩).1
  · exact (hrows order _ fun _ => hsorted).1 (.text "b") (fun _ h => by cases h) rfl rfl

end TableExchange
