import TableExchange.Proofs.Split.KeyValues
import TableExchange.Proofs.Split.PlanShape
import TableExchange.Proofs.Split.Probing
import TableExchange.Proofs.Split.Samples

/-!
# The statistics that probes find

What the statistics of a key hold if a probe for them succeeds, whatever the driver has answered: a
key kind that the type of the column makes, and the keys in the answer, none of them changed, added
or lost. Plans are made from such statistics, unless a bound is a text that is not ASCII.

* `Probe.MinMaxOf`, `Probe.SampleOf`: the statistics in an answer.
* `Probe.minMaxOf_of_ok`, `Probe.sampleOf_of_ok`: those that are found.
* `KeyStats.Typed`, `Splitter.settles_of_typed`: what planning from them comes to.
* `Probe.statistics_exact`: probes and the plans made from them.
-/

namespace TableExchange

namespace SplitPoint

variable {p : SplitPoint}

theorem eq_integer (h : p.kind = .numeric) : ∃ n, p = .integer n := by
  cases p with
  | integer n => exact ⟨n, rfl⟩
  | text s => cases h

theorem eq_text (h : p.kind = .string) : ∃ s, p = .text s := by
  cases p with
  | integer n => cases h
  | text s => exact ⟨s, rfl⟩

end SplitPoint

namespace Probe

variable {dialect : Dialect} {conn : Handle} {t : ProbeTarget} {columns : List Column}
  {rows : List DriverRow} {stats : KeyStats}

/-- The first row of an answer, empty if there is none. -/
def firstRow (rows : List DriverRow) : DriverRow := rows.head?.getD []

/-- Statistics of a target. -/
structure About (t : ProbeTarget) (statistics : Statistics) (stats : KeyStats) : Prop where
  table : stats.table = t.table
  column : stats.column = t.column
  statistics : stats.statistics = statistics

/-- Statistics hold the least and the greatest key of an answer. -/
structure MinMaxOf (dialect : Dialect) (t : ProbeTarget) (columns : List Column)
    (rows : List DriverRow) (stats : KeyStats) : Prop where
  about : About t .minMax stats
  /-- Two columns have one type, which makes the kind of the key. -/
  columns : ∃ low high, columns = [low, high] ∧ low.type = high.type ∧
    dialect.keyKind? low.type = some stats.kind
  /-- The bounds are both known or both unknown. -/
  both : stats.lower = none ↔ stats.upper = none
  kinds : ∀ p, stats.lower = some p ∨ stats.upper = some p → p.kind = stats.kind
  /-- A bound is the key that its value holds. -/
  lower : ∀ p, stats.lower = some p → (valueAt (firstRow rows) 0).IsKey stats.kind p
  upper : ∀ p, stats.upper = some p → (valueAt (firstRow rows) 1).IsKey stats.kind p
  /-- Bounds are unknown where a value is null. -/
  unknown : stats.lower = none → ∃ i < 2, valueAt (firstRow rows) i = .null
  exact : stats.kind = .numeric → ∀ i < 2, (valueAt (firstRow rows) i).isInexact = false
  noSample : stats.samples = []

/-- Statistics hold the keys of a sample. -/
structure SampleOf (dialect : Dialect) (t : ProbeTarget) (columns : List Column)
    (rows : List DriverRow) (stats : KeyStats) : Prop where
  about : About t .sampled stats
  /-- The type of the first column makes the kind of the key. -/
  columns : ∃ column rest, columns = column :: rest ∧
    dialect.keyKind? column.type = some stats.kind
  kinds : ∀ p ∈ stats.samples, p.kind = stats.kind
  lower : stats.lower = stats.samples.head?
  upper : stats.upper = stats.samples.getLast?
  /-- The keys are those of the rows that are not null. Integers strictly ascend; of texts, just
  repeated neighbours are left out. -/
  keys : ∃ keys, List.Forall₂ (DriverValue.IsKey stats.kind)
      ((rows.map (valueAt · 0)).filter (!·.isNull)) keys ∧
    match stats.kind with
    | .numeric => (∃ ns : List Int, stats.samples = ns.map .integer ∧ ns.Pairwise (· < ·)) ∧
      ∀ p, p ∈ stats.samples ↔ p ∈ keys
    | .string => stats.samples = keys.destutter (· ≠ ·)
  exact : stats.kind = .numeric → ∀ row ∈ rows, (valueAt row 0).isInexact = false

/-! ## The least and the greatest key -/

/-- The findings for what is found in two values: both keys, or none. -/
def boundsOf (lower upper : Option SplitPoint) : KeyFindings :=
  match lower, upper with
  | some lower, some upper => .bounds (some lower) (some upper)
  | _, _ => .bounds none none

theorem minMaxStats_ok (h : minMaxStats dialect t columns rows = .ok stats) :
    ∃ low high lower upper, columns = [low, high] ∧ low.type = high.type ∧
      dialect.keyKind? low.type = some stats.kind ∧
      (valueAt (firstRow rows) 0).Holds stats.kind lower ∧
      (valueAt (firstRow rows) 1).Holds stats.kind upper ∧
      stats = ⟨t.table, t.column, stats.kind, boundsOf lower upper⟩ := by
  unfold minMaxStats at h
  match columns with
  | [low, high] =>
    obtain ⟨htypes, h⟩ := guard_eq_ok.1 h
    obtain ⟨kind, hkind, h⟩ := bind_eq_ok.1 h
    obtain ⟨lower, hlower, h⟩ := bind_eq_ok.1 h
    obtain ⟨upper, hupper, h⟩ := bind_eq_ok.1 h
    cases h
    exact ⟨low, high, lower, upper, rfl, not_not.1 htypes, keyKind_eq_ok_iff.1 hkind,
      point_eq_ok_iff.1 hlower, point_eq_ok_iff.1 hupper, rfl⟩

theorem boundsOf_cases (lower upper : Option SplitPoint) :
    ((lower = none ∨ upper = none) ∧ boundsOf lower upper = .bounds none none) ∨
      ∃ p q, lower = some p ∧ upper = some q ∧
        boundsOf lower upper = .bounds (some p) (some q) := by
  cases lower with
  | none => exact .inl ⟨.inl rfl, rfl⟩
  | some p =>
    cases upper with
    | none => exact .inl ⟨.inr rfl, rfl⟩
    | some q => exact .inr ⟨p, q, rfl, rfl, rfl⟩

theorem minMaxOf_of_ok (h : minMaxStats dialect t columns rows = .ok stats) :
    MinMaxOf dialect t columns rows stats := by
  obtain ⟨low, high, lower, upper, hcolumns, htypes, hkind, hlower, hupper, hstats⟩ :=
    minMaxStats_ok h
  have hexact : stats.kind = .numeric →
      ∀ i < 2, (valueAt (firstRow rows) i).isInexact = false := by
    intro hnumeric i hi
    rw [hnumeric] at hlower hupper
    obtain rfl | rfl : i = 0 ∨ i = 1 := by omega
    · exact hlower.not_inexact
    · exact hupper.not_inexact
  obtain ⟨table, column, kind, findings⟩ := stats
  obtain ⟨rfl, rfl, rfl⟩ : table = t.table ∧ column = t.column ∧ findings = boundsOf lower upper := by
    simpa using hstats
  rcases boundsOf_cases lower upper with ⟨hnone, hbounds⟩ | ⟨p, q, rfl, rfl, hbounds⟩
  · rw [hbounds]
    refine ⟨⟨rfl, rfl, rfl⟩, ⟨low, high, hcolumns, htypes, hkind⟩, Iff.rfl, nofun, nofun, nofun,
      fun _ => ?_, hexact, rfl⟩
    rcases hnone with rfl | rfl
    · exact ⟨0, by decide, hlower.eq_null⟩
    · exact ⟨1, by decide, hupper.eq_null⟩
  · rw [hbounds]
    have hp := hlower.isKey
    have hq := hupper.isKey
    refine ⟨⟨rfl, rfl, rfl⟩, ⟨low, high, hcolumns, htypes, hkind⟩, iff_of_false nofun nofun, ?_, ?_,
      ?_, nofun, hexact, rfl⟩
    · rintro r (hr | hr)
      · obtain rfl : p = r := Option.some.inj hr
        exact hp.kind_eq
      · obtain rfl : q = r := Option.some.inj hr
        exact hq.kind_eq
    · intro r hr
      obtain rfl : p = r := Option.some.inj hr
      exact hp
    · intro r hr
      obtain rfl : q = r := Option.some.inj hr
      exact hq

/-! ## Sampled keys -/

/-- The keys that are found are those of the values that are not null. -/
theorem forall₂_isKey {kind : KeyKind} {values : List DriverValue}
    {found : List (Option SplitPoint)}
    (h : List.Forall₂ (DriverValue.Holds kind) values found) :
    List.Forall₂ (DriverValue.IsKey kind) (values.filter (!·.isNull)) (found.filterMap id) := by
  induction h with
  | nil => exact .nil
  | cons hvalue _ ih =>
    cases hvalue with
    | null => exact ih
    | key hkey =>
      have hnull := hkey.isNull_eq
      simp only [List.filter_cons, hnull, List.filterMap_cons, id_eq]
      exact .cons hkey ih

/-- What follows for one side of a relation holds of all elements on this side. -/
theorem forall_left {α β : Type} {R : α → β → Prop} {p : α → Prop} {as : List α} {bs : List β}
    (hp : ∀ a b, R a b → p a) (h : List.Forall₂ R as bs) : ∀ a ∈ as, p a :=
  ((List.forall₂_and_left as bs).1 (h.imp fun a b hab => ⟨hp a b hab, hab⟩)).1

/-- A list of integer keys is a list of integers. -/
theorem exists_integers {points : List SplitPoint} (h : ∀ p ∈ points, p.kind = .numeric) :
    ∃ ns : List Int, points = ns.map .integer := by
  induction points with
  | nil => exact ⟨[], rfl⟩
  | cons p points ih =>
    obtain ⟨hp, hrest⟩ := List.forall_mem_cons.1 h
    obtain ⟨ns, rfl⟩ := ih hrest
    obtain ⟨n, rfl⟩ := SplitPoint.eq_integer hp
    exact ⟨n :: ns, rfl⟩

/-- Sorted integers without equal neighbours ascend strictly. -/
theorem pairwise_lt {ns : List Int} (hle : ns.Pairwise (· ≤ ·)) (hne : ns.IsChain (· ≠ ·)) :
    ns.Pairwise (· < ·) := by
  rw [← List.isChain_iff_pairwise, List.isChain_iff_getElem] at *
  exact fun i hi => lt_of_le_of_ne (hle i hi) (hne i hi)

theorem exists_ascending {keys : List SplitPoint} (h : ∀ p ∈ keys, p.kind = .numeric) :
    ∃ ns : List Int, (arranged .numeric keys).eraseReps = ns.map .integer ∧
      ns.Pairwise (· < ·) := by
  obtain ⟨ns, hns⟩ : ∃ ns : List Int, (arranged .numeric keys).eraseReps = ns.map .integer :=
    exists_integers fun p hp => h p (mem_arranged.1 (mem_eraseReps.1 hp))
  refine ⟨ns, hns, pairwise_lt ?_ ?_⟩
  · have hle := (pairwise_arranged keys).sublist (eraseReps_sublist _)
    rw [hns, List.pairwise_map] at hle
    simpa [SplitPoint.atMost] using hle
  · have hne := isChain_eraseReps (arranged .numeric keys)
    rw [hns, List.isChain_map] at hne
    exact hne.imp fun a b hab heq => hab (congrArg _ heq)

theorem sampleOf_of_ok (h : sampleStats dialect t columns rows = .ok stats) :
    SampleOf dialect t columns rows stats := by
  obtain ⟨column, rest, found, hcolumns, hkind, hfound, hstats⟩ := sampleStats_eq_ok h
  have hkeys := forall₂_isKey hfound
  have hexact : stats.kind = .numeric → ∀ row ∈ rows, (valueAt row 0).isInexact = false := by
    intro hnumeric row hrow
    rw [hnumeric] at hfound
    have hall : ∀ v ∈ rows.map (valueAt · 0), v.isInexact = false :=
      forall_left (fun _ _ => DriverValue.Holds.not_inexact) hfound
    exact hall _ (List.mem_map_of_mem hrow)
  have hkinds : ∀ p ∈ found.filterMap id, p.kind = stats.kind :=
    forall_left (fun _ _ => DriverValue.IsKey.kind_eq) hkeys.flip
  obtain ⟨table, column, kind, findings⟩ := stats
  obtain ⟨rfl, rfl, rfl⟩ : table = t.table ∧ column = t.column ∧
      findings = .samples (samplePoints kind found) := by
    simpa using hstats
  have hpoints : samplePoints kind found = (arranged kind (found.filterMap id)).eraseReps := by
    cases kind <;> rfl
  rw [hpoints]
  refine ⟨⟨rfl, rfl, rfl⟩, ⟨_, rest, hcolumns, hkind⟩, fun p hp => ?_, rfl, rfl,
    ⟨_, hkeys, ?_⟩, hexact⟩
  · exact hkinds p (mem_arranged.1 (mem_eraseReps.1 hp))
  · cases kind with
    | numeric =>
      refine ⟨exists_ascending hkinds, fun p => ?_⟩
      exact mem_eraseReps.trans mem_arranged
    | string => exact eraseReps_eq_destutter _

end Probe

/-! ## Plans -/

/-- The bounds and the samples are of the kind of the key, and bounds do not come alone. -/
structure KeyStats.Typed (stats : KeyStats) : Prop where
  bounds : ∀ p, stats.lower = some p ∨ stats.upper = some p → p.kind = stats.kind
  samples : ∀ p ∈ stats.samples, p.kind = stats.kind
  both : stats.lower = none ↔ stats.upper = none

theorem Probe.MinMaxOf.typed {dialect : Dialect} {t : ProbeTarget} {columns : List Column}
    {rows : List DriverRow} {stats : KeyStats} (h : MinMaxOf dialect t columns rows stats) :
    stats.Typed :=
  ⟨h.kinds, by rw [h.noSample]; exact nofun, h.both⟩

theorem Probe.SampleOf.typed {dialect : Dialect} {t : ProbeTarget} {columns : List Column}
    {rows : List DriverRow} {stats : KeyStats} (h : SampleOf dialect t columns rows stats) :
    stats.Typed := by
  refine ⟨fun p hp => h.kinds p ?_, h.kinds, ?_⟩
  · rcases hp with hlower | hupper
    · exact List.mem_of_head? (h.lower ▸ hlower)
    · exact List.mem_of_getLast? (h.upper ▸ hupper)
  · rw [h.lower, h.upper, List.head?_eq_none_iff, List.getLast?_eq_none_iff]

/-- A least or greatest key is a text that is not ASCII. -/
def KeyStats.HasForeignBound (stats : KeyStats) : Prop :=
  stats.statistics = .minMax ∧ ∃ s, (stats.lower = some (.text s) ∨ stats.upper = some (.text s)) ∧
    isAscii s = false

namespace Splitter

variable {stats : KeyStats} {count : Nat}

theorem not_hasForeignBound_of_lacksKeys (htyped : stats.Typed) (h : stats.LacksKeys) :
    ¬stats.HasForeignBound := by
  rintro ⟨hminMax, text, hbound, -⟩
  have hnone : stats.lower = none ∧ stats.upper = none := by
    rcases h with hlower | hupper | ⟨hsampled, -⟩
    · exact ⟨hlower, htyped.both.1 hlower⟩
    · exact ⟨htyped.both.2 hupper, hupper⟩
    · rw [hminMax] at hsampled
      cases hsampled
  rw [hnone.1, hnone.2] at hbound
  rcases hbound with h | h <;> cases h

/-- Typed statistics with both bounds allow boundaries, or else a bound is a text that is not
ASCII. -/
theorem wellKinded_or_notAscii (htyped : stats.Typed) (h : ¬stats.LacksKeys) :
    (stats.wellKinded = true ∧ ¬stats.HasForeignBound) ∨
      (stats.HasForeignBound ∧
        (Strategy.select stats.statistics stats.kind).boundaries stats count = .error .notAscii) := by
  obtain ⟨first, last, hfirst, hlast, hbounds⟩ := KeyStats.exists_bounds h
  have hfirstKind := htyped.bounds first (.inl hfirst)
  have hlastKind := htyped.bounds last (.inr hlast)
  cases hstatistics : stats.statistics with
  | sampled =>
    refine .inl ⟨?_, fun h => ?_⟩
    · rw [KeyStats.wellKinded, hstatistics]
      simpa using htyped.samples
    · rw [h.1] at hstatistics
      cases hstatistics
  | minMax =>
    have hkinds : stats.wellKinded = (first.bounds stats.kind && last.bounds stats.kind) := by
      simp [KeyStats.wellKinded, hstatistics, hfirst, hlast]
    have hforeign : stats.HasForeignBound ↔
        ∃ s, (first = .text s ∨ last = .text s) ∧ isAscii s = false := by
      simp [KeyStats.HasForeignBound, hstatistics, hfirst, hlast]
    cases hkind : stats.kind with
    | numeric =>
      rw [hkind] at hfirstKind hlastKind
      obtain ⟨a, rfl⟩ := SplitPoint.eq_integer hfirstKind
      obtain ⟨b, rfl⟩ := SplitPoint.eq_integer hlastKind
      refine .inl ⟨by rw [hkinds, hkind]; rfl, fun h => ?_⟩
      obtain ⟨s, ⟨⟨⟩⟩ | ⟨⟨⟩⟩, -⟩ := hforeign.1 h
    | string =>
      rw [hkind] at hfirstKind hlastKind
      obtain ⟨a, rfl⟩ := SplitPoint.eq_text hfirstKind
      obtain ⟨b, rfl⟩ := SplitPoint.eq_text hlastKind
      have hwell : stats.wellKinded = (isAscii a && isAscii b) := by
        rw [hkinds, hkind]
        rfl
      have hnot : stats.HasForeignBound ↔ ¬(isAscii a && isAscii b) = true := by
        rw [hforeign]
        cases ha : isAscii a <;> cases hb : isAscii b <;> simp [or_and_right, exists_or, ha, hb]
      rw [hwell, hnot]
      by_cases hascii : (isAscii a && isAscii b) = true
      · exact .inl ⟨hascii, not_not.2 hascii⟩
      · refine .inr ⟨hascii, ?_⟩
        rw [Strategy.select, Strategy.boundaries, hbounds]
        exact if_neg hascii

/-- Planning from typed statistics fails just for a least or greatest key that is not ASCII. -/
theorem settles_of_typed (s : Splitter) (predicate : Option String) (htyped : stats.Typed)
    (hcount : 2 ≤ count) :
    ∃ result events, (s.planFromStats stats predicate count).Settles result events ∧
      ∀ e, result = .error e ↔
        e = .illegalSplitKey stats.table stats.column .notAscii ∧ stats.HasForeignBound := by
  by_cases hlacks : stats.LacksKeys
  · obtain ⟨result, events, hsettles, ⟨f, rfl, -⟩, -⟩ :=
      settles_of_lacksKeys s predicate hlacks hcount
    exact ⟨_, events, hsettles, fun e => iff_of_false nofun fun h =>
      not_hasForeignBound_of_lacksKeys htyped hlacks h.2⟩
  · rcases wellKinded_or_notAscii htyped hlacks with ⟨hkinds, hforeign⟩ | ⟨hforeign, hfault⟩
    · obtain ⟨result, events, hsettles, plan, rfl, -⟩ :=
        settles_of_wellKinded s predicate hlacks hkinds hcount
      exact ⟨_, events, hsettles, fun e => iff_of_false nofun fun h => hforeign h.2⟩
    · have hreason := fallbackReason?_eq_none hlacks
      refine ⟨_, [], Attempt.settles_of_done (planFromStats_illegalKey hcount hreason hfault),
        fun e => ?_⟩
      simp [hforeign, eq_comm]

end Splitter

/-! ## Probes -/

section
variable {σ : Type} {server : Server σ} {state : σ} {next : Handle} {dialect : Dialect}
  {conn : Handle} {t : ProbeTarget} {stats : KeyStats}

theorem Probe.minMaxOf_of_result
    (h : ((minMax dialect conn t).run.run server state next).result = .ok stats) :
    ∃ columns rows,
      (server.execute state conn (Sql.minMax t.table t.column t.predicate)
        dialect.features.probeFetchSize).1 = .ok ⟨columns, rows, none⟩ ∧
      MinMaxOf dialect t columns rows stats := by
  obtain ⟨columns, rows, hanswer, hstats⟩ := minMax_result h
  exact ⟨columns, rows, hanswer, minMaxOf_of_ok hstats⟩

theorem Probe.sampleOf_of_result {percentage : Binary64} {limit : Nat}
    (h : ((samples dialect conn t percentage limit).run.run server state next).result =
      .ok stats) :
    ∃ sql columns rows,
      Sql.sample dialect t.table t.column t.predicate percentage limit = some sql ∧
      (server.execute state conn sql dialect.features.probeFetchSize).1 =
        .ok ⟨columns, rows, none⟩ ∧
      SampleOf dialect t columns rows stats := by
  obtain ⟨sql, hsql⟩ := exists_sample_of_result h
  obtain ⟨columns, rows, hanswer, hstats⟩ := samples_result hsql h
  exact ⟨sql, columns, rows, hsql, hanswer, sampleOf_of_ok hstats⟩

end

/-- **Statistics are typed, exact and complete.** What a probe finds, whatever the driver answers, is
what the answer holds: the least and the greatest key, or the keys of a sample, of the kind that the
type of the column makes. Planning from it fails just for a least or greatest key that is a text and
not ASCII. -/
theorem Probe.statistics_exact {σ : Type} (server : Server σ) (state : σ) (next : Handle)
    (dialect : Dialect) (conn : Handle) (t : ProbeTarget) (stats : KeyStats) :
    (((minMax dialect conn t).run.run server state next).result = .ok stats →
      ∃ columns rows,
        (server.execute state conn (Sql.minMax t.table t.column t.predicate)
          dialect.features.probeFetchSize).1 = .ok ⟨columns, rows, none⟩ ∧
        MinMaxOf dialect t columns rows stats) ∧
    (∀ percentage limit,
      ((samples dialect conn t percentage limit).run.run server state next).result = .ok stats →
      ∃ sql columns rows,
        Sql.sample dialect t.table t.column t.predicate percentage limit = some sql ∧
        (server.execute state conn sql dialect.features.probeFetchSize).1 =
          .ok ⟨columns, rows, none⟩ ∧
        SampleOf dialect t columns rows stats) ∧
    (((minMax dialect conn t).run.run server state next).result = .ok stats ∨
      (∃ percentage limit,
        ((samples dialect conn t percentage limit).run.run server state next).result = .ok stats) →
      ∀ (s : Splitter) (predicate : Option String) (count : Nat), 2 ≤ count →
        ∃ result events, (s.planFromStats stats predicate count).Settles result events ∧
          ∀ e, result = .error e ↔
            e = .illegalSplitKey stats.table stats.column .notAscii ∧ stats.HasForeignBound) := by
  refine ⟨minMaxOf_of_result, fun _ _ => sampleOf_of_result,
    fun hfound s predicate count hcount => s.settles_of_typed predicate ?_ hcount⟩
  rcases hfound with h | ⟨percentage, limit, h⟩
  · obtain ⟨columns, rows, -, hof⟩ := minMaxOf_of_result h
    exact hof.typed
  · obtain ⟨sql, columns, rows, -, -, hof⟩ := sampleOf_of_result h
    exact hof.typed

/-- A database that answers every statement with the same rows. -/
def answering (columns : List Column) (rows : List DriverRow) : Server Unit where
  connect state _ _ := (.ok (), state)
  execute state _ _ _ := (.ok ⟨columns, rows, none⟩, state)
  close state _ := (.ok (), state)

/-- Two of the five rows of a sample hold the key 10, written in two ways, and two hold none. The
greatest of the names is not ASCII. -/
theorem Probe.statistics_exact_people :
    let ids : Server Unit := answering [⟨"id", .bigInt, "BIGINT", 19⟩]
      [[.integer 7], [.text " 1_0 "], [.null], [.decimal "+10"], []]
    let names : Server Unit := answering
      [⟨"low", .varChar, "VARCHAR", 20⟩, ⟨"high", .varChar, "VARCHAR", 20⟩]
      [[.text "ann", .text "zoë"]]
    let found : KeyStats := ⟨"people", "id", .numeric, .samples [.integer 7, .integer 10]⟩
    let bounds : KeyStats :=
      ⟨"people", "name", .string, .bounds (some (.text "ann")) (some (.text "zoë"))⟩
    let percentage := Binary64.ofDecimal ⟨1, 1⟩
    ((samples .mySql 0 ⟨"people", "id", none⟩ percentage 9).run.run ids () 1).result =
      .ok found ∧
    (∃ rows, SampleOf .mySql ⟨"people", "id", none⟩ [⟨"id", .bigInt, "BIGINT", 19⟩] rows found) ∧
    ((minMax .mySql 0 ⟨"people", "name", none⟩).run.run names () 1).result = .ok bounds ∧
    2 ≤ 4 ∧ ∃ events, (Splitter.planFromStats { dialect := .mySql } bounds none 4).Settles
      (.error (.illegalSplitKey "people" "name" .notAscii)) events := by
  intro ids names found bounds percentage
  have hsorted : [SplitPoint.integer 7, .integer 10, .integer 10].mergeSort SplitPoint.atMost =
      [.integer 7, .integer 10, .integer 10] := List.mergeSort_of_pairwise (by decide)
  have hfound : ((samples .mySql 0 ⟨"people", "id", none⟩ percentage 9).run.run ids () 1).result =
      .ok found := by
    obtain ⟨sql, hsql⟩ : ∃ sql, Sql.sample .mySql "people" "id" none percentage 9 = some sql :=
      ⟨_, rfl⟩
    have hstats : sampleStats .mySql ⟨"people", "id", none⟩ [⟨"id", .bigInt, "BIGINT", 19⟩]
        [[.integer 7], [.text " 1_0 "], [.null], [.decimal "+10"], []] = .ok found := by
      show Except.ok (KeyStats.mk "people" "id" .numeric (.samples (List.eraseReps
        ([.integer 7, .integer 10, .integer 10].mergeSort SplitPoint.atMost)))) = _
      rw [hsorted]
      rfl
    rw [samples_run hsql, run_run]
    simp only [Program.bind, Program.run, Outcome.after, ids, answering, queryAnswer, hstats]
  have hbounds : ((minMax .mySql 0 ⟨"people", "name", none⟩).run.run names () 1).result =
      .ok bounds := by
    rw [minMax_run, run_run]
    rfl
  obtain ⟨-, hsamples, -⟩ := statistics_exact ids () 1 .mySql 0 ⟨"people", "id", none⟩ found
  obtain ⟨-, -, hplan⟩ := statistics_exact names () 1 .mySql 0 ⟨"people", "name", none⟩ bounds
  obtain ⟨sql, columns, rows, -, hanswer, hof⟩ := hsamples percentage 9 hfound
  obtain ⟨rfl, -⟩ : _ = columns ∧ _ = rows := by simpa [ids, answering] using hanswer
  obtain ⟨result, events, hsettles, hfails⟩ :=
    hplan (.inl hbounds) { dialect := .mySql } none 4 (by decide)
  have hforeign : bounds.HasForeignBound := ⟨rfl, "zoë", .inr rfl, by decide⟩
  rw [(hfails _).2 ⟨rfl, hforeign⟩] at hsettles
  exact ⟨hfound, ⟨rows, hof⟩, hbounds, by decide, events, hsettles⟩

end TableExchange
