import TableExchange.Proofs.Results
import TableExchange.Proofs.Split.TextPartition

/-!
# The shape of plans

What planning from known statistics comes to, for all statistics, those that no probe fills in among
them: how many fragments there are, which of them is for null keys, and the one event that is told.

* `KeyStats.LacksKeys`, `KeyStats.wellKinded`: what decides between one fragment, an error and ranges.
* `Strategy.boundaries_evenNumeric_eq_ok` and its siblings: which boundaries a strategy finds.
* `Strategy.exists_boundaries`: they are found just for points of the kind of the key.
* `Splitter.length_ranges`, `Splitter.sampleTexts_ranges`: how many ranges there are then, and how
  those of a sample are written.
* `Splitter.plan_shape`: the plan or the error, with the event.
-/

namespace TableExchange

variable {stats : KeyStats} {count : Nat}

/-! ## Statistics -/

/-- A bound is missing, or the sample has fewer than two keys. -/
def KeyStats.LacksKeys (stats : KeyStats) : Prop :=
  stats.lower = none ∨ stats.upper = none ∨
    stats.statistics = .sampled ∧ stats.samples.length < 2

instance (stats : KeyStats) : Decidable stats.LacksKeys :=
  inferInstanceAs (Decidable (_ ∨ _ ∨ _ ∧ _))

/-- A point can bound ranges of equal width: an integer for a numeric key, or else an ASCII text. -/
def SplitPoint.bounds : KeyKind → SplitPoint → Bool
  | .numeric, .integer _ => true
  | .string, .text s => isAscii s
  | _, _ => false

/-- The points that the ranges are made from are all of the kind of the key. -/
def KeyStats.wellKinded (stats : KeyStats) : Bool :=
  match stats.statistics with
  | .minMax => (stats.lower.toList ++ stats.upper.toList).all (·.bounds stats.kind)
  | .sampled => stats.samples.all (·.kind = stats.kind)

/-- How many fragments are not for null keys. -/
def KeyStats.rangeCount (stats : KeyStats) (count : Nat) : Nat :=
  match stats.statistics with
  | .minMax => count
  | .sampled => stats.samples.length

/-- A missing bound is told of before a sample that is too small. -/
theorem Splitter.fallbackReason?_of_lacksKeys (h : stats.LacksKeys) :
    fallbackReason? stats = some
      (if stats.lower = none ∨ stats.upper = none then .noNonNullKeys else .tooFewSamples) := by
  rw [fallbackReason?, KeyStats.bounds?]
  cases hlower : stats.lower with
  | none => simp
  | some lower =>
    cases hupper : stats.upper with
    | none => simp
    | some upper =>
      obtain ⟨hsampled, hfew⟩ : stats.statistics = .sampled ∧ stats.samples.length < 2 := by
        simpa [KeyStats.LacksKeys, hlower, hupper] using h
      simp [hsampled, hfew]

theorem KeyStats.exists_bounds (h : ¬stats.LacksKeys) :
    ∃ first last, stats.lower = some first ∧ stats.upper = some last ∧
      stats.bounds? = some (first, last) := by
  obtain ⟨hlower, hrest⟩ := not_or.1 h
  obtain ⟨hupper, -⟩ := not_or.1 hrest
  obtain ⟨first, hfirst⟩ := Option.ne_none_iff_exists'.1 hlower
  obtain ⟨last, hlast⟩ := Option.ne_none_iff_exists'.1 hupper
  exact ⟨first, last, hfirst, hlast, by rw [KeyStats.bounds?, hfirst, hlast]⟩

theorem KeyStats.two_le_length_samples (h : ¬stats.LacksKeys) (hsampled : stats.statistics = .sampled) :
    2 ≤ stats.samples.length := by
  refine Nat.le_of_not_lt fun hfew => h ?_
  exact .inr (.inr ⟨hsampled, hfew⟩)

theorem Splitter.fallbackReason?_eq_none (h : ¬stats.LacksKeys) : fallbackReason? stats = none := by
  obtain ⟨first, last, -, -, hbounds⟩ := KeyStats.exists_bounds h
  rw [fallbackReason?, hbounds]
  cases hstatistics : stats.statistics with
  | minMax => rfl
  | sampled => exact if_neg (Nat.not_lt.2 (KeyStats.two_le_length_samples h hstatistics))

/-! ## Boundaries -/

namespace Strategy

variable {first last : SplitPoint} {points : List SplitPoint}

theorem boundaries_evenNumeric_eq_ok (hbounds : stats.bounds? = some (first, last)) :
    evenNumeric.boundaries stats count = .ok points ↔
      ∃ a b, first = .integer a ∧ last = .integer b ∧
        points = (evenBoundaries a b count).map .integer := by
  rw [boundaries, hbounds]
  cases first <;> cases last <;> simp [eq_comm (a := points)]

theorem boundaries_evenAscii_eq_ok (hbounds : stats.bounds? = some (first, last)) :
    evenAscii.boundaries stats count = .ok points ↔
      ∃ a b, first = .text a ∧ last = .text b ∧ isAscii a = true ∧ isAscii b = true ∧
        points = textPoints a b count := by
  rw [boundaries, hbounds]
  cases first <;> cases last <;> simp [textPoints, ite_eq_ok, and_assoc]

theorem boundaries_sampled_eq_ok :
    sampled.boundaries stats count = .ok points ↔
      stats.samples.all (·.kind = stats.kind) = true ∧ points = stats.samples := by
  rw [boundaries, ite_eq_ok]

/-- Boundaries are found just where the points they are made from are of the kind of the key. -/
theorem exists_boundaries (count : Nat) (h : ¬stats.LacksKeys) :
    (∃ points, (select stats.statistics stats.kind).boundaries stats count = .ok points) ↔
      stats.wellKinded = true := by
  obtain ⟨first, last, hfirst, hlast, hbounds⟩ := KeyStats.exists_bounds h
  have hends : (stats.lower.toList ++ stats.upper.toList).all (·.bounds stats.kind) =
      (first.bounds stats.kind && last.bounds stats.kind) := by
    simp [hfirst, hlast]
  rw [KeyStats.wellKinded]
  cases stats.statistics with
  | sampled => simp [select, boundaries_sampled_eq_ok]
  | minMax =>
    rw [hends]
    cases stats.kind with
    | numeric =>
      simp only [select, boundaries_evenNumeric_eq_ok hbounds]
      cases first <;> cases last <;> simp [SplitPoint.bounds]
    | string =>
      simp only [select, boundaries_evenAscii_eq_ok hbounds]
      cases first <;> cases last <;> simp [SplitPoint.bounds]

/-- Between two bounds there is one boundary more than pieces. -/
theorem length_boundaries_of_minMax (hcount : 0 < count) (h : ¬stats.LacksKeys)
    (hminMax : stats.statistics = .minMax)
    (hpoints : (select stats.statistics stats.kind).boundaries stats count = .ok points) :
    points.length = count + 1 := by
  obtain ⟨first, last, -, -, hbounds⟩ := KeyStats.exists_bounds h
  rw [hminMax] at hpoints
  cases hkind : stats.kind with
  | numeric =>
    rw [hkind] at hpoints
    obtain ⟨a, b, -, -, rfl⟩ := (boundaries_evenNumeric_eq_ok hbounds).1 hpoints
    rw [List.length_map, length_evenBoundaries a b hcount]
  | string =>
    rw [hkind] at hpoints
    obtain ⟨a, b, -, -, -, -, rfl⟩ := (boundaries_evenAscii_eq_ok hbounds).1 hpoints
    exact length_textPoints a b hcount

theorem boundaries_of_sampled (hsampled : stats.statistics = .sampled)
    (hpoints : (select stats.statistics stats.kind).boundaries stats count = .ok points) :
    points = stats.samples := by
  rw [hsampled, select] at hpoints
  exact (boundaries_sampled_eq_ok.1 hpoints).2

end Strategy

/-! ## Plans -/

namespace Splitter

/-- One fragment with the user's condition as it is, and the event that tells why. -/
def FallsBack (stats : KeyStats) (predicate : Option String) (result : Except SplitError SplitPlan)
    (events : List Event) : Prop :=
  (∃ f : Fragment, result = .ok ⟨[f]⟩ ∧ f.isNullPartition = false ∧ f.predicate = predicate) ∧
  events = [.fallback stats.table
    (if stats.lower = none ∨ stats.upper = none then .noNonNullKeys else .tooFewSamples)]

/-- An error that blames the key, and no event. -/
def RejectsKey (stats : KeyStats) (result : Except SplitError SplitPlan) (events : List Event) :
    Prop :=
  (∃ fault, result = .error (.illegalSplitKey stats.table stats.column fault)) ∧ events = []

/-- The texts of the ranges of a sample: one for each key and the next, and behind them the one for
the keys outside of the first and the last. -/
def SampleTexts (dialect : Dialect) (column : String) (samples : List SplitPoint)
    (first last : SplitPoint) (ranges : List Condition) : Prop :=
  (∀ i low high, samples[i]? = some low → samples[i + 1]? = some high →
    ranges[i]?.map Condition.render = some (rangeText column (low.operand dialect)
      (high.operand dialect) (i + 2 = samples.length))) ∧
  ranges[samples.length - 1]?.map Condition.render =
    some (outsideText column (first.operand dialect) (last.operand dialect))

/-- One fragment for each range and one for null keys at the end, and the event that lists them. The
ranges of a sample are those between its keys and the one for the keys outside. -/
def Divides (s : Splitter) (stats : KeyStats) (predicate : Option String) (count : Nat)
    (result : Except SplitError SplitPlan) (events : List Event) : Prop :=
  ∃ plan : SplitPlan, result = .ok plan ∧
    plan.fragments.map (·.isNullPartition) =
      List.replicate (stats.rangeCount count) false ++ [true] ∧
    (stats.statistics = .sampled → ∃ first last inside, stats.bounds? = some (first, last) ∧
      inside = rangeConditions stats.column (operands s.dialect stats.samples) ∧
      inside.length = stats.samples.length - 1 ∧
      SampleTexts s.dialect stats.column stats.samples first last
        (inside ++ [outsideCondition stats.column (first.operand s.dialect)
          (last.operand s.dialect)]) ∧
      plan = .ofRanges (inside ++ [outsideCondition stats.column (first.operand s.dialect)
        (last.operand s.dialect)]) stats.column predicate) ∧
    ∃ texts, plan.fragments.map (·.predicate) = texts.map some ∧
      events = [.planComputed stats.table (Strategy.select stats.statistics stats.kind).name texts]

variable {s : Splitter} {predicate : Option String} {points : List SplitPoint}
  {result : Except SplitError SplitPlan} {events : List Event}

theorem ranges_of_minMax (hminMax : stats.statistics = .minMax) :
    s.ranges stats points = rangeConditions stats.column (operands s.dialect points) := by
  rw [ranges, hminMax]

theorem ranges_of_sampled (hsampled : stats.statistics = .sampled) {first last : SplitPoint}
    (hbounds : stats.bounds? = some (first, last)) :
    s.ranges stats points = rangeConditions stats.column (operands s.dialect points) ++
      [outsideCondition stats.column (first.operand s.dialect) (last.operand s.dialect)] := by
  rw [ranges, hsampled, hbounds]

theorem length_ranges (hcount : 0 < count) (h : ¬stats.LacksKeys)
    (hpoints : (Strategy.select stats.statistics stats.kind).boundaries stats count = .ok points) :
    (s.ranges stats points).length = stats.rangeCount count := by
  rw [KeyStats.rangeCount]
  cases hstatistics : stats.statistics with
  | minMax =>
    rw [ranges_of_minMax hstatistics, length_rangeConditions, operands, List.length_map,
      Strategy.length_boundaries_of_minMax hcount h hstatistics hpoints, Nat.add_sub_cancel]
  | sampled =>
    obtain ⟨first, last, -, -, hbounds⟩ := KeyStats.exists_bounds h
    have htwo := KeyStats.two_le_length_samples h hstatistics
    rw [ranges_of_sampled hstatistics hbounds, List.length_append, length_rangeConditions, operands,
      List.length_map, Strategy.boundaries_of_sampled hstatistics hpoints,
      List.length_singleton]
    exact Nat.sub_add_cancel (by omega)

theorem sampleTexts_ranges (dialect : Dialect) (column : String) (samples : List SplitPoint)
    (first last : SplitPoint) :
    SampleTexts dialect column samples first last
      (rangeConditions column (operands dialect samples) ++
        [outsideCondition column (first.operand dialect) (last.operand dialect)]) := by
  have hlength : (rangeConditions column (operands dialect samples)).length =
      samples.length - 1 := by
    rw [length_rangeConditions, operands, List.length_map]
  constructor
  · intro i low high hlow hhigh
    obtain ⟨hlt, -⟩ := List.getElem?_eq_some_iff.1 hhigh
    have hlow' : (operands dialect samples)[i]? = some (low.operand dialect) := by
      rw [operands, List.getElem?_map, hlow, Option.map_some]
    have hhigh' : (operands dialect samples)[i + 1]? = some (high.operand dialect) := by
      rw [operands, List.getElem?_map, hhigh, Option.map_some]
    rw [List.getElem?_append_left (by omega), render_rangeConditions hlow' hhigh', operands,
      List.length_map]
  · rw [← hlength, List.getElem?_concat_length, Option.map_some, render_outsideCondition]

theorem predicate_ofRanges (ranges : List Condition) (column : String) :
    (SplitPlan.ofRanges ranges column predicate).fragments.map (·.predicate) =
      (SplitPlan.ofRanges ranges column predicate).rendered.map some := by
  simp [SplitPlan.ofRanges, SplitPlan.rendered, Fragment.range, Fragment.nullPartition,
    Fragment.predicate]

theorem FallsBack.not_early (h : FallsBack stats predicate result events) :
    (¬∃ fault, result = .error (.illegalArgument fault)) ∧ result ≠ .ok .empty := by
  obtain ⟨⟨f, rfl, -⟩, -⟩ := h
  simp [SplitPlan.empty]

theorem RejectsKey.not_early (h : RejectsKey stats result events) :
    (¬∃ fault, result = .error (.illegalArgument fault)) ∧ result ≠ .ok .empty := by
  obtain ⟨⟨fault, rfl⟩, -⟩ := h
  simp

theorem Divides.not_early (h : s.Divides stats predicate count result events) :
    (¬∃ fault, result = .error (.illegalArgument fault)) ∧ result ≠ .ok .empty := by
  obtain ⟨plan, rfl, hflags, -⟩ := h
  refine ⟨by simp, ?_⟩
  -- the empty plan has no fragment for null keys
  rintro ⟨⟩
  simp [SplitPlan.empty] at hflags

theorem settles_of_lacksKeys (s : Splitter) (predicate : Option String) (h : stats.LacksKeys)
    (hcount : 2 ≤ count) :
    ∃ result events, (s.planFromStats stats predicate count).Settles result events ∧
      FallsBack stats predicate result events := by
  have hreason := Splitter.fallbackReason?_of_lacksKeys h
  refine ⟨_, [_], Attempt.settles_of_noting (planFromStats_fallback hcount hreason),
    ⟨_, rfl, rfl, ?_⟩, rfl⟩
  cases predicate <;> rfl

theorem settles_of_illKinded (s : Splitter) (predicate : Option String)
    (h : ¬stats.LacksKeys) (hkinds : stats.wellKinded = false) (hcount : 2 ≤ count) :
    ∃ result events, (s.planFromStats stats predicate count).Settles result events ∧
      RejectsKey stats result events := by
  cases hfault : (Strategy.select stats.statistics stats.kind).boundaries stats count with
  | ok points => exact absurd ((Strategy.exists_boundaries count h).1 ⟨points, hfault⟩) (by simp [hkinds])
  | error fault =>
    have hreason := Splitter.fallbackReason?_eq_none h
    exact ⟨_, [], Attempt.settles_of_done (planFromStats_illegalKey hcount hreason hfault),
      ⟨fault, rfl⟩, rfl⟩

theorem settles_of_wellKinded (s : Splitter) (predicate : Option String) (h : ¬stats.LacksKeys)
    (hkinds : stats.wellKinded = true) (hcount : 2 ≤ count) :
    ∃ result events, (s.planFromStats stats predicate count).Settles result events ∧
      s.Divides stats predicate count result events := by
  obtain ⟨points, hpoints⟩ := (Strategy.exists_boundaries count h).2 hkinds
  have hreason := Splitter.fallbackReason?_eq_none h
  refine ⟨_, [_], Attempt.settles_of_noting (planFromStats_ranges hcount hreason hpoints), _, rfl,
    ?_, fun hsampled => ?_, _, predicate_ofRanges _ _, rfl⟩
  · rw [rangePlan, isNullPartition_ofRanges, length_ranges (by omega) h hpoints]
  · obtain ⟨first, last, -, -, hbounds⟩ := KeyStats.exists_bounds h
    obtain rfl := Strategy.boundaries_of_sampled hsampled hpoints
    refine ⟨first, last, _, hbounds, rfl, ?_, sampleTexts_ranges .., ?_⟩
    · rw [length_rangeConditions, operands, List.length_map]
    · rw [rangePlan, ranges_of_sampled hsampled hbounds]

/-- **The shape of every plan and its event.** No piece is an error and one piece the empty plan, and
nothing else is either; nothing is told then. For more pieces there is one fragment where keys are
lacking, an error where the points are not of the kind of the key, and ranges otherwise. -/
theorem plan_shape (s : Splitter) (stats : KeyStats) (predicate : Option String) (count : Nat) :
    ∃ result events, (s.planFromStats stats predicate count).Settles result events ∧
      ((∃ fault, result = .error (.illegalArgument fault)) ↔ count = 0) ∧
      (result = .ok .empty ↔ count = 1) ∧
      (count < 2 → events = []) ∧
      (2 ≤ count → stats.LacksKeys → FallsBack stats predicate result events) ∧
      (2 ≤ count → ¬stats.LacksKeys → stats.wellKinded = false → RejectsKey stats result events) ∧
      (2 ≤ count → ¬stats.LacksKeys → stats.wellKinded = true →
        s.Divides stats predicate count result events) := by
  obtain rfl | rfl | hcount : count = 0 ∨ count = 1 ∨ 2 ≤ count := by omega
  · exact ⟨_, [], Attempt.settles_of_done planFromStats_zero, by simp⟩
  · exact ⟨_, [], Attempt.settles_of_done planFromStats_one, by simp⟩
  have hzero : count ≠ 0 := by omega
  have hone : count ≠ 1 := by omega
  have hfew : ¬count < 2 := by omega
  by_cases hlacks : stats.LacksKeys
  · obtain ⟨result, events, hsettles, hshape⟩ := settles_of_lacksKeys s predicate hlacks hcount
    obtain ⟨hargument, hempty⟩ := hshape.not_early
    exact ⟨result, events, hsettles, by simp [hargument, hempty, hzero, hone, hfew, hlacks, hshape]⟩
  cases hkinds : stats.wellKinded with
  | true =>
    obtain ⟨result, events, hsettles, hshape⟩ :=
      settles_of_wellKinded s predicate hlacks hkinds hcount
    obtain ⟨hargument, hempty⟩ := hshape.not_early
    exact ⟨result, events, hsettles, by simp [hargument, hempty, hzero, hone, hfew, hlacks, hshape]⟩
  | false =>
    obtain ⟨result, events, hsettles, hshape⟩ :=
      settles_of_illKinded s predicate hlacks hkinds hcount
    obtain ⟨hargument, hempty⟩ := hshape.not_early
    exact ⟨result, events, hsettles, by simp [hargument, hempty, hzero, hone, hfew, hlacks, hshape]⟩

/-- A sample of one key, texts as the bounds of a numeric key, and a sample of three texts. -/
theorem plan_shape_threeWays :
    let few : KeyStats := ⟨"people", "id", .numeric, .samples [.integer 4]⟩
    let ill : KeyStats := ⟨"people", "id", .numeric, .bounds (some (.text "a")) (some (.text "b"))⟩
    let well : KeyStats := ⟨"people", "id", .string, .samples [.text "a", .text "é", .text "z"]⟩
    let s : Splitter := { dialect := .mySql }
    (∃ result events, (s.planFromStats few (some "age > 0") 4).Settles result events ∧
      FallsBack few (some "age > 0") result events) ∧
    (∃ result events, (s.planFromStats ill none 4).Settles result events ∧
      RejectsKey ill result events) ∧
    ∃ result events, (s.planFromStats well none 9).Settles result events ∧
      s.Divides well none 9 result events ∧
      ∃ plan, result = .ok plan ∧
        plan.fragments.map (·.isNullPartition) = [false, false, false, true] := by
  intro few ill well s
  refine ⟨?_, ?_, ?_⟩
  · obtain ⟨result, events, hsettles, -, -, -, hfew, -⟩ := s.plan_shape few (some "age > 0") 4
    exact ⟨result, events, hsettles, hfew (by decide) (by decide)⟩
  · obtain ⟨result, events, hsettles, -, -, -, -, hill, -⟩ := s.plan_shape ill none 4
    exact ⟨result, events, hsettles, hill (by decide) (by decide) (by decide)⟩
  · obtain ⟨result, events, hsettles, -, -, -, -, -, hwell⟩ := s.plan_shape well none 9
    have hdivides := hwell (by decide) (by decide) (by decide)
    obtain ⟨plan, hplan, hflags, -⟩ := id hdivides
    exact ⟨result, events, hsettles, hdivides, plan, hplan, hflags⟩

end Splitter

end TableExchange
