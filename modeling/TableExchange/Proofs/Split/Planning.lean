import TableExchange.Database.Run
import TableExchange.Split.Splitter

/-!
# What planning does

The ways in which planning from known statistics ends, as programs: the event that is told, if there
is one, and the plan or the error.

* `Attempt.Returns`: an attempt ends with a result on every database.
* `Attempt.Settles`: it does so with no question to the database, and tells just of some events.
* `Splitter.planFromStats_zero`, `Splitter.planFromStats_one`: too few pieces to plan for.
* `Splitter.planFromStats_fallback`: one fragment, where the statistics allow no ranges.
* `Splitter.planFromStats_illegalKey`: an error, where a strategy finds no boundaries.
* `Splitter.planFromStats_ranges`: the plan of ranges, where it does.
-/

namespace TableExchange

/-- An attempt ends with the result `a`, whatever the database is and in whatever state. -/
def Attempt.Returns {ε α : Type} (p : Attempt ε α) (a : α) : Prop :=
  ∀ (σ : Type) (server : Server σ) (state : σ) (next : Handle),
    (p.run.run server state next).result = .ok a

/-- An attempt ends with a result on every database, asks it nothing, and tells just of the given
events. -/
def Attempt.Settles {ε α : Type} (p : Attempt ε α) (result : Except ε α) (events : List Event) :
    Prop :=
  ∀ (σ : Type) (server : Server σ) (state : σ) (next : Handle),
    p.run.run server state next = ⟨result, state, next, events.map fun e => .noted (.event e)⟩

theorem Attempt.settles_of_done {ε α : Type} {p : Attempt ε α} {result : Except ε α}
    (h : p.run = .done result) : p.Settles result [] := by
  intro σ server state next
  rw [h]
  rfl

theorem Attempt.settles_of_noting {ε α : Type} {p : Attempt ε α} {result : Except ε α} {e : Event}
    (h : p.run = .noting (.event e) (.done result)) : p.Settles result [e] := by
  intro σ server state next
  rw [h]
  rfl

theorem Attempt.Settles.returns {ε α : Type} {p : Attempt ε α} {a : α} {events : List Event}
    (h : p.Settles (.ok a) events) : p.Returns a := by
  intro σ server state next
  rw [h]

namespace Splitter

variable {s : Splitter} {stats : KeyStats} {predicate : Option String} {count : Nat}

theorem planFromStats_zero :
    (s.planFromStats stats predicate 0).run = .done (.error (.illegalArgument .zeroCount)) := rfl

theorem planFromStats_one : (s.planFromStats stats predicate 1).run = .done (.ok .empty) := rfl

/-- Planning for statistics that allow no ranges tells why, and plans one fragment. -/
theorem planFromStats_fallback {reason : FallbackReason} (hcount : 2 ≤ count)
    (hreason : fallbackReason? stats = some reason) :
    (s.planFromStats stats predicate count).run =
      .noting (.event (.fallback stats.table reason)) (.done (.ok (.single predicate))) := by
  have hzero : count ≠ 0 := by omega
  have hone : count ≠ 1 := by omega
  rw [planFromStats, hreason]
  simp only [hzero, hone, if_false]
  rfl

/-- Planning without boundaries fails, and tells of nothing. -/
theorem planFromStats_illegalKey {fault : KeyFault} (hcount : 2 ≤ count)
    (hreason : fallbackReason? stats = none)
    (hfault : (Strategy.select stats.statistics stats.kind).boundaries stats count =
      .error fault) :
    (s.planFromStats stats predicate count).run =
      .done (.error (.illegalSplitKey stats.table stats.column fault)) := by
  have hzero : count ≠ 0 := by omega
  have hone : count ≠ 1 := by omega
  rw [planFromStats, hreason]
  simp only [hzero, hone, if_false, hfault]
  rfl

abbrev rangePlan (s : Splitter) (stats : KeyStats) (predicate : Option String)
    (points : List SplitPoint) : SplitPlan :=
  .ofRanges (s.ranges stats points) stats.column predicate

/-- Planning with boundaries tells of the plan of the ranges between them, and returns it. -/
theorem planFromStats_ranges {points : List SplitPoint} (hcount : 2 ≤ count)
    (hreason : fallbackReason? stats = none)
    (hpoints : (Strategy.select stats.statistics stats.kind).boundaries stats count = .ok points) :
    (s.planFromStats stats predicate count).run =
      .noting
        (.event (.planComputed stats.table (Strategy.select stats.statistics stats.kind).name
          (s.rangePlan stats predicate points).rendered))
        (.done (.ok (s.rangePlan stats predicate points))) := by
  have hzero : count ≠ 0 := by omega
  have hone : count ≠ 1 := by omega
  rw [planFromStats, hreason]
  simp only [hzero, hone, if_false, hpoints]
  rfl

theorem returns_fallback (reason : FallbackReason) (hcount : 2 ≤ count)
    (hreason : fallbackReason? stats = some reason) :
    (s.planFromStats stats predicate count).Returns (.single predicate) :=
  (Attempt.settles_of_noting (planFromStats_fallback hcount hreason)).returns

theorem returns_ranges {points : List SplitPoint} (hcount : 2 ≤ count)
    (hreason : fallbackReason? stats = none)
    (hpoints : (Strategy.select stats.statistics stats.kind).boundaries stats count = .ok points) :
    (s.planFromStats stats predicate count).Returns (s.rangePlan stats predicate points) :=
  (Attempt.settles_of_noting (planFromStats_ranges hcount hreason hpoints)).returns

end Splitter

end TableExchange
