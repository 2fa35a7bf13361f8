import TableExchange.Job.Planner
import TableExchange.Proofs.Database.Contracts

/-!
# The choice of URLs

A connection gets one of its own candidate URLs, or none of them can be reached. Nothing but failed
attempts to connect is told on the way.

* `chooseUrl_meets`: for one connection.
* `Planner.resolveUrls_meets`: for all connections of a job, in order.
-/

namespace TableExchange

/-- An event that tells of a failed attempt to connect. -/
def Event.IsRetry : Event → Prop
  | .connectionRetry .. => True
  | _ => False

theorem tryRound_meets (credentials : Credentials) (attempt : Nat) (candidates : List String)
    (last : String) :
    (tryRound credentials attempt candidates last).Meets Event.IsRetry
      (Yields (· ∈ candidates) fun _ => True) := by
  induction candidates generalizing last with
  | nil => exact Program.meets_done trivial
  | cons url rest ih =>
    refine (Program.meets_connect url credentials).bind fun answer _ => ?_
    cases answer with
    | ok conn =>
      refine (Program.meets_closeQuietly conn).bind fun _ _ => ?_
      exact Program.meets_done (List.mem_cons_self)
    | error e =>
      refine Program.Meets.bind (Program.meets_emit trivial) fun _ _ => ?_
      exact (ih e.message).mono (fun _ h => h) fun _ hr =>
        hr.mono (fun _ => List.mem_cons_of_mem url) fun _ h => h

/-- The rounds are counted down; each starts where the one before has found nothing. -/
theorem tryRounds_meets (credentials : Credentials) (candidates : List String)
    (rounds attempt : Nat) (last : String) :
    (tryRounds credentials candidates rounds attempt last).Meets Event.IsRetry
      (Yields (· ∈ candidates) fun _ => True) := by
  induction rounds generalizing attempt last with
  | zero => exact Program.meets_done trivial
  | succ rounds ih =>
    refine (tryRound_meets credentials attempt candidates last).bind fun r hr => ?_
    cases r with
    | ok url => exact Program.meets_done hr
    | error last => exact ih (attempt + 1) last

theorem chooseUrl_meets (candidates : List String) (credentials : Credentials)
    (policy : RetryPolicy) :
    (chooseUrl candidates credentials policy).Meets Event.IsRetry (· ∈ candidates)
      fun _ => True := by
  unfold chooseUrl
  split
  · exact Attempt.meets_throw trivial
  refine Attempt.Meets.bind (Attempt.meets_lift
    (tryRounds_meets credentials candidates policy.rounds 1 noCandidates)) fun r hr => ?_
  cases r with
  | ok url => exact Attempt.meets_pure hr
  | error last => exact Attempt.meets_throw trivial

/-- Each connection of a job gets one of its own candidates. -/
theorem Planner.resolveUrls_meets (p : Planner) (s : ReaderSettings) :
    (p.resolveUrls s).Meets Event.IsRetry
      (List.Forall₂ (fun c url => url ∈ c.urls) s.connections)
      (fun e => ∃ refused, e = .connection refused) :=
  Attempt.Meets.mapM fun c _ =>
    (chooseUrl_meets c.urls s.credentials p.retry).adapt fun refused _ => ⟨refused, rfl⟩

end TableExchange
