import TableExchange.Job.Connect
import TableExchange.Proofs.Database.Endings

/-!
# How a URL is chosen

The candidates of a connection are tried in order, round after round, up to the first that can be
reached. Each failed call is told with its URL, the number of its round and the reason.

* `RetryPolicy.calls`: the calls that may be made, in order.
* `Tries`: what comes of calls, one after the other; `tryRound_ends_iff` for one round and
  `tryRounds_ends_iff` for several.
* `Tries.exists_failed`: some calls fail, and then one succeeds or there are no more.
* `ChoosesUrl`: what comes of a choice; `chooseUrl_in_order`: a choice comes to just this.
-/

namespace TableExchange

/-- A call of a candidate. -/
structure UrlCall where
  round : Nat
  url : String
  deriving DecidableEq

/-- The calls of some rounds, the first of which has the number `first`. -/
def callsFrom (candidates : List String) (first rounds : Nat) : List UrlCall :=
  (List.range rounds).flatMap fun i => candidates.map (⟨first + i, ·⟩)

/-- The calls that may be made: all candidates, in every round. -/
def RetryPolicy.calls (p : RetryPolicy) (candidates : List String) : List UrlCall :=
  callsFrom candidates 1 (max p.attempts 1)

/-- What a failed call leaves behind: the refusal, and the event that tells of it. -/
def UrlCall.refusal (credentials : Credentials) (call : UrlCall) (e : DriverError) : Trace :=
  [.refused call.url credentials e, .noted (.event (.connectionRetry call.url call.round e.message))]

/-- What comes of calls that are made one after the other up to the first that succeeds. Without
calls, the last failure is one from before. -/
inductive Tries (credentials : Credentials) :
    List UrlCall → String → Except String String → Trace → Prop
  | nothing (last : String) : Tries credentials [] last (.error last) []
  | reached {call : UrlCall} {calls : List UrlCall} {last : String} {conn : Handle} {closing : Trace}
    (h : ClosesOnce conn closing) :
    Tries credentials (call :: calls) last (.ok call.url)
      (.connected conn call.url credentials :: closing)
  | refused {call : UrlCall} {calls : List UrlCall} {last : String} {e : DriverError}
    {r : Except String String} {t : Trace} (h : Tries credentials calls e.message r t) :
    Tries credentials (call :: calls) last r (call.refusal credentials e ++ t)

/-- What some failed calls leave behind. -/
def refusals (credentials : Credentials) (failed : List (UrlCall × DriverError)) : Trace :=
  failed.flatMap fun (call, e) => call.refusal credentials e

/-- What comes of a choice: nothing is tried, a call succeeds after some that fail, or all calls
fail. -/
inductive ChoosesUrl (candidates : List String) (credentials : Credentials) (policy : RetryPolicy) :
    Except ConnectionError String → Trace → Prop
  | nothing (h : candidates = []) :
    ChoosesUrl candidates credentials policy (.error ⟨[], 0, noCandidates⟩) []
  | reached {failed : List (UrlCall × DriverError)} {call : UrlCall} {untried : List UrlCall}
    {conn : Handle} {closing : Trace}
    (hcalls : policy.calls candidates = failed.map Prod.fst ++ call :: untried)
    (hclosing : ClosesOnce conn closing) :
    ChoosesUrl candidates credentials policy (.ok call.url)
      (refusals credentials failed ++ .connected conn call.url credentials :: closing)
  | exhausted {failed : List (UrlCall × DriverError)} {call : UrlCall} {e : DriverError}
    (hcalls : policy.calls candidates = (failed ++ [(call, e)]).map Prod.fst) :
    ChoosesUrl candidates credentials policy
      (.error ⟨candidates, max policy.attempts 1, e.message⟩)
      (refusals credentials (failed ++ [(call, e)]))

variable {credentials : Credentials} {candidates : List String} {r : Except String String}
  {last : String} {t : Trace} {calls later : List UrlCall}

/-! ## Calls -/

theorem callsFrom_succ (candidates : List String) (first rounds : Nat) :
    callsFrom candidates first (rounds + 1) =
      candidates.map (⟨first, ·⟩) ++ callsFrom candidates (first + 1) rounds := by
  simp [callsFrom, List.range_succ_eq_map, List.flatMap_map, Nat.add_assoc, Nat.add_comm 1]

/-- The candidates are called in their order, again and again. -/
theorem url_callsFrom (candidates : List String) (first rounds : Nat) :
    (callsFrom candidates first rounds).map (·.url) =
      (List.replicate rounds candidates).flatten := by
  induction rounds generalizing first with
  | zero => rfl
  | succ rounds ih =>
    rw [callsFrom_succ, List.map_append, ih, List.replicate_succ, List.flatten_cons, List.map_map]
    exact congrArg (· ++ _) (List.map_id candidates)

/-- The rounds are counted, and all calls of a round have its number. -/
theorem round_callsFrom (candidates : List String) (first rounds : Nat) :
    (callsFrom candidates first rounds).map (·.round) =
      (List.range' first rounds).flatMap (List.replicate candidates.length) := by
  induction rounds generalizing first with
  | zero => rfl
  | succ rounds ih =>
    rw [callsFrom_succ, List.map_append, ih, List.range'_succ, List.flatMap_cons, List.map_map]
    exact congrArg (· ++ _) List.map_const'

example : ({ attempts := 2 } : RetryPolicy).calls ["a", "b"] =
    [⟨1, "a"⟩, ⟨1, "b"⟩, ⟨2, "a"⟩, ⟨2, "b"⟩] := by decide

/-! ## Rounds -/

theorem tries_nil_iff : Tries credentials [] last r t ↔ r = .error last ∧ t = [] := by
  constructor
  · intro h
    cases h
    exact ⟨rfl, rfl⟩
  · rintro ⟨rfl, rfl⟩
    exact .nothing last

/-- A round makes its calls in order. -/
theorem tryRound_ends_iff (attempt : Nat) :
    (tryRound credentials attempt candidates last).Ends r t ↔
      Tries credentials (candidates.map (⟨attempt, ·⟩)) last r t := by
  induction candidates generalizing last t with
  | nil => exact Program.ends_done_iff.trans tries_nil_iff.symm
  | cons url rest ih =>
    constructor
    · intro h
      cases h with
      | @connected _ _ _ conn _ u h =>
        have h : ((Program.closeQuietly conn).bind fun _ => .done (.ok url)).Ends r u := h
        obtain ⟨_, u, v, hclosing, hdone, rfl⟩ := Program.ends_bind_iff.1 h
        obtain ⟨rfl, rfl⟩ := Program.ends_done_iff.1 hdone
        rw [List.append_nil]
        exact .reached (Program.ends_closeQuietly_iff.1 hclosing)
      | refused h =>
        cases h with
        | noted h => exact .refused (ih.1 h)
    · intro h
      cases h with
      | @reached _ _ _ conn closing hclosing =>
        have hclose : (Program.closeQuietly conn).Ends () closing :=
          Program.ends_closeQuietly_iff.2 hclosing
        rw [← List.append_nil closing]
        exact .connected (hclose.bind (Program.Ends.done (Except.ok url)))
      | refused h => exact .refused (.noted (ih.2 h))

/-- Later calls are made if all before have failed. -/
theorem tries_append_iff :
    Tries credentials (calls ++ later) last r t ↔
      (∃ url, r = .ok url ∧ Tries credentials calls last r t) ∨
        ∃ reason u v, Tries credentials calls last (.error reason) u ∧
          Tries credentials later reason r v ∧ t = u ++ v := by
  induction calls generalizing last t with
  | nil =>
    constructor
    · intro h
      exact .inr ⟨last, [], t, .nothing last, h, rfl⟩
    · rintro (⟨url, rfl, h⟩ | ⟨reason, u, v, h, hlater, rfl⟩)
      · cases h
      · cases h
        exact hlater
  | cons call calls ih =>
    constructor
    · intro h
      cases h with
      | reached hclosing => exact .inl ⟨_, rfl, .reached hclosing⟩
      | refused h =>
        rcases ih.1 h with ⟨url, rfl, hfirst⟩ | ⟨reason, u, v, hfirst, hlater, rfl⟩
        · exact .inl ⟨url, rfl, .refused hfirst⟩
        · exact .inr ⟨reason, _, v, .refused hfirst, hlater, (List.append_assoc ..).symm⟩
    · rintro (⟨url, rfl, h⟩ | ⟨reason, u, v, h, hlater, rfl⟩)
      · cases h with
        | reached hclosing => exact .reached hclosing
        | refused h => exact .refused (ih.2 (.inl ⟨url, rfl, h⟩))
      · cases h with
        | refused h =>
          rw [List.append_assoc]
          exact .refused (ih.2 (.inr ⟨reason, _, v, h, hlater, rfl⟩))

/-- Rounds make their calls one after the other. -/
theorem tryRounds_ends_iff (rounds attempt : Nat) :
    (tryRounds credentials candidates rounds attempt last).Ends r t ↔
      Tries credentials (callsFrom candidates attempt rounds) last r t := by
  induction rounds generalizing attempt last t with
  | zero => exact Program.ends_done_iff.trans tries_nil_iff.symm
  | succ rounds ih =>
    rw [callsFrom_succ, tries_append_iff]
    refine Program.ends_bind_iff.trans ?_
    simp only [tryRound_ends_iff]
    constructor
    · rintro ⟨reason | url, u, v, hround, hrest, rfl⟩
      · exact .inr ⟨reason, u, v, hround, (ih _).1 hrest, rfl⟩
      · obtain ⟨rfl, rfl⟩ := Program.ends_done_iff.1 hrest
        rw [List.append_nil]
        exact .inl ⟨url, rfl, hround⟩
    · rintro (⟨url, rfl, hround⟩ | ⟨reason, u, v, hround, hrest, rfl⟩)
      · exact ⟨.ok url, t, [], hround, .done _, (List.append_nil t).symm⟩
      · exact ⟨.error reason, u, v, hround, (ih _).2 hrest, rfl⟩

/-! ## Choices -/

/-- The reason of the last failed call; `last` if there is none. -/
def lastReason (last : String) (failed : List (UrlCall × DriverError)) : String :=
  failed.foldl (fun _ (_, e) => e.message) last

theorem tries_reached (failed : List (UrlCall × DriverError)) {call : UrlCall}
    {untried : List UrlCall} {conn : Handle} {closing : Trace} (h : ClosesOnce conn closing) :
    Tries credentials (failed.map Prod.fst ++ call :: untried) last (.ok call.url)
      (refusals credentials failed ++ .connected conn call.url credentials :: closing) := by
  induction failed generalizing last with
  | nil => exact .reached h
  | cons first failed ih => exact .refused ih

theorem tries_exhausted (failed : List (UrlCall × DriverError)) :
    Tries credentials (failed.map Prod.fst) last (.error (lastReason last failed))
      (refusals credentials failed) := by
  induction failed generalizing last with
  | nil => exact .nothing last
  | cons first failed ih => exact .refused ih

/-- Of calls that are made, one is reached after some that fail, or all fail. -/
theorem Tries.exists_failed (h : Tries credentials calls last r t) :
    (∃ failed call untried conn closing, calls = failed.map Prod.fst ++ call :: untried ∧
        ClosesOnce conn closing ∧ r = .ok call.url ∧
        t = refusals credentials failed ++ .connected conn call.url credentials :: closing) ∨
      ∃ failed, calls = failed.map Prod.fst ∧ r = .error (lastReason last failed) ∧
        t = refusals credentials failed := by
  induction h with
  | nothing last => exact .inr ⟨[], rfl, rfl, rfl⟩
  | @reached call calls last conn closing hclosing =>
    exact .inl ⟨[], call, calls, conn, closing, rfl, hclosing, rfl, rfl⟩
  | @refused call calls last e r t _ ih =>
    rcases ih with ⟨failed, reached, untried, conn, closing, rfl, hclosing, rfl, rfl⟩ |
      ⟨failed, rfl, rfl, rfl⟩
    · exact .inl ⟨(call, e) :: failed, reached, untried, conn, closing, rfl, hclosing, rfl,
        (List.append_assoc ..).symm⟩
    · exact .inr ⟨(call, e) :: failed, rfl, rfl, rfl⟩

theorem RetryPolicy.calls_ne_nil (policy : RetryPolicy) (h : candidates ≠ []) :
    policy.calls candidates ≠ [] := by
  obtain ⟨rounds, hrounds⟩ : ∃ rounds, max policy.attempts 1 = rounds + 1 :=
    ⟨max policy.attempts 1 - 1, by omega⟩
  rw [calls, hrounds, callsFrom_succ]
  simp [h]

/-- A choice with candidates makes its rounds, and puts a failure in its own words. -/
theorem chooseUrl_run {policy : RetryPolicy} (h : candidates ≠ []) :
    (chooseUrl candidates credentials policy).run =
      (tryRounds credentials candidates policy.rounds 1 noCandidates).bind fun found =>
        .done (found.mapError fun last => ⟨candidates, policy.rounds, last⟩) := by
  have hfalse : ¬candidates.isEmpty = true := by simpa using h
  rw [chooseUrl, if_neg hfalse]
  show Program.bind (Program.bind _ _) _ = _
  rw [Program.bind_assoc]
  congr 1
  funext found
  cases found <;> rfl

theorem lastReason_append (failed : List (UrlCall × DriverError)) (call : UrlCall)
    (e : DriverError) : lastReason last (failed ++ [(call, e)]) = e.message := by
  simp [lastReason]

theorem chooseUrl_nil_ends_iff {policy : RetryPolicy} {r : Except ConnectionError String} :
    (chooseUrl [] credentials policy).Ends r t ↔ ChoosesUrl [] credentials policy r t := by
  show (Program.done (.error ⟨[], 0, noCandidates⟩)).Ends r t ↔ _
  have hnone : policy.calls [] = [] := by simp [RetryPolicy.calls, callsFrom]
  rw [Program.ends_done_iff]
  constructor
  · rintro ⟨rfl, rfl⟩
    exact .nothing rfl
  · intro h
    cases h with
    | nothing => exact ⟨rfl, rfl⟩
    | reached hcalls => simp [hnone] at hcalls
    | exhausted hcalls => simp [hnone] at hcalls

/-- A choice comes to just what is said of it. -/
theorem chooseUrl_ends_iff {policy : RetryPolicy} {r : Except ConnectionError String} :
    (chooseUrl candidates credentials policy).Ends r t ↔
      ChoosesUrl candidates credentials policy r t := by
  by_cases hcandidates : candidates = []
  · subst hcandidates
    exact chooseUrl_nil_ends_iff
  unfold Attempt.Ends
  rw [chooseUrl_run hcandidates, Program.ends_bind_iff]
  simp only [tryRounds_ends_iff]
  constructor
  · rintro ⟨found, u, v, h, hdone, rfl⟩
    obtain ⟨rfl, rfl⟩ := Program.ends_done_iff.1 hdone
    rw [List.append_nil]
    rcases h.exists_failed with ⟨failed, call, untried, conn, closing, hcalls, hclosing, rfl, rfl⟩ |
      ⟨failed, hcalls, rfl, rfl⟩
    · exact .reached hcalls hclosing
    · -- there are calls, so one of the failed ones is the last
      have hfailed : failed ≠ [] := by
        rintro rfl
        exact policy.calls_ne_nil hcandidates hcalls
      obtain ⟨before, ⟨call, e⟩, rfl⟩ := (List.eq_nil_or_concat failed).resolve_left hfailed
      rw [List.concat_eq_append] at hcalls ⊢
      rw [lastReason_append]
      exact .exhausted hcalls
  · intro h
    cases h with
    | nothing h => exact absurd h hcandidates
    | @reached failed call untried conn closing hcalls hclosing =>
      have htries : Tries credentials (failed.map Prod.fst ++ call :: untried) noCandidates _ _ :=
        tries_reached failed hclosing
      rw [← hcalls] at htries
      exact ⟨_, _, [], htries, .done _, (List.append_nil _).symm⟩
    | @exhausted failed call e hcalls =>
      have htries : Tries credentials _ noCandidates _ _ := tries_exhausted (failed ++ [(call, e)])
      rw [← hcalls, lastReason_append] at htries
      exact ⟨_, _, [], htries, .done _, (List.append_nil _).symm⟩

/-- **A URL is chosen in order.** For all answers of a database, and so in every run, a choice calls
the candidates as many rounds as there are attempts, but at least one, up to the first call that
succeeds. Each failed call is told once, with its URL, the number of its round and the reason. The
URL that is reached is the result, and its connection has been closed once. If no call succeeds, the
error has all candidates, the number of rounds and the last reason; without candidates, none. -/
theorem chooseUrl_in_order (candidates : List String) (credentials : Credentials)
    (policy : RetryPolicy) :
    (∀ r t, (chooseUrl candidates credentials policy).Ends r t ↔
      ChoosesUrl candidates credentials policy r t) ∧
    (∀ (σ : Type) (server : Server σ) (state : σ) (next : Handle),
      ChoosesUrl candidates credentials policy
        ((chooseUrl candidates credentials policy).run.run server state next).result
        ((chooseUrl candidates credentials policy).run.run server state next).trace) ∧
    (policy.calls candidates).map (·.url) =
      (List.replicate (max policy.attempts 1) candidates).flatten ∧
    (policy.calls candidates).map (·.round) =
      (List.range' 1 (max policy.attempts 1)).flatMap (List.replicate candidates.length) := by
  refine ⟨fun r t => chooseUrl_ends_iff, fun σ server state next => ?_, url_callsFrom ..,
    round_callsFrom ..⟩
  exact chooseUrl_ends_iff.1 (Program.ends_run server _ state next)

end TableExchange
