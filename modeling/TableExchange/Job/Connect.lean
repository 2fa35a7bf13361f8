import TableExchange.Database.Program

/-!
# Reachable URLs

A connection has several candidate URLs. They are tried in order, round after round, and the first
that can be reached is used.

* `chooseUrl`: the first reachable URL; the connection that shows it is closed again.
-/

namespace TableExchange

/-- How often the candidates are tried. -/
structure RetryPolicy where
  attempts : Nat := 3
  deriving DecidableEq, Repr

/-- How many rounds there are: at least one. -/
def RetryPolicy.rounds (p : RetryPolicy) : Nat := max p.attempts 1

/-- Tries the candidates of one round: the first that can be reached, or the last failure, which is
`last` if there are no candidates. -/
def tryRound (credentials : Credentials) (attempt : Nat) :
    (candidates : List String) → (last : String) → Program (Except String String)
  | [], last => return .error last
  | url :: rest, _ => do
    match ← Program.connect url credentials with
    | .ok conn =>
      Program.closeQuietly conn
      return .ok url
    | .error e =>
      Program.emit (.connectionRetry url attempt e.message)
      tryRound credentials attempt rest e.message

/-- Tries the candidates for some rounds, the first of which has the number `attempt`. -/
def tryRounds (credentials : Credentials) (candidates : List String) :
    (rounds attempt : Nat) → (last : String) → Program (Except String String)
  | 0, _, last => return .error last
  | rounds + 1, attempt, last => do
    match ← tryRound credentials attempt candidates last with
    | .ok url => return .ok url
    | .error last => tryRounds credentials candidates rounds (attempt + 1) last

/-- The reason if there is nothing to try. -/
def noCandidates : String := "no candidate urls configured"

/-- The first reachable URL. -/
def chooseUrl (candidates : List String) (credentials : Credentials) (policy : RetryPolicy) :
    Attempt ConnectionError String := do
  if candidates.isEmpty then throw ⟨[], 0, noCandidates⟩
  match ← tryRounds credentials candidates policy.rounds 1 noCandidates with
  | .ok url => return url
  | .error last => throw ⟨candidates, policy.rounds, last⟩

end TableExchange
