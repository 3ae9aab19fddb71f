import TokenIssuer.Assoc
import TokenIssuer.Number.Double

/-!
What is counted: requests by method, path and status, with the time they took, and token requests by
grant type and outcome.
-/

namespace TokenIssuer.Metrics

/-- What a request is counted under. -/
structure Traffic where
  method : String
  path : String
  status : String
  deriving DecidableEq, Repr

structure Outcome where
  grantType : String
  /-- The word for issued tokens, or the code of the refusal. -/
  outcome : String
  deriving DecidableEq, Repr

/-- How many requests were timed and how long they took together. -/
structure Stat where
  count : Nat
  seconds : Double
  deriving DecidableEq, Repr

structure Registry where
  requests : List (Traffic × Nat)
  durations : List (Traffic × Stat)
  outcomes : List (Outcome × Nat)
  deriving DecidableEq, Repr, Inhabited

namespace Registry

def empty : Registry := ⟨[], [], []⟩

def requestCount (r : Registry) (labels : Traffic) : Nat := (r.requests.lookup labels).getD 0

def duration (r : Registry) (labels : Traffic) : Stat :=
  (r.durations.lookup labels).getD ⟨0, .zero⟩

def record (r : Registry) (labels : Traffic) (seconds : Double) : Registry :=
  let stat := r.duration labels
  { r with
    requests := Assoc.put labels (r.requestCount labels + 1) r.requests
    durations := Assoc.put labels ⟨stat.count + 1, stat.seconds.add seconds⟩ r.durations }

def outcomeCount (r : Registry) (labels : Outcome) : Nat := (r.outcomes.lookup labels).getD 0

def recordOutcome (r : Registry) (labels : Outcome) : Registry :=
  { r with outcomes := Assoc.put labels (r.outcomeCount labels + 1) r.outcomes }

end Registry

end TokenIssuer.Metrics
