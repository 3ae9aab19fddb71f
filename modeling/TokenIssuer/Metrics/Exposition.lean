import TokenIssuer.Metrics.Registry
import TokenIssuer.Number.Show
import TokenIssuer.Text.Cut

/-!
The counts as text, one sample a line under the name and the type of its metric. Samples come in the
order of their labels.
-/

namespace TokenIssuer.Metrics

def mediaType : String := "text/plain; version=0.0.4; charset=utf-8"

def labelChar (c : Char) : List Char :=
  if c = '\\' then ['\\', '\\']
  else if c = '"' then ['\\', '"']
  else if c = '\n' then ['\\', 'n']
  else [c]

/-- The value of a label between its quotes. -/
def escapeLabel (value : String) : String := String.ofList (value.toList.flatMap labelChar)

def label (name value : String) : String := name ++ "=\"" ++ escapeLabel value ++ "\""

def series (name : String) (labels : List String) : String :=
  name ++ "\x7b" ++ ",".intercalate labels ++ "\x7d"

def Traffic.labels (t : Traffic) : List String :=
  [label "method" t.method, label "path" t.path, label "status" t.status]

def Outcome.labels (o : Outcome) : List String :=
  [label "grant_type" o.grantType, label "outcome" o.outcome]

/-- Puts an entry before the first one with a greater key. -/
def insertByKey {α : Type} (key : α → List String) (x : α) : List α → List α
  | [] => [x]
  | y :: ys => if key y < key x then y :: insertByKey key x ys else x :: y :: ys

def sortByKey {α : Type} (key : α → List String) (xs : List α) : List α :=
  xs.foldr (insertByKey key) []

/-- The two lines that say what a metric is. -/
def preamble (name help type : String) : List String :=
  ["# HELP " ++ name ++ " " ++ help, "# TYPE " ++ name ++ " " ++ type]

def requestsName : String := "oauth_token_service_http_requests_total"

def durationName : String := "oauth_token_service_http_request_duration_seconds"

def outcomesName : String := "oauth_token_service_token_requests_total"

def trafficKey {α : Type} (e : Traffic × α) : List String := [e.1.method, e.1.path, e.1.status]

def Registry.sortedRequests (r : Registry) : List (Traffic × Nat) := sortByKey trafficKey r.requests

def Registry.sortedDurations (r : Registry) : List (Traffic × Stat) :=
  sortByKey trafficKey r.durations

def Registry.sortedOutcomes (r : Registry) : List (Outcome × Nat) :=
  sortByKey (fun e => [e.1.grantType, e.1.outcome]) r.outcomes

def Registry.lines (r : Registry) : List String :=
  preamble requestsName "Total HTTP requests seen by the service." "counter" ++
    r.sortedRequests.map (fun e => s!"{series requestsName e.1.labels} {e.2}") ++
    preamble durationName "End-to-end HTTP request duration in seconds." "summary" ++
    r.sortedDurations.flatMap (fun e =>
      [series (durationName ++ "_count") e.1.labels ++ s!" {e.2.count}",
       series (durationName ++ "_sum") e.1.labels ++ " " ++ Number.shortest e.2.seconds]) ++
    preamble outcomesName "Token endpoint requests by grant type and outcome." "counter" ++
    r.sortedOutcomes.map (fun e => s!"{series outcomesName e.1.labels} {e.2}")

/-- The whole text; every line ends with a line feed. -/
def Registry.text (r : Registry) : String := "".intercalate (r.lines.map (· ++ "\n"))

end TokenIssuer.Metrics
