import TokenIssuer.Http.Handler
import TokenIssuer.Log.Redaction
import TokenIssuer.Number.Show

/-!
The layers around the router: each looks at the request on its way in and at the answer on its way
out. A fault passes through all of them. What an inner handler binds to its log calls is not bound
outside of it.
-/

namespace TokenIssuer.Http.Layer

variable {α : Type}

/-- What a layer leaves that cannot tell the address of a request and goes no further. -/
def broken (frame : Frame) (state : State α) (fault : Utf8.Fault) : Outcome α :=
  { answer := .error (.address fault), state, logs := [], spans := [], route := none
    noted := frame.noted, bound := frame.bound }

/-- The correlation id of a request: the one it brings along, or a fresh one. -/
def correlationIdOf (frame : Frame) : String :=
  frame.request.correlationId?.getD frame.fresh.correlation.text

/-- Gives the request a correlation id, which is bound to every log call inside, noted for the
request, and sent back. It is bound no longer once the request is through, even with a fault. -/
def correlation : Layer α := fun inner frame state =>
  let id := correlationIdOf frame
  let bound := Assoc.put "correlation_id" (.str id) frame.bound
  let outcome := inner { frame with bound, noted := some (.str id) } state
  { outcome with
    answer := outcome.answer.map fun response =>
      { response with headers := response.headers.set Request.correlationHeader id }
    bound := Assoc.erase "correlation_id" bound }

def defaultSecurity : Headers :=
  [("Content-Security-Policy", "default-src 'none'; frame-ancestors 'none'"),
   ("X-Frame-Options", "DENY"),
   ("X-Content-Type-Options", "nosniff"),
   ("Referrer-Policy", "no-referrer"),
   ("Strict-Transport-Security", "max-age=63072000; includeSubDomains")]

/-- Adds headers to every response; those that an endpoint set stay. -/
def security (extra : Headers) : Layer α := fun inner frame state =>
  let outcome := inner frame state
  { outcome with
    answer := do
      let response ← outcome.answer
      let headers ←
        (extra.foldlM (fun acc h => Headers.setDefault acc h.1 h.2) response.headers).mapError
          .unsendable
      pure { response with headers }
    bound := frame.bound }

/-- The status of an answer; a fault counts as a failure of the service. -/
def statusOf : Except Unexpected Response → Int
  | .ok response => response.status
  | .error _ => 500

/-- Counts every request under the template of its route, or under its path. -/
def metrics : Layer α := fun inner frame state =>
  match frame.request.addressFault? with
  | some fault => broken frame state fault
  | none =>
    let outcome := inner frame state
    let labels : Metrics.Traffic :=
      { method := frame.request.method, path := outcome.route.getD frame.request.shownPath
        status := toString (statusOf outcome.answer) }
    { outcome with
      state :=
        { outcome.state with registry := outcome.state.registry.record labels frame.seconds }
      bound := frame.bound }

def requestFields (request : Request) : Log.Fields :=
  [("method", .str request.method),
   ("path", .str request.shownPath),
   ("query_params", .obj (Log.redact request.queryFields)),
   ("content_type", Json.ofText? (request.header? "content-type")),
   ("authorization_scheme", Json.ofText? request.authorizationScheme),
   ("client_ip", .str request.loggedAddress),
   ("user_agent", .str ((request.header? "user-agent").getD ""))]

def logMethod : Except Unexpected Response → Log.Method
  | .ok response => if 400 ≤ response.status then .warning else .info
  | .error _ => .exception

def completedCall (frame : Frame) (answer : Except Unexpected Response) : Log.Call :=
  { method := logMethod answer, event := "request_completed"
    fields :=
      ("status_code", .int (statusOf answer)) ::
        ("duration_ms", .float (Number.milliseconds frame.seconds)) ::
        requestFields frame.request }

def logging : Layer α := fun inner frame state =>
  match frame.request.addressFault? with
  | some fault => broken frame state fault
  | none =>
    let outcome := inner frame state
    { outcome with
      logs := outcome.logs ++ Log.within frame.bound [completedCall frame outcome.answer]
      bound := frame.bound }

def spanOf (frame : Frame) (answer : Except Unexpected Response) : Span :=
  let path := frame.request.shownPath
  let noted : Log.Fields :=
    match frame.noted with
    | none => []
    | some .null => []
    | some id => [("correlation_id", id)]
  let about : Log.Fields :=
    [("http.method", .str frame.request.method), ("http.target", .str path)] ++ noted
  match answer with
  | .ok response =>
    { name := frame.request.method ++ " " ++ path
      attributes := about ++ [("http.status_code", .int response.status)]
      fault := none, succeeded := response.status < 500 }
  | .error fault =>
    { name := frame.request.method ++ " " ++ path, attributes := about, fault := some fault
      succeeded := false }

def tracing : Layer α := fun inner frame state =>
  match frame.request.addressFault? with
  | some fault => broken frame state fault
  | none =>
    let outcome := inner frame state
    { outcome with
      spans := spanOf frame outcome.answer :: outcome.spans
      bound := frame.bound }

end TokenIssuer.Http.Layer
