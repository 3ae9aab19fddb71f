import TokenIssuer.Introspection
import TokenIssuer.Metrics.Exposition
import TokenIssuer.Service.Recognition

/-!
The endpoints: tokens, introspection, the counts, and whether the service is alive and ready.
-/

namespace TokenIssuer.Service

open Http Store

abbrev Data := Stores

def answer (status : Int) (content : Json) (headers : Headers) : Except Fault Response :=
  (Response.json status content headers).mapError fun fault => .unexpected (.unsendable fault)

/-- The headers that keep an answer from being stored on the way. -/
def noStore : Headers := [("Cache-Control", "no-store"), ("Pragma", "no-cache")]

/-- Fields of which some may not be there. -/
def present (fields : List (String × Option Json)) : Json :=
  .obj (fields.filterMap fun f => f.2.map (f.1, ·))

def issuedBody (tokens : Grant.Issued) : Json :=
  present
    [("access_token", some (.str tokens.accessToken.text)),
     ("token_type", some (.str "bearer")),
     ("expires_in", some (.int tokens.expiresIn)),
     ("refresh_token", some (.str tokens.refreshToken.text)),
     ("scope", tokens.scope.map .str)]

def refusedBody (refusal : Grant.Refusal) : Json :=
  .obj [("error", .str refusal.code.text), ("error_description", .str refusal.description)]

def decisionAnswer : Grant.Decision → Except Fault Response
  | .issued tokens => answer 200 (issuedBody tokens) noStore
  | .refused refusal => answer 400 (refusedBody refusal) noStore

def decisionLabel : Grant.Decision → String
  | .issued _ => "issued"
  | .refused refusal => refusal.code.text

def decisionEvent (principal : Client.Principal) (grantType : Option String) :
    Grant.Decision → Audit.Event
  | .issued _ => .tokenExchange principal.id.text grantType true none
  | .refused refusal => .tokenExchange principal.id.text grantType false (some refusal.code.text)

def keep (state : State Data) (result : Except Fault Response) (calls : List Log.Call) :
    Reply Data :=
  ⟨result, state, calls⟩

def decide (rules : Grant.Rules) (frame : Frame) (state : State Data) (principal : Client.Principal)
    (form : Form) : Reply Data :=
  let exchange := Grant.exchange rules frame.fresh state.data principal form
  match exchange.result with
  | .error unreachable => keep state (.error (.ofUnreachable unreachable)) exchange.calls
  | .ok (decision, stores) =>
    let grantType := form.lookup "grant_type"
    let event := decisionEvent principal grantType decision
    { result := decisionAnswer decision
      state :=
        { registry := state.registry.recordOutcome
            ⟨Grant.typeLabel grantType, decisionLabel decision⟩
          data := stores }
      calls := exchange.calls ++ [event.call frame.request frame.noted] }

def tokenEndpoint (rules : Grant.Rules) : Endpoint Data := fun frame state =>
  match Form.read frame.request with
  | .error fault => keep state (.error (.ofForm fault)) []
  | .ok form =>
    let recognition := Recognition.ofRequest frame (Authentication.ofStores state.data) form
    match recognition.result with
    | .error fault => keep state (.error fault) recognition.calls
    | .ok principal =>
      -- The calls made while recognising the client come before those of the decision.
      let reply := decide rules frame state principal form
      { reply with calls := recognition.calls ++ reply.calls }

def introspectionBody : Introspection.Result → Json
  | .inactive => .obj [("active", .bool false)]
  | .active clientId username scope =>
    present
      [("active", some (.bool true)), ("client_id", some (.str clientId)),
       ("username", some (.str username)), ("scope", scope.map .str),
       ("token_type", some (.str "bearer"))]

/-- Looks up the token of a form for a client that may do so. -/
def lookUp (frame : Frame) (state : State Data) (client : Client.Principal) (form : Form) :
    Reply Data :=
  match form.lookup "token" with
  | none => keep state (.error (.invalidRequest "missing parameter: token")) []
  | some raw =>
    match Introspection.introspect state.data raw with
    | .error unreachable => keep state (.error (.ofUnreachable unreachable)) []
    | .ok result =>
      let event := Audit.Event.tokenIntrospection client.id.text result.isActive
      keep state (answer 200 (introspectionBody result) []) [event.call frame.request frame.noted]

def introspectEndpoint : Endpoint Data := fun frame state =>
  match Form.read frame.request with
  | .error fault => keep state (.error (.ofForm fault)) []
  | .ok form =>
    let recognition := Recognition.ofConfidential frame (Authentication.ofStores state.data)
    match recognition.result with
    | .error fault => keep state (.error fault) recognition.calls
    | .ok client =>
      if client.mayPerform .introspect then
        let reply := lookUp frame state client form
        { reply with calls := recognition.calls ++ reply.calls }
      else keep state (.error (.forbidden .introspect)) recognition.calls

def metricsEndpoint : Endpoint Data := fun _ state =>
  keep state (.ok (.plain state.registry.text Metrics.mediaType)) []

def liveEndpoint : Endpoint Data := .constant (answer 200 (.obj [("status", .str "live")]) [])

/-- Tells whether the service is ready: the configurations can be reached. -/
def readyEndpoint : Endpoint Data := fun _ state =>
  match state.data.findClient "health-check" with
  | .error _ => keep state (.error (.http 503 (.str "Service not ready.") [])) []
  | .ok _ => keep state (answer 200 (.obj [("status", .str "ready")]) []) []

end TokenIssuer.Service
