import TokenIssuer.Http.Fault

/-!
The responses for faults. Every one is an object of an error code and a description, and none tells
the caller what a store or the service itself said, except while the service is being developed.
-/

namespace TokenIssuer.Http.Failure

structure Policy where
  environment : String
  /-- The realm that clients are asked to authenticate for. -/
  realm : Phrase

def Policy.isDevelopment (p : Policy) : Bool := p.environment = "development"

def serverError : String := "server_error"

def body (error description : String) : Json :=
  .obj [("error", .str error), ("error_description", .str description)]

def response (status : Int) (error description : String) (headers : Headers) :
    Except Unexpected Response :=
  (Response.json status (body error description) headers).mapError .unsendable

def describe : Json → String
  | .obj fields => ((fields.lookup "error_description").getD (.str "Request failed.")).literal
  | .str s => s
  | _ => "Request failed."

/-- A detail as it is shown: outside development, that of a failure of the service is hidden. -/
def sanitize (detail : String) (status : Int) (environment : String) : String :=
  if environment ≠ "development" ∧ 500 ≤ status then "Internal server error." else detail

/-- The description for a payload that is not as it should be. While the service is being developed
it quotes the first error, which has to be an object. -/
def describeErrors (policy : Policy) (errors : List Json) : Except Unexpected String :=
  match policy.isDevelopment, errors with
  | true, .obj fields :: _ =>
    .ok ("Invalid request payload: " ++
      ((fields.lookup "msg").getD (.str "validation error")).literal ++ ".")
  | true, other :: _ => .error (.noPart other.kind "get")
  | _, _ => .ok "Invalid request payload."

/-- A log call about a failure. It names the path of the request, so there is none for a request
whose address cannot be told. -/
def report (method : Log.Method) (event : String) (request : Request) (noted : Option Json)
    (more : Log.Fields) : Except Unexpected Log.Call :=
  match request.addressFault? with
  | some fault => .error (.address fault)
  | none =>
    .ok
      { method, event
        fields :=
          [("correlation_id", .str (request.failureCorrelation noted)),
           ("path", .str request.shownPath), ("method", .str request.method)] ++ more }

/-- A log call and a response, or only the fault of the call. -/
def reported (call : Except Unexpected Log.Call) (answer : Except Unexpected Response) :
    List Log.Call × Except Unexpected Response :=
  match call with
  | .error fault => ([], .error fault)
  | .ok call => ([call], answer)

/-- The header that asks a client to authenticate. It cannot be sent for a realm that has halves of
surrogate pairs in it. -/
def challenge (policy : Policy) : Except Unexpected Headers :=
  match policy.realm with
  | .plain realm => .ok [("WWW-Authenticate", "Basic realm=\"" ++ realm ++ "\"")]
  | .torn realm =>
    match foreignAmong? ("Basic realm=\"".toList.map Char.toNat ++ realm) with
    | some fault => .error (.unsendable (.characters fault))
    | none => .ok []

/-- The log calls and the response for a fault; the unexpected ones have no response here. -/
def handle (policy : Policy) (request : Request) (noted : Option Json) :
    Fault → List Log.Call × Except Unexpected Response
  | .oauth detail code status =>
    if status = 401 then
      reported (report .warning "client_authentication_failed" request noted [])
        (do response status code detail (← challenge policy))
    else ([], response status code detail [])
  | .storage text =>
    reported (report .error "storage_failure" request noted [("error", .str text)])
      (response 503 "temporarily_unavailable"
        "The server is temporarily unable to handle the request." [])
  | .http status detail headers =>
    let code := if 500 ≤ status then serverError else Grant.Code.invalidRequest.text
    ([], response status code (describe detail) headers)
  | .validation errors =>
    ([], do response 400 Grant.Code.invalidRequest.text (← describeErrors policy errors) [])
  | .unexpected fault => ([], .error fault)

def unexpectedCall (request : Request) (noted : Option Json) (fault : Unexpected) :
    Except Unexpected Log.Call :=
  report .error "unhandled_exception" request noted [("error", .str fault.message)]

def unexpectedResponse (policy : Policy) (fault : Unexpected) : Response :=
  { status := 500, headers := [("content-type", "application/json")]
    body := .json (body serverError (sanitize fault.message 500 policy.environment)) }

end TokenIssuer.Http.Failure
