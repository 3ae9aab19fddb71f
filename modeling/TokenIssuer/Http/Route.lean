import TokenIssuer.Http.Failure
import TokenIssuer.Http.Handler
import TokenIssuer.Http.Template
import TokenIssuer.Text.Order

/-!
Routing. A route takes the paths that fit its template. A path that only lacks or only has too many
slashes at its end is sent to the right place.
-/

namespace TokenIssuer.Http

structure Route (α : Type) where
  template : Template
  methods : List String
  endpoint : Endpoint α

namespace Route

variable {α : Type}

/-- The path fits the template of the route. A number in it that has too many digits is a fault of
its own. -/
def fitsPath (r : Route α) (path : String) : Except Unexpected Bool :=
  match r.template.match? path with
  | none => .ok false
  | some found =>
    match found.findSome? Template.tooLong? with
    | some digits => .error (.pathNumber digits)
    | none => .ok true

inductive Found (α : Type) where
  | route (r : Route α)
  | otherMethod (r : Route α)
  | otherPath (path : String)
  | nothing

/-- The path with all slashes at its end removed, or with one added. -/
def toggled (path : String) : String :=
  if path.toList.getLast? = some '/' then
    String.ofList (Text.dropEndWhile (· = '/') path.toList)
  else path ++ "/"

/-- The first route that takes a request, or else `other`, or else the first one for its path. -/
def firstFor (request : Request) :
    (other : Option (Route α)) → List (Route α) → Except Unexpected (Found α)
  | other, [] => .ok (other.elim .nothing .otherMethod)
  | other, r :: rest => do
    if ← r.fitsPath request.path then
      if request.method ∈ r.methods then pure (.route r)
      else firstFor request (other <|> some r) rest
    else firstFor request other rest

def anyFor (path : String) : List (Route α) → Except Unexpected Bool
  | [] => .ok false
  | r :: rest => do if ← r.fitsPath path then pure true else anyFor path rest

/-- Finds the route for a request. A template that fits rules out a redirection, whatever its
methods. -/
def find (routes : List (Route α)) (request : Request) : Except Unexpected (Found α) := do
  match ← firstFor request none routes with
  | .nothing =>
    if request.path ≠ "/" ∧ (← anyFor (toggled request.path) routes) then
      pure (.otherPath (toggled request.path))
    else pure .nothing
  | found => pure found

end Route

/-- A character that is written as it is in the address of a redirection. -/
def isPlainInAddress (c : Char) : Bool :=
  c.isAlphanum || ":/%#?=@[]!$&'()*+,;_.-~".toList.contains c

/-- The address of another path on the same server, with the query of the request. -/
def addressOf (request : Request) (path : String) (query : List Char) : String :=
  let address := "http://".toList ++ request.server.toList ++ Request.addressPath path ++
    if query.isEmpty then [] else '?' :: query
  String.ofList (address.flatMap fun c =>
    if isPlainInAddress c then [c]
    else (String.utf8EncodeChar c).flatMap fun b => '%' :: Text.upperAscii (Text.hexByte b))

/-- The redirection to another path; the query must be UTF-8. -/
def redirectTo (request : Request) (path : String) : Except Fault Response :=
  match request.addressFault? with
  | some fault => .error (.unexpected (.address fault))
  | none =>
    let query := Utf8.decodeLossy (request.query.toList.map fun c => UInt8.ofNat c.toNat)
    .ok (.redirect (addressOf request path query))

/-- Answers a request by the routes, and tells the template of the one that was found. -/
def dispatch {α : Type} (routes : List (Route α)) (frame : Frame) (state : State α) :
    Reply α × Option String :=
  match Route.find routes frame.request with
  | .error fault => (⟨.error (.unexpected fault), state, []⟩, none)
  | .ok (.route r) => (r.endpoint frame state, some r.template.text)
  | .ok (.otherMethod r) =>
    -- The methods are a set, which has no order to tell.
    let allow := ", ".intercalate (Text.setOf r.methods)
    (⟨.error (.ofStatus 405 .null [("Allow", allow)]), state, []⟩, some r.template.text)
  | .ok (.otherPath path) => (⟨redirectTo frame.request path, state, []⟩, none)
  | .ok .nothing => (⟨.error (.ofStatus 404 .null []), state, []⟩, none)

/-- The innermost handler: it answers by the routes and turns faults into responses. -/
def router {α : Type} (policy : Failure.Policy) (routes : List (Route α)) : Handler α :=
  fun frame state =>
    let (reply, route) := dispatch routes frame state
    let (calls, answer) :=
      match reply.result with
      | .ok response => ([], .ok response)
      | .error fault => Failure.handle policy frame.request frame.noted fault
    { answer, state := reply.state, logs := Log.within frame.bound (reply.calls ++ calls)
      spans := [], route, noted := frame.noted, bound := frame.bound }

end TokenIssuer.Http
