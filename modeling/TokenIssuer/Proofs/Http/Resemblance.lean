import TokenIssuer.Audit
import TokenIssuer.Http.Stack
import TokenIssuer.Proofs.Http.Route

/-!
Requests that differ in their bodies and in some of their headers only. What a service shows of a
request, apart from what it makes of the form and the credentials, is the same for both.
-/

namespace TokenIssuer.Http

/-- The requests are the same but for their bodies and the headers of the names. -/
structure Request.AgreeBut (names : List String) (one other : Request) : Prop where
  method : one.method = other.method
  path : one.path = other.path
  query : one.query = other.query
  peer : one.peer = other.peer
  header : ∀ name ∉ names, one.header? name = other.header? name

/-- The requests differ at most in the body, in its length and in the credentials, and those are of
one scheme. -/
structure Resembles (one other : Request) : Prop where
  rest : Request.AgreeBut ["authorization", "content-length"] one other
  scheme : one.authorizationScheme = other.authorizationScheme

/-- The same frame with another request in it. -/
def Frame.withRequest (frame : Frame) (request : Request) : Frame := { frame with request }

@[simp] theorem Frame.request_withRequest (frame : Frame) (request : Request) :
    (frame.withRequest request).request = request := rfl

@[simp] theorem Frame.noted_withRequest (frame : Frame) (request : Request) :
    (frame.withRequest request).noted = frame.noted := rfl

@[simp] theorem Frame.fresh_withRequest (frame : Frame) (request : Request) :
    (frame.withRequest request).fresh = frame.fresh := rfl

theorem authorizationScheme_congr {one other : Request}
    (h : one.header? "authorization" = other.header? "authorization") :
    one.authorizationScheme = other.authorizationScheme := by
  unfold Request.authorizationScheme Request.trimmedHeader
  rw [h]

theorem correlationId?_congr {one other : Request}
    (h : one.header? Request.correlationHeader = other.header? Request.correlationHeader) :
    one.correlationId? = other.correlationId? := by
  unfold Request.correlationId? Request.trimmedHeader
  rw [h]

namespace Resembles

variable {α : Type} {one other : Request} {noted : Option Json}

theorem refl (request : Request) : Resembles request request :=
  ⟨⟨rfl, rfl, rfl, rfl, fun _ _ => rfl⟩, rfl⟩

/-- Requests that differ in the body and its length resemble each other. -/
theorem of_agreeBut (rest : Request.AgreeBut ["content-length"] one other) :
    Resembles one other where
  rest :=
    { rest with
      header := fun name hn =>
        rest.header name fun hlength => hn (List.mem_cons_of_mem _ hlength) }
  scheme := authorizationScheme_congr (rest.header "authorization" (by decide))

/-! ## The request -/

theorem header (h : Resembles one other) (name : String)
    (hn : name ∉ ["authorization", "content-length"]) :
    one.header? name = other.header? name :=
  h.rest.header name hn

theorem shownPath (h : Resembles one other) : one.shownPath = other.shownPath := by
  unfold Request.shownPath
  rw [h.rest.path]

theorem addressFault? (h : Resembles one other) : one.addressFault? = other.addressFault? := by
  unfold Request.addressFault?
  rw [h.rest.query]

theorem forwardedFor? (h : Resembles one other) : one.forwardedFor? = other.forwardedFor? := by
  unfold Request.forwardedFor? Request.trimmedHeader
  rw [h.header "x-forwarded-for" (by decide)]

theorem loggedAddress (h : Resembles one other) : one.loggedAddress = other.loggedAddress := by
  unfold Request.loggedAddress
  rw [h.forwardedFor?, h.rest.peer]

theorem auditedAddress (h : Resembles one other) :
    one.auditedAddress = other.auditedAddress := by
  unfold Request.auditedAddress
  rw [h.forwardedFor?, h.rest.peer]

theorem auditCorrelation (h : Resembles one other) :
    one.auditCorrelation noted = other.auditCorrelation noted := by
  unfold Request.auditCorrelation
  rw [h.header Request.correlationHeader (by decide)]

theorem failureCorrelation (h : Resembles one other) :
    one.failureCorrelation noted = other.failureCorrelation noted := by
  unfold Request.failureCorrelation
  rw [h.header Request.correlationHeader (by decide)]

/-! ## Log calls and responses -/

theorem auditCall (h : Resembles one other) (event : Audit.Event) :
    event.call one noted = event.call other noted := by
  unfold Audit.Event.call
  rw [h.auditCorrelation, h.auditedAddress, h.header "user-agent" (by decide)]

theorem report (h : Resembles one other) (method : Log.Method) (event : String)
    (more : Log.Fields) :
    Failure.report method event one noted more = Failure.report method event other noted more := by
  unfold Failure.report
  rw [h.addressFault?, h.failureCorrelation, h.shownPath, h.rest.method]

theorem handle (h : Resembles one other) (policy : Failure.Policy) (fault : Fault) :
    Failure.handle policy one noted fault = Failure.handle policy other noted fault := by
  cases fault with
  | oauth detail code status => simp only [Failure.handle, h.report]
  | storage text => simp only [Failure.handle, h.report]
  | http status detail headers => rfl
  | validation errors => rfl
  | unexpected fault => rfl

theorem unexpectedCall (h : Resembles one other) (fault : Unexpected) :
    Failure.unexpectedCall one noted fault = Failure.unexpectedCall other noted fault :=
  h.report _ _ _

theorem requestFields (h : Resembles one other) :
    Layer.requestFields one = Layer.requestFields other := by
  have hquery : one.queryFields = other.queryFields := by
    unfold Request.queryFields
    rw [h.rest.query]
  unfold Layer.requestFields
  rw [h.rest.method, h.shownPath, hquery, h.header "content-type" (by decide), h.scheme,
    h.loggedAddress, h.header "user-agent" (by decide)]

theorem redirectTo (h : Resembles one other) (path : String) :
    redirectTo one path = redirectTo other path := by
  have hserver : one.server = other.server := by
    unfold Request.server
    rw [h.header "host" (by decide)]
  unfold Http.redirectTo addressOf
  rw [h.addressFault?, h.rest.query, hserver]

/-! ## Routing -/

theorem find (h : Resembles one other) (routes : List (Route α)) :
    Route.find routes one = Route.find routes other :=
  Route.find_congr h.rest.method h.rest.path routes

/-- Where every endpoint replies to both alike, so do the routes. -/
theorem dispatch {frame : Frame} {state : State α} {routes : List (Route α)}
    (h : Resembles frame.request other)
    (same : ∀ r ∈ routes,
      r.endpoint (frame.withRequest other) state = r.endpoint frame state) :
    Http.dispatch routes (frame.withRequest other) state = Http.dispatch routes frame state := by
  have hfind : Route.find routes (frame.withRequest other).request =
      Route.find routes frame.request := (h.find routes).symm
  unfold Http.dispatch
  rw [hfind]
  cases hf : Route.find routes frame.request with
  | error fault => rfl
  | ok found =>
    cases found with
    | route r => simp only [same r (Route.of_find hf).1]
    | otherMethod r => rfl
    | otherPath path => simp only [h.redirectTo, Frame.withRequest]
    | nothing => rfl

end Resembles

end TokenIssuer.Http
