import Mathlib.Data.List.Nodup
import TokenIssuer.Service.Application
import TokenIssuer.Proofs.Http.Failure
import TokenIssuer.Proofs.Http.Route

/-! What the layers make of the answer of the router, and what the router makes of a request. -/

namespace TokenIssuer.Service

open Http Store

variable {app : Application} {frame : Frame} {state : State Data} {request : Request}

/-! ## The layers -/

/-- The frame in which the router sees a request. -/
def inside (frame : Frame) : Frame :=
  { frame with
    bound := Assoc.put "correlation_id" (.str (Layer.correlationIdOf frame)) frame.bound
    noted := some (.str (Layer.correlationIdOf frame)) }

/-- What is bound once a request is through. -/
def released (frame : Frame) : Log.Fields := Assoc.erase "correlation_id" frame.bound

/-- Header lines with the ones every response carries. -/
def secured (headers : Headers) : Headers :=
  Layer.defaultSecurity.foldl (fun acc h => Assoc.putNew (Text.lowered h.1) h.2 acc) headers

/-- The response to a request as it leaves the layers. -/
def dressed (frame : Frame) (response : Response) : Response :=
  { response with
    headers :=
      (secured response.headers).set Request.correlationHeader (Layer.correlationIdOf frame) }

/-- The headers that every response carries can always be sent. -/
theorem foldlM_setDefault (headers : Headers) :
    Layer.defaultSecurity.foldlM (fun acc h => Headers.setDefault acc h.1 h.2) headers =
      .ok (secured headers) := by
  have hall : ∀ h ∈ Layer.defaultSecurity,
      foreign? (Text.lowered h.1) = none ∧ foreign? h.2 = none := by
    decide
  -- By induction on headers of any kind that can be sent, and not on the ones of the service.
  have hfold (extra : Headers)
      (he : ∀ h ∈ extra, foreign? (Text.lowered h.1) = none ∧ foreign? h.2 = none)
      (start : Headers) :
      extra.foldlM (fun acc h => Headers.setDefault acc h.1 h.2) start =
        (.ok (extra.foldl (fun acc h => Assoc.putNew (Text.lowered h.1) h.2 acc) start) :
          Except Unsendable Headers) := by
    induction extra generalizing start with
    | nil => rfl
    | cons h extra ih =>
      obtain ⟨hn, hv⟩ := he h List.mem_cons_self
      rw [List.foldlM_cons, Headers.setDefault, Headers.line_eq_ok hn hv]
      exact ih (fun g hg => he g (List.mem_cons_of_mem h hg)) _
  exact hfold _ hall headers

/-- A header that is set stays in a response as it leaves the layers. -/
theorem lookup_dressed {response : Response} {name value : String}
    (hn : name ≠ Request.correlationHeader) (h : response.headers.lookup name = some value) :
    (dressed frame response).headers.lookup name = some value := by
  have hfold (extra start : Headers) (hs : start.lookup name = some value) :
      (extra.foldl (fun acc h => Assoc.putNew (Text.lowered h.1) h.2 acc) start).lookup name =
        some value := by
    induction extra generalizing start with
    | nil => exact hs
    | cons h extra ih => exact ih _ (lookup_putNew_of_some hs)
  unfold dressed
  rw [Headers.lookup_set_of_ne hn]
  exact hfold _ _ h

theorem security_eq (inner : Handler Data) (frame : Frame) (state : State Data) :
    Layer.security Layer.defaultSecurity inner frame state =
      { inner frame state with
        answer := (inner frame state).answer.map fun response =>
          { response with headers := secured response.headers }
        bound := frame.bound } := by
  unfold Layer.security
  cases ha : (inner frame state).answer with
  | error fault => simp only [ha]; rfl
  | ok response =>
    simp only [ha, foldlM_setDefault]
    rfl

theorem tracing_eq (inner : Handler Data) (readable : frame.request.addressFault? = none) :
    Layer.tracing inner frame state =
      { inner frame state with
        spans := Layer.spanOf frame (inner frame state).answer :: (inner frame state).spans
        bound := frame.bound } := by
  unfold Layer.tracing
  rw [readable]

theorem logging_eq (inner : Handler Data) (readable : frame.request.addressFault? = none) :
    Layer.logging inner frame state =
      { inner frame state with
        logs := (inner frame state).logs ++
          Log.within frame.bound [Layer.completedCall frame (inner frame state).answer]
        bound := frame.bound } := by
  unfold Layer.logging
  rw [readable]

theorem metrics_eq (inner : Handler Data) (readable : frame.request.addressFault? = none) :
    Layer.metrics inner frame state =
      { inner frame state with
        state :=
          { (inner frame state).state with
            registry := (inner frame state).state.registry.record
              { method := frame.request.method
                path := (inner frame state).route.getD frame.request.shownPath
                status := toString (Layer.statusOf (inner frame state).answer) }
              frame.seconds }
        bound := frame.bound } := by
  unfold Layer.metrics
  rw [readable]

theorem correlation_eq (inner : Handler Data) (frame : Frame) (state : State Data) :
    Layer.correlation inner frame state =
      { inner (inside frame) state with
        answer := (inner (inside frame) state).answer.map fun response =>
          { response with
            headers := response.headers.set Request.correlationHeader
              (Layer.correlationIdOf frame) }
        bound := released frame } := by
  unfold Layer.correlation released
  rw [← Assoc.erase_put "correlation_id" (.str (Layer.correlationIdOf frame)) frame.bound]
  rfl

theorem statusOf_map (answer : Except Unexpected Response) {f : Response → Response}
    (hf : ∀ response, (f response).status = response.status) :
    Layer.statusOf (answer.map f) = Layer.statusOf answer := by
  cases answer with
  | error fault => rfl
  | ok response => exact hf response

/-- The router of the application, in the frame of a request. -/
def routed (app : Application) (frame : Frame) (state : State Data) : Outcome Data :=
  router app.service.policy app.service.routes (inside frame) state

/-- What the layers make of the outcome of the router for a request whose address can be told. -/
theorem handler_of_readable (app : Application) (frame : Frame) (state : State Data)
    (readable : frame.request.addressFault? = none) :
    app.service.handler frame state =
      let outcome := routed app frame state
      { answer := outcome.answer.map (dressed frame)
        state :=
          { outcome.state with
            registry := outcome.state.registry.record
              { method := frame.request.method
                path := outcome.route.getD frame.request.shownPath
                status := toString (Layer.statusOf outcome.answer) } frame.seconds }
        logs := outcome.logs ++
          Log.within (inside frame).bound [Layer.completedCall (inside frame) outcome.answer]
        spans := Layer.spanOf (inside frame) outcome.answer :: outcome.spans
        route := outcome.route, noted := outcome.noted, bound := released frame } := by
  have hlayers : app.service.handler frame state =
      Layer.correlation (Layer.metrics (Layer.security Layer.defaultSecurity
        (Layer.logging (Layer.tracing (router app.service.policy app.service.routes))))) frame
        state := rfl
  have hr : (inside frame).request.addressFault? = none := readable
  have hstatus (answer : Except Unexpected Response) :
      Layer.statusOf (answer.map fun response =>
        { response with headers := secured response.headers }) = Layer.statusOf answer :=
    statusOf_map answer fun _ => rfl
  have hanswer (answer : Except Unexpected Response) :
      ((answer.map fun response => { response with headers := secured response.headers }).map
        fun response =>
          { response with
            headers := response.headers.set Request.correlationHeader
              (Layer.correlationIdOf frame) }) = answer.map (dressed frame) := by
    cases answer <;> rfl
  -- From the outermost layer inwards, down to the router.
  rw [hlayers, correlation_eq, metrics_eq _ hr, security_eq, logging_eq _ hr, tracing_eq _ hr]
  simp only [hstatus, hanswer]
  rfl

/-- A request whose address cannot be told goes no further than the counts. -/
theorem handler_of_address (app : Application) (frame : Frame) (state : State Data)
    {fault : Utf8.Fault} (h : frame.request.addressFault? = some fault) :
    app.service.handler frame state =
      { Layer.broken (inside frame) state fault with bound := released frame } := by
  have hlayers : app.service.handler frame state =
      Layer.correlation (Layer.metrics (Layer.security Layer.defaultSecurity
        (Layer.logging (Layer.tracing (router app.service.policy app.service.routes))))) frame
        state := rfl
  have hr : (inside frame).request.addressFault? = some fault := h
  rw [hlayers, correlation_eq]
  unfold Layer.metrics
  rw [hr]
  rfl

/-! ## The service -/

/-- What is sent for the answer of the router. -/
def sent (app : Application) (frame : Frame) : Except Unexpected Response → Response
  | .ok response => dressed frame response
  | .error fault => Failure.unexpectedResponse app.service.policy fault

/-- A request whose address can be told is answered, and the data are left as the router left
them. -/
theorem serve_of_readable (app : Application) (readable : request.addressFault? = none)
    (fresh : Grant.Fresh) (seconds : Double) (state : State Data) :
    (app.serve request fresh seconds state).response =
        some (sent app (.enter request fresh seconds)
          (routed app (.enter request fresh seconds) state).answer) ∧
      (app.serve request fresh seconds state).state.data =
        (routed app (.enter request fresh seconds) state).state.data := by
  have hhandler := handler_of_readable app (.enter request fresh seconds) state
    readable
  unfold Application.serve Http.Service.serve
  rw [hhandler]
  cases ha : (routed app (.enter request fresh seconds) state).answer with
  | ok response =>
    simp only [ha]
    exact ⟨rfl, rfl⟩
  | error fault =>
    have hr : (Frame.enter request fresh seconds).request.addressFault? = none := readable
    simp only [ha, Except.map, Failure.unexpectedCall, Failure.report, hr, and_true]
    rfl

/-- The answer of the router is sent, the data are left as the router left them, and what was logged
there comes before the note that the request is answered. -/
theorem serve_of_answer (app : Application) (readable : request.addressFault? = none)
    {fresh : Grant.Fresh} {seconds : Double} {state : State Data} {response : Response}
    (h : (routed app (.enter request fresh seconds) state).answer = .ok response) :
    (app.serve request fresh seconds state).response =
        some (dressed (.enter request fresh seconds) response) ∧
      (app.serve request fresh seconds state).state.data =
        (routed app (.enter request fresh seconds) state).state.data ∧
      (app.serve request fresh seconds state).state.registry.outcomes =
        (routed app (.enter request fresh seconds) state).state.registry.outcomes ∧
      (app.serve request fresh seconds state).logs =
        (routed app (.enter request fresh seconds) state).logs ++
          Log.within (inside (.enter request fresh seconds)).bound
            [Layer.completedCall (inside (.enter request fresh seconds)) (.ok response)] := by
  have hhandler := handler_of_readable app (.enter request fresh seconds) state readable
  unfold Application.serve Http.Service.serve
  rw [hhandler]
  simp only [h]
  exact ⟨rfl, rfl, rfl, rfl⟩

/-- A request whose address cannot be told is not answered and changes nothing. -/
theorem serve_of_address (app : Application) {fault : Utf8.Fault}
    (h : request.addressFault? = some fault) (fresh : Grant.Fresh) (seconds : Double)
    (state : State Data) :
    (app.serve request fresh seconds state).response = none ∧
      (app.serve request fresh seconds state).raised = some (.address fault) ∧
      (app.serve request fresh seconds state).state = state := by
  have hhandler := handler_of_address app (.enter request fresh seconds) state h
  have hr : (Frame.enter request fresh seconds).request.addressFault? = some fault := h
  unfold Application.serve Http.Service.serve
  rw [hhandler]
  simp only [Layer.broken, Failure.unexpectedCall, Failure.report, hr, and_self]

/-! ## The router -/

/-- The answer of the router for the result of an endpoint. -/
def answered (app : Application) (frame : Frame) (result : Except Fault Response) :
    Except Unexpected Response :=
  match result with
  | .ok response => .ok response
  | .error fault =>
    (Failure.handle app.service.policy frame.request frame.noted fault).2

/-- The reply of the endpoint that a request finds. -/
def replied (app : Application) (frame : Frame) (state : State Data) : Reply Data :=
  (dispatch app.service.routes (inside frame) state).1

theorem routed_answer (app : Application) (frame : Frame) (state : State Data) :
    (routed app frame state).answer =
      answered app (inside frame) (replied app frame state).result := by
  unfold routed router answered replied
  generalize dispatch app.service.routes (inside frame) state = dispatched
  obtain ⟨⟨result, _, _⟩, _⟩ := dispatched
  cases result <;> rfl

theorem routed_state (app : Application) (frame : Frame) (state : State Data) :
    (routed app frame state).state = (replied app frame state).state := by
  unfold routed router replied
  generalize dispatch app.service.routes (inside frame) state = dispatched
  obtain ⟨⟨result, _, _⟩, _⟩ := dispatched
  cases result <;> rfl

/-! ## The routes -/

variable {r s : Route Data}

/-- The routes there are: those of the pages and the ones of the service itself. -/
inductive Offers (app : Application) : Route Data → Prop where
  | page (page : Page) : Offers app (app.pageRoute page)
  | counts : Offers app ⟨.plain "/metrics", ["GET"], metricsEndpoint⟩
  | token : Offers app ⟨.plain "/token", ["POST"], tokenEndpoint app.rules⟩
  | introspection : Offers app ⟨.plain "/introspect", ["POST"], introspectEndpoint⟩
  | live : Offers app ⟨.plain "/health/live", ["GET"], liveEndpoint⟩
  | ready : Offers app ⟨.plain "/health/ready", ["GET"], readyEndpoint⟩

theorem mem_routes_iff : r ∈ app.service.routes ↔ Offers app r := by
  constructor
  · intro hr
    rcases List.mem_append.mp hr with hpage | hown
    · obtain ⟨page, -, rfl⟩ := List.mem_map.mp hpage
      exact .page page
    · simp only [Application.routes, List.mem_cons, List.not_mem_nil, or_false] at hown
      rcases hown with rfl | rfl | rfl | rfl | rfl
      · exact .counts
      · exact .token
      · exact .introspection
      · exact .live
      · exact .ready
  · rintro (⟨page⟩ | _ | _ | _ | _ | _)
    · exact List.mem_append_left _ (List.mem_map_of_mem page.mem_all)
    all_goals exact List.mem_append_right _ (by simp [Application.routes])

theorem fitsPath_route (hr : r ∈ app.service.routes) (path : String) :
    r.fitsPath path = .ok (Decidable.decide (IsAt path r.template.text)) := by
  cases mem_routes_iff.mp hr with
  | _ => exact Route.fitsPath_plain _ _ _ _

/-- The request asks for a page. -/
structure AsksForPage (request : Request) (page : Page) : Prop where
  path : IsAt request.path page.path
  method : request.method ∈ ["GET", "HEAD"]

/-- A request asks for one page at most. -/
theorem AsksForPage.unique {page other : Page} (h : AsksForPage request page)
    (ho : AsksForPage request other) : page = other := by
  rcases h.path.of_both ho.path with hat | hat <;> revert hat <;> cases page <;> cases other <;>
    decide

/-- No two routes are for one path. -/
theorem route_unique {path : String} (hr : r ∈ app.service.routes) (hs : s ∈ app.service.routes)
    (h : IsAt path r.template.text) (ho : IsAt path s.template.text) : r = s := by
  have htexts : app.service.routes.map (fun r => r.template.text) =
      ["/openapi.json", "/docs", "/docs/oauth2-redirect", "/redoc", "/metrics", "/token",
        "/introspect", "/health/live", "/health/ready"] := rfl
  have hdistinct : (app.service.routes.map fun r => r.template.text).Nodup := by
    rw [htexts]
    decide
  -- No template is another one with a line feed after it.
  have hapart : ∀ text ∈ app.service.routes.map (fun r => r.template.text),
      ∀ other ∈ app.service.routes.map (fun r => r.template.text),
        IsAt text other → text = other := by
    rw [htexts]
    decide
  have hr' := List.mem_map_of_mem (f := fun r : Route Data => r.template.text) hr
  have hs' := List.mem_map_of_mem (f := fun r : Route Data => r.template.text) hs
  refine List.inj_on_of_nodup_map hdistinct hr hs ?_
  rcases h.of_both ho with hat | hat
  · exact hapart _ hr' _ hs' hat
  · exact (hapart _ hs' _ hr' hat).symm

theorem replied_of_route (hr : r ∈ app.service.routes)
    (path : IsAt frame.request.path r.template.text) (method : frame.request.method ∈ r.methods)
    (state : State Data) : replied app frame state = r.endpoint (inside frame) state := by
  have hfits : r.fitsPath (inside frame).request.path = .ok true := by
    rw [fitsPath_route hr, Except.ok.injEq, decide_eq_true_eq]
    exact path
  have hfind : Route.find app.service.routes (inside frame).request = .ok (.route r) := by
    refine Route.find_of_alone hr hfits method fun s hs hne => ?_
    rw [fitsPath_route hs, Except.ok.injEq, decide_eq_false_iff_not]
    exact fun hat => hne (route_unique hs hr hat path)
  unfold replied dispatch
  rw [hfind]

theorem replied_of_is {method plain : String} {endpoint : Endpoint Data}
    (hr : Offers app ⟨.plain plain, [method], endpoint⟩) (h : frame.request.Is method plain)
    (state : State Data) : replied app frame state = endpoint (inside frame) state :=
  replied_of_route (mem_routes_iff.mpr hr) h.2 (h.1 ▸ List.mem_singleton_self _) state

theorem replied_of_metrics (h : frame.request.Is "GET" "/metrics") (state : State Data) :
    replied app frame state = metricsEndpoint (inside frame) state :=
  replied_of_is .counts h state

theorem replied_of_token (h : frame.request.Is "POST" "/token") (state : State Data) :
    replied app frame state = tokenEndpoint app.rules (inside frame) state :=
  replied_of_is .token h state

theorem replied_of_introspect (h : frame.request.Is "POST" "/introspect") (state : State Data) :
    replied app frame state = introspectEndpoint (inside frame) state :=
  replied_of_is .introspection h state

theorem replied_of_page {page : Page} (h : AsksForPage frame.request page) (state : State Data) :
    replied app frame state =
      keep state (app.documentation.result app.settings.service page) [] :=
  replied_of_route (mem_routes_iff.mpr (.page page)) h.path h.method state

theorem lookUp_state (frame : Frame) (state : State Data) (client : Client.Principal)
    (form : Form) : (lookUp frame state client form).state = state := by
  unfold lookUp
  split
  · rfl
  · split <;> rfl

/-- Introspection leaves everything as it is. -/
theorem introspectEndpoint_state (frame : Frame) (state : State Data) :
    (introspectEndpoint frame state).state = state := by
  unfold introspectEndpoint
  cases Form.read frame.request with
  | error fault => rfl
  | ok form =>
    simp only
    cases (Recognition.ofConfidential frame (Authentication.ofStores state.data)).result with
    | error fault => rfl
    | ok client =>
      simp only
      split
      · exact lookUp_state frame state client form
      · rfl

theorem readyEndpoint_state (frame : Frame) (state : State Data) :
    (readyEndpoint frame state).state = state := by
  unfold readyEndpoint
  split <;> rfl

/-- The methods that a route takes can be told in a header. -/
theorem sendable_methods (hr : r ∈ app.service.routes) :
    foreign? (", ".intercalate (Text.setOf r.methods)) = none := by
  have hread : foreign? (", ".intercalate (Text.setOf ["GET", "HEAD"])) = none := by decide
  have hget : foreign? (", ".intercalate (Text.setOf ["GET"])) = none := by decide
  have hpost : foreign? (", ".intercalate (Text.setOf ["POST"])) = none := by decide
  cases mem_routes_iff.mp hr with
  | page page => exact hread
  | counts => exact hget
  | token => exact hpost
  | introspection => exact hpost
  | live => exact hget
  | ready => exact hget

/-- What is replied to a request that no route takes. -/
inductive Astray (request : Request) : Except Fault Response → Prop where
  | unknown : Astray request (.error (.ofStatus 404 .null []))
  | otherMethod {allow : String} (sendable : foreign? allow = none) :
      Astray request (.error (.ofStatus 405 .null [("Allow", allow)]))
  | otherPath (path : String) : Astray request (redirectTo request path)

/-- The reply to a request: the one of the endpoint for its path and its method, or one for which
nothing was done. -/
inductive Replies (app : Application) (frame : Frame) (state : State Data) (reply : Reply Data) :
    Prop where
  | counts (get : frame.request.Is "GET" "/metrics")
      (same : reply = metricsEndpoint (inside frame) state)
  | token (post : frame.request.Is "POST" "/token")
      (same : reply = tokenEndpoint app.rules (inside frame) state)
  | introspection (post : frame.request.Is "POST" "/introspect")
      (same : reply = introspectEndpoint (inside frame) state)
  | live (get : frame.request.Is "GET" "/health/live")
      (same : reply = liveEndpoint (inside frame) state)
  | ready (get : frame.request.Is "GET" "/health/ready")
      (same : reply = readyEndpoint (inside frame) state)
  | page (page : Page) (asks : AsksForPage frame.request page)
      (same : reply = keep state (app.documentation.result app.settings.service page) [])
  | nowhere (result : Except Fault Response) (same : reply = keep state result [])
      (astray : Astray frame.request result)

theorem replies_replied (app : Application) (frame : Frame) (state : State Data) :
    Replies app frame state (replied app frame state) := by
  obtain ⟨found, hfound⟩ := Route.find_total (inside frame).request fun r hr path =>
    ⟨_, fitsPath_route hr path⟩
  unfold replied dispatch
  rw [hfound]
  cases found with
  | nothing => exact .nowhere _ rfl .unknown
  | otherMethod r =>
    exact .nowhere _ rfl (.otherMethod (sendable_methods (Route.other_of_find hfound).1))
  | otherPath path => exact .nowhere _ rfl (.otherPath path)
  | route r =>
    -- The path and the method say which of the routes it is.
    obtain ⟨hmem, hfits, hmethod⟩ := Route.of_find hfound
    have hat : IsAt frame.request.path r.template.text := by
      rw [fitsPath_route hmem, Except.ok.injEq, decide_eq_true_eq] at hfits
      exact hfits
    cases mem_routes_iff.mp hmem with
    | page page => exact .page page ⟨hat, hmethod⟩ rfl
    | counts => exact .counts ⟨List.mem_singleton.mp hmethod, hat⟩ rfl
    | token => exact .token ⟨List.mem_singleton.mp hmethod, hat⟩ rfl
    | introspection => exact .introspection ⟨List.mem_singleton.mp hmethod, hat⟩ rfl
    | live => exact .live ⟨List.mem_singleton.mp hmethod, hat⟩ rfl
    | ready => exact .ready ⟨List.mem_singleton.mp hmethod, hat⟩ rfl

/-- Only a request for tokens may change the state. -/
theorem replied_state_of_not_token (app : Application)
    (h : ¬ frame.request.Is "POST" "/token") (state : State Data) :
    (replied app frame state).state = state := by
  cases replies_replied app frame state with
  | counts _ same => rw [same]; rfl
  | token post _ => exact absurd post h
  | introspection _ same => rw [same, introspectEndpoint_state]
  | live _ same => rw [same]; rfl
  | ready _ same => rw [same, readyEndpoint_state]
  | page _ _ same => rw [same]; rfl
  | nowhere _ same _ => rw [same]; rfl

end TokenIssuer.Service
