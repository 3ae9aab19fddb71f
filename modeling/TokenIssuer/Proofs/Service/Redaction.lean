import TokenIssuer.Proofs.Demo
import TokenIssuer.Proofs.Http.Resemblance
import TokenIssuer.Proofs.Log.Redaction
import TokenIssuer.Proofs.Service.Traffic

/-!
The note that a request is completed, for requests that differ in their queries only. Nothing but
the note itself looks at the parameters of a query, and it shows none of the hidden values.
-/

namespace TokenIssuer.Service

open Http Store

variable {app : Application} {frame : Frame} {state : State Data} {query : String}

/-- The parameters of a query as they stand in it. -/
def parameters (query : String) : Log.Fields :=
  (Percent.pairs query.toList).map fun p => (String.ofList p.1, .str (String.ofList p.2))

/-- The frame with another query in its request. -/
def withQuery (frame : Frame) (query : String) : Frame :=
  frame.withRequest { frame.request with query }

/-! ## The endpoints -/

theorem header_withQuery (name : String) :
    (withQuery frame query).request.header? name = frame.request.header? name := rfl

theorem noted_withQuery : (withQuery frame query).noted = frame.noted := rfl

theorem fresh_withQuery : (withQuery frame query).fresh = frame.fresh := rfl

theorem read_withQuery : Form.read (withQuery frame query).request = Form.read frame.request := by
  unfold Form.read
  rfl

theorem call_withQuery (event : Audit.Event) (noted : Option Json) :
    event.call (withQuery frame query).request noted = event.call frame.request noted := by
  unfold Audit.Event.call Request.auditCorrelation Request.auditedAddress Request.forwardedFor?
    Request.trimmedHeader
  simp only [header_withQuery]
  rfl

theorem audit_withQuery : Recognition.audit (withQuery frame query) = Recognition.audit frame := by
  funext channel success client reason
  exact call_withQuery _ _

theorem ofRequest_withQuery (directory : Authentication.Directory) (form : Form) :
    Recognition.ofRequest (withQuery frame query) directory form =
      Recognition.ofRequest frame directory form := by
  unfold Recognition.ofRequest Recognition.unreadable Recognition.byHeader Recognition.conclude
    Recognition.reject
  rw [header_withQuery, audit_withQuery]

theorem ofConfidential_withQuery (directory : Authentication.Directory) :
    Recognition.ofConfidential (withQuery frame query) directory =
      Recognition.ofConfidential frame directory := by
  unfold Recognition.ofConfidential Recognition.unreadable Recognition.byHeader
    Recognition.conclude Recognition.reject
  rw [header_withQuery, audit_withQuery]

theorem tokenEndpoint_withQuery (rules : Grant.Rules) :
    tokenEndpoint rules (withQuery frame query) state = tokenEndpoint rules frame state := by
  unfold tokenEndpoint decide
  simp only [read_withQuery, ofRequest_withQuery, call_withQuery, noted_withQuery,
    fresh_withQuery]

theorem introspectEndpoint_withQuery :
    introspectEndpoint (withQuery frame query) state = introspectEndpoint frame state := by
  unfold introspectEndpoint lookUp
  simp only [read_withQuery, ofConfidential_withQuery, call_withQuery, noted_withQuery]

/-- No endpoint looks at the query. -/
theorem endpoint_withQuery {r : Route Data} (h : r ∈ app.service.routes) :
    r.endpoint (withQuery frame query) state = r.endpoint frame state := by
  cases mem_routes_iff.mp h with
  | page page => rfl
  | counts => rfl
  | token => simp only [tokenEndpoint_withQuery]
  | introspection => simp only [introspectEndpoint_withQuery]
  | live => rfl
  | ready => rfl

/-! ## The status of the answer -/

theorem inside_withQuery : inside (withQuery frame query) = withQuery (inside frame) query := by
  have hbrought : (withQuery frame query).request.correlationId? =
      frame.request.correlationId? := correlationId?_congr (header_withQuery _)
  have hid : Layer.correlationIdOf (withQuery frame query) = Layer.correlationIdOf frame := by
    unfold Layer.correlationIdOf
    rw [hbrought, fresh_withQuery]
  unfold inside
  rw [hid]
  rfl

/-- A redirection shows the query. All other replies are the same. -/
theorem replied_withQuery (app : Application) (frame : Frame) (state : State Data)
    (query : String) :
    (replied app (withQuery frame query) state).result = (replied app frame state).result ∨
      ∃ path, (replied app frame state).result = redirectTo frame.request path ∧
        (replied app (withQuery frame query) state).result =
          redirectTo (withQuery frame query).request path := by
  have hfind : Route.find app.service.routes (withQuery (inside frame) query).request =
      Route.find app.service.routes (inside frame).request := Route.find_congr rfl rfl _
  unfold replied dispatch
  -- The method and the path find the same route for both.
  rw [inside_withQuery, hfind]
  cases hf : Route.find app.service.routes (inside frame).request with
  | error fault => exact .inl rfl
  | ok found =>
    cases found with
    | route r =>
      left
      simp only [endpoint_withQuery (Route.of_find hf).1]
    | otherMethod r => exact .inl rfl
    | otherPath path => exact .inr ⟨path, rfl, rfl⟩
    | nothing => exact .inl rfl

section

variable (readable : frame.request.addressFault? = none)
  (also : (withQuery frame query).request.addressFault? = none)

include readable also

theorem handle_withQuery (policy : Failure.Policy) (noted : Option Json) (fault : Fault) :
    Failure.handle policy (withQuery frame query).request noted fault =
      Failure.handle policy frame.request noted fault := by
  have hreport (method : Log.Method) (event : String) (more : Log.Fields) :
      Failure.report method event (withQuery frame query).request noted more =
        Failure.report method event frame.request noted more := by
    unfold Failure.report
    rw [readable, also]
    rfl
  cases fault with
  | oauth detail code status => simp only [Failure.handle, hreport]
  | storage text => simp only [Failure.handle, hreport]
  | _ => rfl

theorem status_withQuery (app : Application) (state : State Data) :
    (routed app (withQuery frame query) state).answer.map (·.status) =
      (routed app frame state).answer.map (·.status) := by
  rw [routed_answer, routed_answer, inside_withQuery]
  rcases replied_withQuery app frame state query with hsame | ⟨path, hone, hother⟩
  · rw [hsame]
    unfold answered
    cases (replied app frame state).result with
    | ok response => rfl
    | error fault =>
      have hr : (inside frame).request.addressFault? = none := readable
      have ha : (withQuery (inside frame) query).request.addressFault? = none := also
      simp only [handle_withQuery hr ha]
      rfl
  · -- The locations may differ, but a redirection has one status.
    rw [hone, hother]
    unfold redirectTo
    rw [readable, also]
    rfl

end

/-! ## What is logged -/

/-- The note that a request is completed. -/
def completion (app : Application) (frame : Frame) (state : State Data) : Log.Entry :=
  ⟨Layer.completedCall (inside frame) (routed app frame state).answer, (inside frame).bound⟩

theorem completions_eq (app : Application) (frame : Frame) (state : State Data) :
    completions (app.service.serve frame state).logs =
      if frame.request.addressFault? = none then [completion app frame state] else [] := by
  split
  next readable => exact completions_serve app state readable
  next unreadable =>
    obtain ⟨fault, hfault⟩ := Option.ne_none_iff_exists'.mp unreadable
    rw [serve_eq_of_address app frame state hfault]
    rfl

theorem completedCall_congr {one other : Frame} {answer reply : Except Unexpected Response}
    (fields : Layer.requestFields one.request = Layer.requestFields other.request)
    (seconds : one.seconds = other.seconds)
    (status : answer.map (·.status) = reply.map (·.status)) :
    Layer.completedCall one answer = Layer.completedCall other reply := by
  have hboth : Layer.statusOf answer = Layer.statusOf reply ∧
      Layer.logMethod answer = Layer.logMethod reply := by
    cases answer with
    | ok response =>
      cases reply with
      | ok also =>
        have hstatus : response.status = also.status := Except.ok.inj status
        unfold Layer.statusOf Layer.logMethod
        simp only [hstatus, and_self]
      | error fault => cases status
    | error fault =>
      cases reply with
      | ok also => cases status
      | error other => exact ⟨rfl, rfl⟩
  unfold Layer.completedCall
  rw [fields, seconds, hboth.1, hboth.2]

theorem requestFields_withQuery
    (alike : Log.AlikeButHidden (parameters frame.request.query) (parameters query)) :
    Layer.requestFields (withQuery frame query).request = Layer.requestFields frame.request := by
  have hparameters : Log.redact (withQuery frame query).request.queryFields =
      Log.redact frame.request.queryFields := (Log.redact_foldl_put alike rfl).symm
  unfold Layer.requestFields
  rw [hparameters]
  rfl

theorem completion_withQuery (readable : frame.request.addressFault? = none)
    (also : (withQuery frame query).request.addressFault? = none)
    (alike : Log.AlikeButHidden (parameters frame.request.query) (parameters query))
    (app : Application) (state : State Data) :
    completion app (withQuery frame query) state = completion app frame state := by
  have hfields : Layer.requestFields (withQuery (inside frame) query).request =
      Layer.requestFields (inside frame).request := requestFields_withQuery alike
  have hcall := completedCall_congr hfields rfl (status_withQuery readable also app state)
  unfold completion
  rw [inside_withQuery, hcall]
  rfl

/-- The one note is left of whichever request has an address that can be told. -/
theorem exists_completion
    (alike : Log.AlikeButHidden (parameters frame.request.query) (parameters query))
    (app : Application) (state : State Data) :
    ∃ entry,
      completions (app.service.serve frame state).logs =
          (if frame.request.addressFault? = none then [entry] else []) ∧
        completions (app.service.serve (withQuery frame query) state).logs =
          if (withQuery frame query).request.addressFault? = none then [entry] else [] := by
  have hone := completions_eq app frame state
  have hother := completions_eq app (withQuery frame query) state
  -- If the first request leaves its note, the second one can only leave the same one.
  by_cases readable : frame.request.addressFault? = none
  · refine ⟨completion app frame state, hone, ?_⟩
    rw [hother]
    split
    next also => rw [completion_withQuery readable also alike]
    next => rfl
  · refine ⟨completion app (withQuery frame query) state, ?_, hother⟩
    rw [hone, if_neg readable, if_neg readable]

/-- A name that is spelled like a listed one, but for one of these, or that has one of the words in
it, in letters of either case, is sensitive, and no other is. Two requests that differ only in
values under such names leave the same note, unless the address of one cannot be told, which leaves
none. -/
theorem hidden_values_are_not_logged (name : String) (app : Application) (request : Request)
    (query : String) (fresh : Grant.Fresh) (seconds : Double) (state : State Data) :
    (Log.isSensitive name = true ↔ Log.Hidden name) ∧
      (Log.SameName name "set-cookie" → Log.isSensitive name = false) ∧
      (Log.AlikeButHidden (parameters request.query) (parameters query) →
        ∃ entry, ∀ sent ∈ [request, { request with query }],
          completions (app.serve sent fresh seconds state).logs =
            if sent.addressFault? = none then [entry] else []) := by
  refine ⟨Log.isSensitive_iff, Log.isSensitive_of_set_cookie, ?_⟩
  intro halike
  have hframe : Log.AlikeButHidden
      (parameters (Frame.enter request fresh seconds).request.query) (parameters query) := halike
  obtain ⟨entry, hone, hother⟩ := exists_completion hframe app state
  refine ⟨entry, fun sent hsent => ?_⟩
  rcases List.mem_pair.mp hsent with rfl | rfl
  · exact hone
  · exact hother

/-- Two requests that differ in a password leave the same note. -/
theorem hidden_values_are_not_logged_demo :
    Log.Hidden "new-PassWord" ∧ Log.isSensitive "Set_Cookie" = false ∧
      ∃ entry, ∀ query ∈ ["new-PassWord=alice&page=1", "new-PassWord=%62ob&page=1"],
        completions (Application.standard.serve (Demo.liveRequest query) Demo.fresh
          (.signedZero false) ⟨.empty, .empty⟩).logs = [entry] := by
  have hall (name : String) := hidden_values_are_not_logged name .standard
    (Demo.liveRequest "new-PassWord=alice&page=1") "new-PassWord=%62ob&page=1" Demo.fresh
    (.signedZero false) ⟨.empty, .empty⟩
  obtain ⟨hpassword, -, hlogs⟩ := hall "new-PassWord"
  have hhidden : Log.Hidden "new-PassWord" := hpassword.mp (by decide +kernel)
  have halike : Log.AlikeButHidden (parameters "new-PassWord=alice&page=1")
      (parameters "new-PassWord=%62ob&page=1") :=
    .cons ⟨rfl, .inr hhidden⟩ (.cons ⟨rfl, .inl rfl⟩ .nil)
  obtain ⟨entry, hentry⟩ := hlogs halike
  refine ⟨hhidden, (hall "Set_Cookie").2.1 (by decide +kernel), entry, fun query hquery => ?_⟩
  rcases List.mem_pair.mp hquery with rfl | rfl
  · exact hentry (Demo.liveRequest _) List.mem_cons_self
  · exact hentry (Demo.liveRequest _) (List.mem_cons_of_mem _ List.mem_cons_self)

/-- A name is listed, and its value is logged all the same. -/
theorem set_cookie_is_logged :
    "set-cookie" ∈ Log.sensitiveNames ∧ Log.isSensitive "set-cookie" = false ∧
      parameters "set-cookie=1" = [("set-cookie", .str "1")] ∧
      parameters "set-cookie=2" = [("set-cookie", .str "2")] ∧
      completions (Application.standard.serve (Demo.liveRequest "set-cookie=1") Demo.fresh
          (.signedZero false) ⟨.empty, .empty⟩).logs ≠
        completions (Application.standard.serve (Demo.liveRequest "set-cookie=2") Demo.fresh
          (.signedZero false) ⟨.empty, .empty⟩).logs := by
  refine ⟨by decide, by decide +kernel, by rfl, by rfl, ?_⟩
  have hone := completions_eq .standard
    (.enter (Demo.liveRequest "set-cookie=1") Demo.fresh (.signedZero false)) ⟨.empty, .empty⟩
  have hother := completions_eq .standard
    (.enter (Demo.liveRequest "set-cookie=2") Demo.fresh (.signedZero false)) ⟨.empty, .empty⟩
  intro h
  have hentries := List.singleton_inj.mp (hone.symm.trans (h.trans hother))
  have hshown := congrArg (fun entry => entry.call.fields.lookup "query_params") hentries
  have hvalues : some (Json.obj [("set-cookie", .str "1")]) =
      some (Json.obj [("set-cookie", .str "2")]) := hshown
  simp at hvalues

end TokenIssuer.Service
