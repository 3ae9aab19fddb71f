import TokenIssuer.Proofs.Service.Outage

/-!
What a request is answered while some stores are out of reach: what it is answered with all stores
at hand, or that the service is unavailable.
-/

namespace TokenIssuer.Service

open Http Store

variable {app : Application} {frame : Frame} {state : State Data} {down : List Name}

/-! ## The routes -/

/-- The fault that a request ends with for want of a store. -/
def OutageFault (request : Request) (fault : Fault) : Prop :=
  if request.Is "GET" "/health/ready" then fault = notReady else OutOfReach fault

theorem endpoint_withstands {r : Route Data} (hr : r ∈ app.service.routes)
    (hfits : r.fitsPath frame.request.path = .ok true) (hmethod : frame.request.method ∈ r.methods)
    (state : State Data) (down : List Name) :
    ReplyWithstands (OutageFault frame.request) state down (r.endpoint frame (withDown state down))
      (r.endpoint frame (withDown state [])) := by
  have hpost (h : frame.request.method = "POST") (fault : Fault) (hfault : OutOfReach fault) :
      OutageFault frame.request fault := by
    have hother : ¬ frame.request.Is "GET" "/health/ready" := by
      rintro ⟨hget, -⟩
      rw [h] at hget
      exact absurd hget (by decide)
    unfold OutageFault
    rw [if_neg hother]
    exact hfault
  cases mem_routes_iff.mp hr with
  -- The pages, the counts and the sign of life ask no store.
  | page page =>
    exact .spared (spared_of_page app.documentation app.settings.service page state)
  | counts =>
    refine .spared ⟨rfl, fun response h => ?_, fun fault h => by cases h⟩
    cases h
    show (200 : Int) ≠ 503
    omega
  | token =>
    apply (tokenEndpoint_withstands app.rules frame state down).mono
    exact hpost (List.mem_singleton.mp hmethod)
  | introspection =>
    apply (introspectEndpoint_withstands frame state down).mono
    exact hpost (List.mem_singleton.mp hmethod)
  | live => exact .spared (spared_of_answer state (by omega) [])
  | ready =>
    apply (readyEndpoint_withstands frame state down).mono
    rintro fault rfl
    rw [Route.fitsPath_plain] at hfits
    have hat : IsAt frame.request.path "/health/ready" := of_decide_eq_true (Except.ok.inj hfits)
    unfold OutageFault
    rw [if_pos ⟨List.mem_singleton.mp hmethod, hat⟩]

/-- What the routes leave of a request; where an outage spares it, the route is the same as well. -/
inductive DispatchWithstands (request : Request) (state : State Data) (down : List Name)
    (under calm : Reply Data × Option String) : Prop where
  | spared (h : Spared down under.1 calm.1) (route : under.2 = calm.2)
  | cut (fault : Fault) (hends : OutageFault request fault)
      (h : Unreached (withDown state down) fault under.1)

theorem dispatch_withstands (app : Application) (frame : Frame) (state : State Data)
    (down : List Name) :
    DispatchWithstands frame.request state down
      (dispatch app.service.routes frame (withDown state down))
      (dispatch app.service.routes frame (withDown state [])) := by
  unfold dispatch
  cases hfind : Route.find app.service.routes frame.request with
  | error fault =>
    exact .spared (spared_of_fault state (by show (500 : Int) ≠ 503; omega) []) rfl
  | ok found =>
    cases found with
    | route r =>
      obtain ⟨hr, hfits, hmethod⟩ := Route.of_find hfind
      cases endpoint_withstands hr hfits hmethod state down with
      | spared h => exact .spared h rfl
      | cut fault hends h => exact .cut fault hends h
    | otherMethod r =>
      exact .spared (spared_of_fault state (by show (405 : Int) ≠ 503; omega) []) rfl
    | otherPath path =>
      refine .spared ⟨rfl, fun response h => ?_, fun fault h => ?_⟩ rfl
      · have hredirect : redirectTo frame.request path = .ok response := h
        unfold redirectTo at hredirect
        split at hredirect
        · cases hredirect
        · cases hredirect
          show (307 : Int) ≠ 503
          omega
      · have hredirect : redirectTo frame.request path = .error fault := h
        unfold redirectTo at hredirect
        split at hredirect
        · cases hredirect
          show (500 : Int) ≠ 503
          omega
        · cases hredirect
    | nothing =>
      exact .spared (spared_of_fault state (by show (404 : Int) ≠ 503; omega) []) rfl

/-! ## Requests that the outage spares -/

theorem routed_spared {frame : Frame}
    (h : Spared down (dispatch app.service.routes (inside frame) (withDown state down)).1
      (dispatch app.service.routes (inside frame) (withDown state [])).1)
    (route : (dispatch app.service.routes (inside frame) (withDown state down)).2 =
      (dispatch app.service.routes (inside frame) (withDown state [])).2) :
    routed app frame (withDown state down) =
      { routed app frame (withDown state []) with
        state := withDown (routed app frame (withDown state [])).state down } := by
  have hpair : dispatch app.service.routes (inside frame) (withDown state down) =
      ({ (dispatch app.service.routes (inside frame) (withDown state [])).1 with
          state := withDown
            (dispatch app.service.routes (inside frame) (withDown state [])).1.state down },
        (dispatch app.service.routes (inside frame) (withDown state [])).2) :=
    Prod.ext h.same route
  unfold routed router
  rw [hpair]

theorem handler_spared {frame : Frame}
    (h : routed app frame (withDown state down) =
      { routed app frame (withDown state []) with
        state := withDown (routed app frame (withDown state [])).state down }) :
    app.service.handler frame (withDown state down) =
      { app.service.handler frame (withDown state []) with
        state := withDown (app.service.handler frame (withDown state [])).state down } := by
  cases hreadable : frame.request.addressFault? with
  | some fault =>
    rw [handler_of_address app _ _ hreadable, handler_of_address app _ _ hreadable]
    rfl
  | none =>
    rw [handler_of_readable app _ _ hreadable, handler_of_readable app _ _ hreadable, h]
    rfl

theorem serve_spared (request : Request) (fresh : Grant.Fresh) (seconds : Double)
    (h : app.service.handler (.enter request fresh seconds) (withDown state down) =
      { app.service.handler (.enter request fresh seconds) (withDown state []) with
        state := withDown
          (app.service.handler (.enter request fresh seconds) (withDown state [])).state down }) :
    app.serve request fresh seconds (withDown state down) =
      { app.serve request fresh seconds (withDown state []) with
        state := withDown (app.serve request fresh seconds (withDown state [])).state down } := by
  unfold Application.serve Http.Service.serve
  rw [h]
  generalize app.service.handler (.enter request fresh seconds) (withDown state []) = outcome
  obtain ⟨answer, _, _, _, _, noted⟩ := outcome
  cases answer with
  | ok response => rfl
  | error fault =>
    simp only
    cases Failure.unexpectedCall (Frame.enter request fresh seconds).request noted fault with
    | ok call => rfl
    | error other => rfl

theorem sent_status (app : Application) (frame : Frame) {result : Except Fault Response}
    (response : ∀ response, result = .ok response → response.status ≠ 503)
    (fault : ∀ fault, result = .error fault → fault.status ≠ 503) :
    (sent app frame (answered app (inside frame) result)).status ≠ 503 := by
  cases result with
  | ok answer => exact response answer rfl
  | error cause =>
    have hcause := fault cause rfl
    have hstatus := status_of_sent app frame cause
    omega

/-! ## Requests that it does not spare -/

/-- The code that the callers are told in an outage. -/
def outageCode (request : Request) : String :=
  if request.Is "GET" "/health/ready" then Failure.serverError else "temporarily_unavailable"

/-- The response tells of an outage: it does not ask the client to authenticate. -/
structure Unavailable (request : Request) (response : Response) : Prop where
  status : response.status = 503
  unchallenged : response.headers.lookup "www-authenticate" = none
  body : ∃ description, response.body = .json (Failure.body (outageCode request) description)

theorem handle_outage {request : Request} {fault : Fault} (noted : Option Json)
    (policy : Failure.Policy) (readable : request.addressFault? = none)
    (h : OutageFault request fault) :
    ∃ description calls,
      Failure.handle policy request noted fault =
          (calls, .ok
            { status := 503, headers := [("content-type", "application/json")]
              body := .json (Failure.body (outageCode request) description) }) ∧
        ∀ call ∈ calls, ¬ FailedRecognition call := by
  unfold OutageFault at h
  unfold outageCode
  by_cases hready : request.Is "GET" "/health/ready"
  · rw [if_pos hready] at h ⊢
    rw [h]
    exact ⟨_, _, rfl, fun _ hc => absurd hc List.not_mem_nil⟩
  · rw [if_neg hready] at h ⊢
    obtain ⟨u, rfl⟩ := h
    unfold Fault.ofUnreachable Failure.handle Failure.report
    rw [readable]
    refine ⟨_, _, rfl, fun call hc => ?_⟩
    rw [List.mem_singleton.mp hc]
    exact Recognition.not_failed_of_event (by simp)

/-- A response without a challenge has none as it leaves the layers. -/
theorem unchallenged_dressed (frame : Frame) {response : Response}
    (h : response.headers = [("content-type", "application/json")]) :
    (dressed frame response).headers.lookup "www-authenticate" = none := by
  unfold dressed
  rw [h, Headers.lookup_set_of_ne (by decide)]
  decide

/-- What the router leaves when an endpoint ends for want of a store. -/
theorem routed_unreached (frame : Frame) {fault : Fault}
    (readable : frame.request.addressFault? = none) (outage : OutageFault frame.request fault)
    (h : Unreached state fault (dispatch app.service.routes (inside frame) state).1) :
    ∃ description,
      (routed app frame state).answer = .ok
          { status := 503, headers := [("content-type", "application/json")]
            body := .json (Failure.body (outageCode frame.request) description) } ∧
        (routed app frame state).state = state ∧
        ∀ entry ∈ (routed app frame state).logs, ¬ FailedRecognition entry.call := by
  have hrequest : (inside frame).request = frame.request := rfl
  obtain ⟨description, calls, hhandle, hcalls⟩ :=
    handle_outage (inside frame).noted app.service.policy readable outage
  refine ⟨description, ?_, ?_, fun entry he => ?_⟩
  · unfold routed router
    simp only [h.result, hrequest, hhandle]
  · rw [routed_state]
    exact h.state
  · unfold routed router at he
    simp only [h.result, hrequest, hhandle, Log.within, List.mem_map] at he
    obtain ⟨call, hc, rfl⟩ := he
    exact (List.mem_append.mp hc).elim (h.calls call) (hcalls call)

/-- Whatever stores are out of reach, a request is served as it is with all stores at hand, and not
as an outage, or it is answered that the service is unavailable; and then nothing is stored, no
token request is counted, and nothing in the log tells that a client was not recognised. -/
theorem outages_leave_nothing (app : Application) (state : State Data) (down : List Name)
    (request : Request) (fresh : Grant.Fresh) (seconds : Double) :
    (app.serve request fresh seconds (withDown state down) =
          { app.serve request fresh seconds (withDown state []) with
            state := withDown (app.serve request fresh seconds (withDown state [])).state down } ∧
        (app.serve request fresh seconds (withDown state down)).response.map (·.status) ≠
          some 503) ∨
      ∃ response,
        (app.serve request fresh seconds (withDown state down)).response = some response ∧
          Unavailable request response ∧
          (app.serve request fresh seconds (withDown state down)).state.data =
            (withDown state down).data ∧
          (app.serve request fresh seconds (withDown state down)).state.registry.outcomes =
            state.registry.outcomes ∧
          ∀ entry ∈ (app.serve request fresh seconds (withDown state down)).logs,
            ¬ FailedRecognition entry.call := by
  cases hreadable : request.addressFault? with
  | some fault =>
    -- The layers break before any store is asked, so both runs are one.
    have hhandler (down : List Name) :=
      handler_of_address app (.enter request fresh seconds) (withDown state down) hreadable
    refine .inl ⟨serve_spared request fresh seconds ?_, ?_⟩
    · rw [hhandler, hhandler]
      rfl
    · rw [(serve_of_address app hreadable fresh seconds _).1]
      simp
  | none =>
    rcases dispatch_withstands app (inside (.enter request fresh seconds)) state down with
      ⟨hspared, hroute⟩ | ⟨fault, houtage, hunreached⟩
    · refine .inl ⟨serve_spared request fresh seconds
        (handler_spared (routed_spared hspared hroute)), ?_⟩
      have hresult : (replied app (.enter request fresh seconds) (withDown state down)).result =
          (replied app (.enter request fresh seconds) (withDown state [])).result := by
        unfold replied
        rw [hspared.same]
      rw [(serve_of_readable app hreadable fresh seconds _).1, routed_answer, hresult,
        Option.map_some, ne_eq, Option.some.injEq]
      exact sent_status app (.enter request fresh seconds) hspared.response hspared.fault
    -- Only the layers act on the response of an outage, and none of them takes it for another.
    · right
      obtain ⟨description, hanswer, hstate, hlogs⟩ :=
        routed_unreached (.enter request fresh seconds) hreadable houtage hunreached
      obtain ⟨hresponse, hdata, houtcomes, hall⟩ := serve_of_answer app hreadable hanswer
      refine ⟨_, hresponse, ⟨rfl, unchallenged_dressed _ rfl, description, rfl⟩, ?_, ?_, ?_⟩
      · rw [hdata, hstate]
      · rw [houtcomes, hstate]
        rfl
      · intro entry he
        rw [hall] at he
        rcases List.mem_append.mp he with he | he
        · exact hlogs entry he
        · rw [List.mem_singleton.mp he]
          exact Recognition.not_failed_of_event (by simp [Layer.completedCall])

end TokenIssuer.Service
