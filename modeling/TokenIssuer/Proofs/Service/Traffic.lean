import TokenIssuer.Proofs.Exposition
import TokenIssuer.Proofs.Service.Hardening
import TokenIssuer.Proofs.Service.TokenCounts

/-!
The log, the counts and the answers of the requests. Of every request that is answered all three
tell the same status, so that the counts are those of the answers.
-/

namespace TokenIssuer.Service

open Http Store

variable {app : Application} {frame : Frame} {state : State Data}

/-! ## The label of a path -/

/-- The paths that there are routes for. -/
def templates : List String :=
  ["/metrics", "/token", "/introspect", "/health/live", "/health/ready"]

/-- What a request is counted under: the path of its route, or else its own path. -/
def pathLabel (request : Request) : String :=
  (templates.find? fun plain => IsAt request.path plain).getD request.shownPath

theorem find?_templates {path plain : String} (h : plain ∈ templates) (fits : IsAt path plain) :
    (templates.find? fun plain => IsAt path plain) = some plain := by
  simp only [templates, List.mem_cons, List.not_mem_nil, or_false] at h
  rcases h with rfl | rfl | rfl | rfl | rfl <;> rcases fits with rfl | rfl <;> decide

theorem shownPath_of_page {request : Request} {page : Page} (h : IsAt request.path page.path) :
    request.shownPath = page.path := by
  unfold Request.shownPath
  rcases h with hpath | hpath <;> rw [hpath] <;> cases page <;> decide

/-- Where a route is for the path, it is counted under the path of the route. -/
theorem pathLabel_of_route {request : Request} {r : Route Data} (hr : r ∈ app.service.routes)
    (h : IsAt request.path r.template.text) : pathLabel request = r.template.text := by
  have hown (hmem : r.template.text ∈ templates) : pathLabel request = r.template.text := by
    rw [pathLabel, find?_templates hmem h, Option.getD_some]
  cases mem_routes_iff.mp hr with
  | page page =>
    have hpage : IsAt request.path page.path := h
    have hnone : (templates.find? fun plain => IsAt request.path plain) = none := by
      rcases hpage with hpath | hpath <;> rw [hpath] <;> cases page <;> decide
    rw [pathLabel, hnone, Option.getD_none]
    exact shownPath_of_page hpage
  | counts => exact hown (by decide)
  | token => exact hown (by decide : "/token" ∈ templates)
  | introspection => exact hown (by decide)
  | live => exact hown (by decide)
  | ready => exact hown (by decide)

theorem pathLabel_of_unfit {request : Request}
    (h : ∀ r ∈ app.service.routes, r.fitsPath request.path = .ok false) :
    pathLabel request = request.shownPath := by
  have hnone : (templates.find? fun plain => IsAt request.path plain) = none := by
    have htexts : (Application.routes app.rules).map (fun r => r.template.text) = templates := rfl
    rw [List.find?_eq_none, ← htexts]
    intro plain hplain
    obtain ⟨r, hr, rfl⟩ := List.mem_map.mp hplain
    have hmem : r ∈ app.service.routes := List.mem_append_right _ hr
    have hunfit := h r hmem
    rw [fitsPath_route hmem, Except.ok.injEq] at hunfit
    rw [hunfit]
    exact Bool.false_ne_true
  rw [pathLabel, hnone, Option.getD_none]

theorem routed_route (app : Application) (frame : Frame) (state : State Data) :
    (routed app frame state).route.getD frame.request.shownPath = pathLabel frame.request := by
  have hdispatch : (routed app frame state).route =
      (dispatch app.service.routes (inside frame) state).2 := by
    unfold routed router
    generalize dispatch app.service.routes (inside frame) state = dispatched
    obtain ⟨⟨result, _, _⟩, _⟩ := dispatched
    cases result <;> rfl
  have hroute {r : Route Data} (hr : r ∈ app.service.routes)
      (hfits : r.fitsPath frame.request.path = .ok true) :
      r.template.text = pathLabel frame.request := by
    rw [fitsPath_route hr, Except.ok.injEq, decide_eq_true_eq] at hfits
    exact (pathLabel_of_route hr hfits).symm
  obtain ⟨found, hfound⟩ := Route.find_total (inside frame).request fun r hr path =>
    ⟨_, fitsPath_route hr path⟩
  rw [hdispatch]
  unfold dispatch
  rw [hfound]
  -- Whatever is found, it is a route whose path is that of the request, or there is none.
  cases found with
  | nothing => exact (pathLabel_of_unfit (Route.unfit_of_find hfound (.inl rfl))).symm
  | otherPath path =>
    exact (pathLabel_of_unfit (Route.unfit_of_find hfound (.inr ⟨path, rfl⟩))).symm
  | otherMethod r =>
    obtain ⟨hr, hfits⟩ := Route.other_of_find hfound
    exact hroute hr hfits
  | route r =>
    obtain ⟨hr, hfits, -⟩ := Route.of_find hfound
    exact hroute hr hfits

/-! ## One request -/

/-- The notes that a request is completed. -/
def completions (logs : List Log.Entry) : List Log.Entry :=
  logs.filter fun entry => entry.call.event = "request_completed"

theorem event_of_made {call : Log.Call} (h : Made frame call) :
    call.event ≠ "request_completed" := by
  -- Every call has an event of its own; only those of audit events are not fixed.
  cases h with
  | audit event known =>
    intro he
    have htype : event.type = "request_completed" := he
    rw [htype] at known
    exact absurd known (by decide)
  | orphan secret =>
    show "client_secret_without_confidential_configuration" ≠ "request_completed"
    decide
  | issued accepted =>
    show "access_token_issued" ≠ "request_completed"
    decide
  | refused principal grant refusal =>
    show "token_request_rejected" ≠ "request_completed"
    decide
  | unauthenticated reported =>
    rw [(Failure.of_report reported).1]
    decide
  | unreachable reported =>
    rw [(Failure.of_report reported).1]
    decide

theorem completions_within_of_made (bound : Log.Fields) {calls : List Log.Call}
    (h : AllMade frame calls) : completions (Log.within bound calls) = [] := by
  unfold completions Log.within
  rw [List.filter_eq_nil_iff]
  intro entry he
  obtain ⟨call, hc, rfl⟩ := List.mem_map.mp he
  rw [decide_eq_true_eq]
  exact event_of_made (h call hc)

theorem completions_serve (app : Application) (state : State Data)
    (readable : frame.request.addressFault? = none) :
    completions (app.service.serve frame state).logs =
      [⟨Layer.completedCall (inside frame) (routed app frame state).answer,
        (inside frame).bound⟩] := by
  have happend (logs more : List Log.Entry) :
      completions (logs ++ more) = completions logs ++ completions more := List.filter_append _ _
  have hrouted := completions_within_of_made (inside frame).bound
    (allMade_routedCalls app frame state)
  have hunhandled (answer : Except Unexpected Response) : completions
      (Log.within (released frame)
        (unhandledCalls frame.request (routed app frame state).noted answer)) = [] := by
    cases answer with
    | ok response => rfl
    | error fault => rfl
  have hwithin (calls more : List Log.Call) : Log.within (inside frame).bound (calls ++ more) =
      Log.within (inside frame).bound calls ++ Log.within (inside frame).bound more :=
    List.map_append
  rw [serve_eq_of_readable app frame state readable]
  -- What is left is the note of the layer that logs.
  simp only [happend, hwithin, hrouted, hunhandled, List.nil_append, List.append_nil]
  rfl

theorem status_sent (app : Application) (frame : Frame) (answer : Except Unexpected Response) :
    (sent app frame answer).status = Layer.statusOf answer := by
  cases answer with
  | ok response => rfl
  | error fault => rfl

/-- The routes count nothing but token requests. -/
theorem requests_replied (app : Application) (frame : Frame) (state : State Data) :
    (replied app frame state).state.registry.requests = state.registry.requests ∧
      (replied app frame state).state.registry.durations = state.registry.durations := by
  -- Requests are counted by a layer; the routes count token requests only.
  by_cases hpost : frame.request.Is "POST" "/token"
  · rw [replied_of_token hpost]
    cases tokenEndpoint_decides app.rules (inside frame) state with
    | decided _ _ _ _ left => rw [left]; exact ⟨rfl, rfl⟩
    | undecided _ _ _ left => rw [left]; exact ⟨rfl, rfl⟩
  · rw [replied_state_of_not_token app hpost]
    exact ⟨rfl, rfl⟩

namespace Serving

/-- What a request is counted under with a status. -/
def traffic (s : Serving) (status : Int) : Metrics.Traffic :=
  ⟨s.request.method, pathLabel s.request, toString status⟩

/-- What a request that is answered is counted under. -/
def traffic? (app : Application) (s : Serving) : Option Metrics.Traffic :=
  (s.served app).response.map fun response => s.traffic response.status

/-- The log, the counts and the answer of a request tell the same status. -/
structure Agrees (app : Application) (s : Serving) (status : Int) : Prop where
  answered : (s.served app).response.map (·.status) = some status
  logged : ∃ entry, completions (s.served app).logs = [entry] ∧
    entry.call.fields.lookup "status_code" = some (.int status)
  counted : ∀ labels, (s.served app).state.registry.requestCount labels =
    s.state.registry.requestCount labels + if s.traffic status = labels then 1 else 0
  timed : ∀ labels, ((s.served app).state.registry.duration labels).count =
    (s.state.registry.duration labels).count + if s.traffic status = labels then 1 else 0

variable {s : Serving}

theorem agrees_of_readable (app : Application) (readable : s.request.addressFault? = none) :
    s.Agrees app (Layer.statusOf (routed app s.frame s.state).answer) := by
  have hreadable : s.frame.request.addressFault? = none := readable
  have hserved : s.served app = app.service.serve s.frame s.state := rfl
  have hlabels : s.traffic (Layer.statusOf (routed app s.frame s.state).answer) =
      { method := s.frame.request.method
        path := (routed app s.frame s.state).route.getD s.frame.request.shownPath
        status := toString (Layer.statusOf (routed app s.frame s.state).answer) } := by
    rw [routed_route]
    rfl
  obtain ⟨hrequests, hdurations⟩ := requests_replied app s.frame s.state
  refine ⟨?_, ⟨_, completions_serve app s.state hreadable, rfl⟩, fun labels => ?_,
    fun labels => ?_⟩
  · rw [hserved, serve_eq_of_readable app s.frame s.state hreadable, Option.map_some, status_sent]
  · rw [hserved, serve_eq_of_readable app s.frame s.state hreadable, hlabels]
    simp only [Metrics.Registry.requestCount_record]
    unfold Metrics.Registry.requestCount
    rw [hrequests]
  · rw [hserved, serve_eq_of_readable app s.frame s.state hreadable, hlabels]
    simp only [Metrics.Registry.count_duration_record]
    unfold Metrics.Registry.duration
    rw [hdurations]

theorem served_of_address (app : Application) {fault : Utf8.Fault}
    (h : s.request.addressFault? = some fault) :
    (s.served app).response = none ∧ (s.served app).logs = [] ∧
      (s.served app).state = s.state := by
  have hserved : s.served app = app.service.serve s.frame s.state := rfl
  rw [hserved, serve_eq_of_address app s.frame s.state h]
  exact ⟨rfl, rfl, rfl⟩

/-- Log, counts and answer tell one status of exactly the requests whose address can be told. -/
theorem agrees_iff (app : Application) (s : Serving) :
    (∃ status, s.Agrees app status) ↔ s.request.addressFault? = none := by
  constructor
  · rintro ⟨status, hagrees⟩
    cases h : s.request.addressFault? with
    | none => rfl
    | some fault =>
      have hanswered := hagrees.answered
      rw [(served_of_address app h).1] at hanswered
      cases hanswered
  · exact fun readable => ⟨_, agrees_of_readable app readable⟩

theorem Agrees.traffic? {status : Int} (h : s.Agrees app status) :
    s.traffic? app = some (s.traffic status) := by
  have hanswered := h.answered
  unfold Serving.traffic?
  cases hresponse : (s.served app).response with
  | none =>
    rw [hresponse] at hanswered
    cases hanswered
  | some response =>
    rw [hresponse, Option.map_some, Option.some.injEq] at hanswered
    rw [Option.map_some, hanswered]

theorem traffic?_of_address {fault : Utf8.Fault} (h : s.request.addressFault? = some fault) :
    s.traffic? app = none := by
  unfold traffic?
  rw [(served_of_address app h).1, Option.map_none]

theorem requestCount_served (app : Application) (s : Serving) (labels : Metrics.Traffic) :
    (s.served app).state.registry.requestCount labels =
      s.state.registry.requestCount labels + if s.traffic? app = some labels then 1 else 0 := by
  cases h : s.request.addressFault? with
  | none =>
    have hagrees := agrees_of_readable app h
    simp only [hagrees.counted, hagrees.traffic?, Option.some.injEq]
  | some fault =>
    rw [(served_of_address app h).2.2, traffic?_of_address h]
    rfl

theorem count_duration_served (app : Application) (s : Serving) (labels : Metrics.Traffic) :
    ((s.served app).state.registry.duration labels).count =
      (s.state.registry.duration labels).count +
        if s.traffic? app = some labels then 1 else 0 := by
  cases h : s.request.addressFault? with
  | none =>
    have hagrees := agrees_of_readable app h
    simp only [hagrees.timed, hagrees.traffic?, Option.some.injEq]
  | some fault =>
    rw [(served_of_address app h).2.2, traffic?_of_address h]
    rfl

theorem requestTotal_served (app : Application) (s : Serving) :
    (s.served app).state.registry.requestTotal =
      s.state.registry.requestTotal + if (s.served app).response.isSome then 1 else 0 := by
  cases h : s.request.addressFault? with
  | none =>
    have hserved : s.served app = app.service.serve s.frame s.state := rfl
    have hrequests := (requests_replied app s.frame s.state).1
    rw [hserved, serve_eq_of_readable app s.frame s.state h, Option.isSome_some, if_pos rfl]
    simp only [Metrics.Registry.requestTotal_record]
    unfold Metrics.Registry.requestTotal
    rw [hrequests]
  | some fault =>
    obtain ⟨hresponse, -, hstate⟩ := served_of_address app h
    rw [hresponse, hstate]
    rfl

end Serving

/-! ## Runs -/

theorem response_metrics (app : Application) (state : State Data)
    (readable : frame.request.addressFault? = none) (get : frame.request.Is "GET" "/metrics") :
    (app.service.serve frame state).response =
      some (dressed frame (.plain state.registry.text Metrics.mediaType)) := by
  rw [response_serve app state readable, replied_of_metrics get]
  rfl

/-- In every run from empty counts the log, the counts and the answer of a request tell one status
exactly if the address of the request can be told. The count of a method, a path and a status, and
the number of durations that were summed for them, are the number of requests that were answered so;
and whoever asks for the counts is shown as many requests as were answered before. -/
theorem requests_counted_as_answered (app : Application) (stores : Stores) (steps : List Step) :
    (∀ s ∈ app.servings ⟨.empty, stores⟩ steps,
        (∃ status, s.Agrees app status) ↔ s.request.addressFault? = none) ∧
      (∀ labels, (app.run ⟨.empty, stores⟩ steps).registry.requestCount labels =
          (app.servings ⟨.empty, stores⟩ steps).countP fun s => s.traffic? app = some labels) ∧
      (∀ labels, ((app.run ⟨.empty, stores⟩ steps).registry.duration labels).count =
          (app.servings ⟨.empty, stores⟩ steps).countP fun s => s.traffic? app = some labels) ∧
      ∀ request fresh seconds, request.Is "GET" "/metrics" → request.addressFault? = none →
        ∃ response text,
          (app.serve request fresh seconds (app.run ⟨.empty, stores⟩ steps)).response =
              some response ∧
            response.status = 200 ∧ response.body = .text text ∧
            (Metrics.samples Metrics.requestsName text).sum =
              (app.servings ⟨.empty, stores⟩ steps).countP fun s =>
                (s.served app).response.isSome := by
  refine ⟨fun s _ => s.agrees_iff app, fun labels => ?_, fun labels => ?_,
    fun request fresh seconds get readable => ?_⟩
  · rw [app.count_run_of (·.requestCount labels) fun s => s.requestCount_served app labels]
    exact Nat.zero_add _
  · rw [app.count_run_of (fun registry => (registry.duration labels).count)
      fun s => s.count_duration_served app labels]
    exact Nat.zero_add _
  · refine ⟨_, _, response_metrics app _ readable get, rfl, rfl, ?_⟩
    rw [Metrics.sum_samples_text, app.count_run (·.requestTotal) _
      fun s => s.requestTotal_served app]
    exact Nat.zero_add _

/-- Whoever asks for the counts after one request is shown one. -/
theorem requests_counted_as_answered_demo :
    ∃ response text,
      (Application.standard.serve Demo.countsRequest Demo.fresh (.signedZero false)
        (Application.standard.run ⟨.empty, .empty⟩
          [.serve (Demo.liveRequest "") Demo.fresh (.signedZero false)])).response =
            some response ∧
        response.body = .text text ∧ (Metrics.samples Metrics.requestsName text).sum = 1 := by
  obtain ⟨-, -, -, hshown⟩ := requests_counted_as_answered .standard .empty
    [.serve (Demo.liveRequest "") Demo.fresh (.signedZero false)]
  obtain ⟨response, text, hresponse, -, hbody, hsum⟩ :=
    hshown Demo.countsRequest Demo.fresh (.signedZero false) ⟨rfl, .inl rfl⟩ rfl
  have hanswered : (Serving.served .standard ⟨⟨.empty, .empty⟩, Demo.liveRequest "", Demo.fresh,
      .signedZero false⟩).response.isSome = true := by
    have hreadable : (Demo.liveRequest "").addressFault? = none := rfl
    exact Option.isSome_iff_exists.mpr ⟨_, (serve_of_readable .standard hreadable _ _ _).1⟩
  refine ⟨response, text, hresponse, hbody, hsum.trans ?_⟩
  rw [Application.servings, Application.servings, List.countP_singleton, hanswered]
  rfl

/-- A request with a query that is no text is not answered; it is neither logged nor counted. -/
theorem unreadable_request_goes_unnoticed :
    ∃ s ∈ Application.standard.servings ⟨.empty, .empty⟩
        [.serve (Demo.liveRequest "ÿ") Demo.fresh (.signedZero false)],
      (s.served .standard).response = none ∧ completions (s.served .standard).logs = [] ∧
        (s.served .standard).state.registry = .empty ∧
        ¬ ∃ status, s.Agrees .standard status := by
  let s : Serving := ⟨⟨.empty, .empty⟩, Demo.liveRequest "ÿ", Demo.fresh, .signedZero false⟩
  have hfault : ∃ fault, (Demo.liveRequest "ÿ").addressFault? = some fault := ⟨_, rfl⟩
  obtain ⟨fault, hfault⟩ := hfault
  obtain ⟨hresponse, hlogs, hstate⟩ := s.served_of_address .standard hfault
  refine ⟨s, List.mem_cons_self, hresponse, by rw [hlogs]; rfl, by rw [hstate], ?_⟩
  rw [Serving.agrees_iff, hfault]
  exact Option.some_ne_none fault

end TokenIssuer.Service
