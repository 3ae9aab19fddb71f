import TokenIssuer.Proofs.Service.AuditEvents

/-!
The audit trail of a request. One event tells how its client was recognised, and at most one more
what was decided or looked up for it, in agreement with the answer.
-/

namespace TokenIssuer.Service

open Http Store

variable {frame : Frame}

/-! ## The trail of a request -/

theorem among_handlingCalls (app : Application) (frame : Frame) (result : Except Fault Response) :
    Audit.among (handlingCalls app frame result) = [] := by
  cases result with
  | ok response => rfl
  | error fault =>
    exact List.map_eq_nil_iff.mp
      (Failure.events_handle app.service.policy frame.request frame.noted fault)

theorem recorded_serve (app : Application) (state : State Data)
    (readable : frame.request.addressFault? = none) :
    Audit.recorded (app.service.serve frame state).logs =
      Audit.among (replied app frame state).calls := by
  -- The layers log calls of two names, and neither is the type of an audit event.
  have hcompleted (answer : Except Unexpected Response) :
      Audit.among [Layer.completedCall (inside frame) answer] = [] := by
    apply Audit.among_eq_nil
    intro call hcall
    rw [List.mem_singleton.mp hcall]
    show "request_completed" ∉ Audit.types
    decide
  have hunhandled (noted : Option Json) (answer : Except Unexpected Response) :
      Audit.among (unhandledCalls frame.request noted answer) = [] := by
    cases answer with
    | ok response => rfl
    | error fault =>
      apply Audit.among_eq_nil
      intro call hcall
      rw [List.mem_singleton.mp hcall]
      show "unhandled_exception" ∉ Audit.types
      decide
  rw [serve_eq_of_readable app frame state readable]
  simp only [Audit.recorded_append, Audit.recorded_within, Audit.among_append, routedCalls,
    among_handlingCalls, hcompleted, hunhandled, List.append_nil]

theorem recorded_of_address (app : Application) (state : State Data) {fault : Utf8.Fault}
    (h : frame.request.addressFault? = some fault) :
    Audit.recorded (app.service.serve frame state).logs = [] := by
  rw [serve_eq_of_address app frame state h]
  rfl

theorem recorded_token (app : Application) (state : State Data)
    (readable : frame.request.addressFault? = none) (post : frame.request.Is "POST" "/token") :
    Audit.recorded (app.service.serve frame state).logs =
      Audit.among (tokenEndpoint app.rules (inside frame) state).calls := by
  rw [recorded_serve app state readable, replied_of_token post]

theorem recorded_introspect (app : Application) (state : State Data)
    (readable : frame.request.addressFault? = none)
    (post : frame.request.Is "POST" "/introspect") :
    Audit.recorded (app.service.serve frame state).logs =
      Audit.among (introspectEndpoint (inside frame) state).calls := by
  rw [recorded_serve app state readable, replied_of_introspect post]

theorem replied_calls_of_other (app : Application) (state : State Data)
    (token : ¬ frame.request.Is "POST" "/token")
    (introspect : ¬ frame.request.Is "POST" "/introspect") :
    (replied app frame state).calls = [] := by
  cases replies_replied app frame state with
  | counts _ same => rw [same]; rfl
  | token post _ => exact absurd post token
  | introspection post _ => exact absurd post introspect
  | live _ same => rw [same]; rfl
  | ready _ same => rw [same, readyEndpoint_calls]
  | page _ _ same => rw [same]; rfl
  | nowhere _ same _ => rw [same]; rfl

theorem recorded_of_other (app : Application) (state : State Data)
    (token : ¬ frame.request.Is "POST" "/token")
    (introspect : ¬ frame.request.Is "POST" "/introspect") :
    Audit.recorded (app.service.serve frame state).logs = [] := by
  cases hreadable : frame.request.addressFault? with
  | some fault => exact recorded_of_address app state hreadable
  | none =>
    rw [recorded_serve app state hreadable, replied_calls_of_other app state token introspect]
    rfl

theorem of_mem_recorded (app : Application) (state : State Data) {call : Log.Call}
    (hc : call ∈ Audit.recorded (app.service.serve frame state).logs) :
    frame.request.addressFault? = none ∧
      (frame.request.Is "POST" "/token" ∧
          call ∈ Audit.among (tokenEndpoint app.rules (inside frame) state).calls ∨
        frame.request.Is "POST" "/introspect" ∧
          call ∈ Audit.among (introspectEndpoint (inside frame) state).calls) := by
  cases hreadable : frame.request.addressFault? with
  | some fault =>
    rw [recorded_of_address app state hreadable] at hc
    exact absurd hc List.not_mem_nil
  | none =>
    refine ⟨rfl, ?_⟩
    by_cases htoken : frame.request.Is "POST" "/token"
    · exact .inl ⟨htoken, recorded_token app state hreadable htoken ▸ hc⟩
    · by_cases hintrospect : frame.request.Is "POST" "/introspect"
      · exact .inr ⟨hintrospect, recorded_introspect app state hreadable hintrospect ▸ hc⟩
      · rw [recorded_of_other app state htoken hintrospect] at hc
        exact absurd hc List.not_mem_nil

/-! ## Agreement with the answer -/

/-- The endpoint that a request finds ends for want of a store. -/
def StoreFails (app : Application) (frame : Frame) (state : State Data) : Prop :=
  ∃ fault, OutOfReach fault ∧ (replied app frame state).result = .error fault

/-- A form sent to an endpoint that recognises clients: the identifier that is looked at beside the
header, and what recognition ends in. -/
inductive Tries (stores : Stores) (frame : Frame) :
    Option String → Except Fault Client.Principal → Prop where
  | exchange {form : Form} (post : frame.request.Is "POST" "/token")
      (formed : Form.read frame.request = .ok form) :
      Tries stores frame (form.lookup "client_id")
        (Recognition.ofRequest frame (Authentication.ofStores stores) form).result
  | introspection {form : Form} (post : frame.request.Is "POST" "/introspect")
      (formed : Form.read frame.request = .ok form) :
      Tries stores frame none
        (Recognition.ofConfidential frame (Authentication.ofStores stores)).result

/-- A form sent for tokens by a client that is recognised. -/
structure Exchanges (stores : Stores) (frame : Frame) (form : Form)
    (principal : Client.Principal) : Prop where
  post : frame.request.Is "POST" "/token"
  readable : frame.request.addressFault? = none
  formed : Form.read frame.request = .ok form
  recognised :
    (Recognition.ofRequest frame (Authentication.ofStores stores) form).result = .ok principal

/-- The audit events of a served request agree with its answer. -/
structure AuditMatches (app : Application) (frame : Frame) (state : State Data)
    (served : Served Data) : Prop where
  /-- One event tells of the attempt to be recognised. -/
  attempt : ∀ identifier result, Tries state.data (inside frame) identifier result →
    served.raised = none → ¬ StoreFails app frame state →
    ∃ event, Attempted (frame.request.header? "authorization") identifier result event ∧
      Audit.Entered frame.request (inside frame).noted [event]
        (Audit.ofType "client.authentication" (Audit.recorded served.logs))
  unformed : ∀ fault, Form.read frame.request = .error fault → Audit.recorded served.logs = []
  /-- One event tells of the decision, which was made for the client of the attempt. -/
  exchange : ∀ form principal, Exchanges state.data (inside frame) form principal →
    ¬ StoreFails app frame state →
    ∃ attempt event response,
      Attempted (frame.request.header? "authorization") (form.lookup "client_id") (.ok principal)
          attempt ∧
        served.response = some response ∧ Exchanged form principal response event ∧
        Audit.Entered frame.request (inside frame).noted [attempt, event]
          (Audit.recorded served.logs)
  noExchange : ∀ call ∈ Audit.recorded served.logs, call.event = "token.exchange" →
    (∃ form principal, Exchanges state.data (inside frame) form principal) ∧
      ¬ StoreFails app frame state
  /-- One event tells what was looked up, for the client of the attempt. -/
  introspection : ∀ response, frame.request.Is "POST" "/introspect" →
    served.response = some response → response.status = 200 →
    ∃ client active attempt event,
      Attempted (frame.request.header? "authorization") none (.ok client) attempt ∧
        Introspected client active response event ∧
        (event.call frame.request (inside frame).noted).fields.lookup "metadata" =
          some (.obj [("active", .bool active)]) ∧
        Audit.Entered frame.request (inside frame).noted [attempt, event]
          (Audit.recorded served.logs)
  noIntrospection : ∀ call ∈ Audit.recorded served.logs, call.event = "token.introspection" →
    frame.request.Is "POST" "/introspect" ∧ served.response.map (·.status) = some 200
  other : ¬ frame.request.Is "POST" "/token" → ¬ frame.request.Is "POST" "/introspect" →
    Audit.recorded served.logs = []
  /-- What worked is logged as information, and everything else as a warning. -/
  level : ∀ call ∈ Audit.recorded served.logs, ∃ success : Bool,
    call.fields.lookup "success" = some (.bool success) ∧
      call.method = if success then .info else .warning

theorem handled_of_raised (app : Application) (state : State Data)
    (readable : frame.request.addressFault? = none)
    (handled : (app.service.serve frame state).raised = none) (fault : Unexpected) :
    (replied app frame state).result ≠ .error (.unexpected fault) := by
  intro h
  rw [serve_eq_of_readable app frame state readable] at handled
  simp only [routed_answer, h, answered, Failure.handle] at handled
  cases handled

theorem token_attempted {form : Form} (app : Application) (state : State Data)
    (readable : frame.request.addressFault? = none) (post : frame.request.Is "POST" "/token")
    (formed : Form.read frame.request = .ok form)
    (handled : (app.service.serve frame state).raised = none)
    (reached : ¬ StoreFails app frame state) :
    ∃ event, Attempted (frame.request.header? "authorization") (form.lookup "client_id")
        (Recognition.ofRequest (inside frame) (Authentication.ofStores state.data) form).result
        event ∧
      Audit.ofType "client.authentication"
          (Audit.recorded (app.service.serve frame state).logs) =
        [event.call frame.request (inside frame).noted] := by
  have hreplied : replied app frame state = tokenEndpoint app.rules (inside frame) state :=
    replied_of_token post state
  have hunhandled := handled_of_raised app state readable handled
  unfold StoreFails at reached
  rw [hreplied] at reached hunhandled
  rw [recorded_token app state readable post]
  refine (tokenEndpoint_trailed app.rules (inside frame) state).attempted
    (fun form => Recognition.audited_ofRequest (inside frame) _ form) ?_ formed
    (fun fault h hr => reached ⟨fault, h, hr⟩) hunhandled
  rintro form principal response event ⟨decision, -, rfl⟩
  rw [type_decisionEvent]
  decide

theorem introspect_attempted {form : Form} (app : Application) (state : State Data)
    (readable : frame.request.addressFault? = none)
    (post : frame.request.Is "POST" "/introspect")
    (formed : Form.read frame.request = .ok form)
    (handled : (app.service.serve frame state).raised = none)
    (reached : ¬ StoreFails app frame state) :
    ∃ event, Attempted (frame.request.header? "authorization") none
        (Recognition.ofConfidential (inside frame) (Authentication.ofStores state.data)).result
        event ∧
      Audit.ofType "client.authentication"
          (Audit.recorded (app.service.serve frame state).logs) =
        [event.call frame.request (inside frame).noted] := by
  have hreplied : replied app frame state = introspectEndpoint (inside frame) state :=
    replied_of_introspect post state
  have hunhandled := handled_of_raised app state readable handled
  unfold StoreFails at reached
  rw [hreplied] at reached hunhandled
  rw [recorded_introspect app state readable post]
  refine (introspectEndpoint_trailed (inside frame) state).attempted
    (fun _ => Recognition.audited_ofConfidential (inside frame) _) ?_ formed
    (fun fault h hr => reached ⟨fault, h, hr⟩) hunhandled
  rintro form principal response event ⟨told, -, -, rfl⟩
  show "token.introspection" ≠ _
  decide

theorem recorded_of_unformed (app : Application) (state : State Data) {fault : Form.Fault}
    (h : Form.read frame.request = .error fault) :
    Audit.recorded (app.service.serve frame state).logs = [] := by
  have hform : Form.read (inside frame).request = .error fault := h
  rw [List.eq_nil_iff_forall_not_mem]
  intro call hc
  obtain ⟨-, ⟨-, hc⟩ | ⟨-, hc⟩⟩ := of_mem_recorded app state hc
  · rw [(tokenEndpoint_guarded app.rules).calls_of_unread hform] at hc
    exact absurd hc List.not_mem_nil
  · rw [introspectEndpoint_guarded.calls_of_unread hform] at hc
    exact absurd hc List.not_mem_nil

theorem token_exchanged {form : Form} {principal : Client.Principal} (app : Application)
    (state : State Data) (h : Exchanges state.data (inside frame) form principal)
    (reached : ¬ StoreFails app frame state) :
    ∃ attempt event response,
      Attempted (frame.request.header? "authorization") (form.lookup "client_id") (.ok principal)
          attempt ∧
        (app.service.serve frame state).response = some response ∧
        Exchanged form principal response event ∧
        Audit.recorded (app.service.serve frame state).logs =
          [attempt.call frame.request (inside frame).noted,
            event.call frame.request (inside frame).noted] := by
  have hpost : frame.request.Is "POST" "/token" := h.post
  have hreadable : frame.request.addressFault? = none := h.readable
  have hreplied : replied app frame state = tokenEndpoint app.rules (inside frame) state :=
    replied_of_token hpost state
  unfold StoreFails at reached
  rw [hreplied] at reached
  obtain ⟨response, event, hresult, ⟨decision, rfl, rfl⟩, hcalls⟩ :=
    (tokenEndpoint_trailed app.rules (inside frame) state).followed_of h.formed h.recognised
      fun fault hf hr => reached ⟨fault, hf, hr⟩
  obtain ⟨attempt, hattempt, hfirst⟩ :=
    (Recognition.audited_ofRequest (inside frame) _ form).of_ok h.recognised
  refine ⟨attempt, _, _, hattempt, ?_, exchanged_decided frame form principal decision, ?_⟩
  · rw [response_serve app state hreadable, hreplied, hresult]
    rfl
  · rw [recorded_token app state hreadable hpost, hcalls, hfirst]
    rfl

theorem introspectEndpoint_status (frame : Frame) (state : State Data) {fault : Fault}
    (h : (introspectEndpoint frame state).result = .error fault) : 400 ≤ fault.status :=
  (introspectEndpoint_trailed frame state).status
    (fun _ _ => Recognition.status_of_ofConfidential) (fun _ may => may) h

theorem token_introspected {response : Response} (app : Application) (state : State Data)
    (post : frame.request.Is "POST" "/introspect")
    (answer : (app.service.serve frame state).response = some response)
    (status : response.status = 200) :
    ∃ client active attempt event,
      Attempted (frame.request.header? "authorization") none (.ok client) attempt ∧
        Introspected client active response event ∧
        (event.call frame.request (inside frame).noted).fields.lookup "metadata" =
          some (.obj [("active", .bool active)]) ∧
        Audit.recorded (app.service.serve frame state).logs =
          [attempt.call frame.request (inside frame).noted,
            event.call frame.request (inside frame).noted] := by
  cases hreadable : frame.request.addressFault? with
  | some fault =>
    rw [serve_eq_of_address app frame state hreadable] at answer
    cases answer
  | none =>
    rw [response_serve app state hreadable, replied_of_introspect post] at answer
    obtain rfl := Option.some.inj answer
    cases hresult : (introspectEndpoint (inside frame) state).result with
    | error fault =>
      -- No fault is answered with 200.
      have hstatus := status_of_sent_fault app frame
        (introspectEndpoint_status (inside frame) state hresult)
      rw [hresult] at status
      omega
    | ok told =>
      obtain ⟨form, client, event, -, hrecognised, ⟨what, hstatus, hbody, rfl⟩, hcalls⟩ :=
        (introspectEndpoint_trailed (inside frame) state).of_ok hresult
      obtain ⟨attempt, hattempt, hfirst⟩ :=
        (Recognition.audited_ofConfidential (inside frame) _).of_ok hrecognised
      have hintrospected := introspected_told frame client hstatus hbody
      refine ⟨client, _, attempt, _, hattempt, hintrospected, hintrospected.metadata _ _, ?_⟩
      rw [recorded_introspect app state hreadable post, hcalls, hfirst]
      rfl

/-- The audit events of a request, each with what comes along with it. -/
inductive Accounted (app : Application) (frame : Frame) (state : State Data) : Log.Call → Prop where
  | attempt (channel : String) (success : Bool) (client reason : Option String) :
      Accounted app frame state (Recognition.audit (inside frame) channel success client reason)
  | exchange {form : Form} {principal : Client.Principal} {decision : Grant.Decision}
      (exchanges : Exchanges state.data (inside frame) form principal)
      (result : (replied app frame state).result = .ok (decidedResponse decision)) :
      Accounted app frame state
        ((decisionEvent principal (form.lookup "grant_type") decision).call frame.request
          (inside frame).noted)
  | introspection {client : Client.Principal} {active : Bool}
      (post : frame.request.Is "POST" "/introspect")
      (status : (app.service.serve frame state).response.map (·.status) = some 200) :
      Accounted app frame state
        ((Audit.Event.tokenIntrospection client.id.text active).call frame.request
          (inside frame).noted)

theorem accounted_of_mem (app : Application) (state : State Data) {call : Log.Call}
    (hc : call ∈ Audit.recorded (app.service.serve frame state).logs) :
    Accounted app frame state call := by
  obtain ⟨hreadable, ⟨hpost, hc⟩ | ⟨hpost, hc⟩⟩ := of_mem_recorded app state hc
  · rcases (tokenEndpoint_trailed app.rules (inside frame) state).of_mem
        (fun form => Recognition.audited_ofRequest (inside frame) _ form) hc with
      ⟨channel, success, client, reason, rfl⟩ |
      ⟨form, principal, response, event, hformed, hrecognised, hresult, ⟨decision, rfl, rfl⟩, rfl⟩
    -- An event is one of recognition, or it follows what was done for the client.
    · exact .attempt channel success client reason
    · refine .exchange ⟨hpost, hreadable, hformed, hrecognised⟩ ?_
      rw [replied_of_token hpost, hresult]
  · rcases (introspectEndpoint_trailed (inside frame) state).of_mem
        (fun _ => Recognition.audited_ofConfidential (inside frame) _) hc with
      ⟨channel, success, client, reason, rfl⟩ |
      ⟨_, client, response, _, _, _, hresult, ⟨told, hstatus, -, rfl⟩, rfl⟩
    · exact .attempt channel success client reason
    · refine .introspection hpost ?_
      rw [response_serve app state hreadable, replied_of_introspect hpost, hresult]
      exact congrArg some hstatus

theorem exchanges_of_mem (app : Application) (state : State Data) {call : Log.Call}
    (hc : call ∈ Audit.recorded (app.service.serve frame state).logs)
    (exchange : call.event = "token.exchange") :
    (∃ form principal, Exchanges state.data (inside frame) form principal) ∧
      ¬ StoreFails app frame state := by
  cases accounted_of_mem app state hc with
  | attempt => exact absurd exchange (by show "client.authentication" ≠ _; decide)
  | exchange exchanges result =>
    refine ⟨⟨_, _, exchanges⟩, ?_⟩
    rintro ⟨fault, -, hfault⟩
    rw [result] at hfault
    cases hfault
  | introspection => exact absurd exchange (by show "token.introspection" ≠ _; decide)

theorem introspected_of_mem (app : Application) (state : State Data) {call : Log.Call}
    (hc : call ∈ Audit.recorded (app.service.serve frame state).logs)
    (introspection : call.event = "token.introspection") :
    frame.request.Is "POST" "/introspect" ∧
      (app.service.serve frame state).response.map (·.status) = some 200 := by
  cases accounted_of_mem app state hc with
  | attempt => exact absurd introspection (by show "client.authentication" ≠ _; decide)
  | exchange =>
    exact absurd ((type_decisionEvent _ _ _).symm.trans introspection) (by decide)
  | introspection post status => exact ⟨post, status⟩

theorem level_of_mem (app : Application) (state : State Data) {call : Log.Call}
    (hc : call ∈ Audit.recorded (app.service.serve frame state).logs) :
    ∃ success : Bool, call.fields.lookup "success" = some (.bool success) ∧
      call.method = if success then .info else .warning := by
  have hlevel {event : Audit.Event} {success : Bool} (h : event.success = .bool success)
      (request : Request) (noted : Option Json) :
      ∃ success : Bool, (event.call request noted).fields.lookup "success" =
          some (.bool success) ∧
        (event.call request noted).method = if success then .info else .warning := by
    obtain ⟨hmethod, hfield⟩ := Audit.method_call h request noted
    exact ⟨success, hfield, hmethod⟩
  cases accounted_of_mem app state hc with
  | attempt => exact hlevel rfl _ _
  | @exchange form principal decision =>
    obtain ⟨success, hsuccess⟩ :=
      exchanged_success (exchanged_decided frame form principal decision)
    exact hlevel hsuccess _ _
  | introspection => exact hlevel rfl _ _

theorem serve_auditMatches (app : Application) (frame : Frame) (state : State Data) :
    AuditMatches app frame state (app.service.serve frame state) where
  attempt := by
    intro identifier result h handled reached
    -- Where the address cannot be told something is raised.
    cases hreadable : frame.request.addressFault? with
    | some fault =>
      rw [serve_eq_of_address app frame state hreadable] at handled
      cases handled
    | none =>
      cases h with
      | exchange post formed =>
        obtain ⟨event, hattempted, hcalls⟩ :=
          token_attempted app state hreadable post formed handled reached
        exact ⟨event, hattempted, Audit.entered_of_eq hcalls⟩
      | introspection post formed =>
        obtain ⟨event, hattempted, hcalls⟩ :=
          introspect_attempted app state hreadable post formed handled reached
        exact ⟨event, hattempted, Audit.entered_of_eq hcalls⟩
  unformed _ h := recorded_of_unformed app state h
  exchange _ _ h reached := by
    obtain ⟨attempt, event, response, hattempted, hresponse, hexchanged, hcalls⟩ :=
      token_exchanged app state h reached
    exact ⟨attempt, event, response, hattempted, hresponse, hexchanged,
      Audit.entered_of_eq hcalls⟩
  noExchange _ hc h := exchanges_of_mem app state hc h
  introspection _ post answer status := by
    obtain ⟨client, active, attempt, event, hattempted, hintrospected, hmetadata, hcalls⟩ :=
      token_introspected app state post answer status
    exact ⟨client, active, attempt, event, hattempted, hintrospected, hmetadata,
      Audit.entered_of_eq hcalls⟩
  noIntrospection _ hc h := introspected_of_mem app state hc h
  other token introspect := recorded_of_other app state token introspect
  level _ hc := level_of_mem app state hc

/-- Whatever happened before, the audit events of a request agree with its answer. -/
theorem audit_matches_answers (app : Application) (start : State Data) (steps : List Step)
    (request : Request) (fresh : Grant.Fresh) (seconds : Double) :
    AuditMatches app (.enter request fresh seconds) (app.run start steps)
      (app.serve request fresh seconds (app.run start steps)) :=
  serve_auditMatches app (.enter request fresh seconds) (app.run start steps)

/-- The demo client is told of twice when it is given its tokens. -/
theorem audit_matches_answers_demo :
    ∃ stores attempt event response,
      Application.standard.startStores (List.replicate 8 1) ⟨4⟩ = .ok stores ∧
        Attempted (some Demo.authorization) none (.ok (.confidential Demo.confidential)) attempt ∧
        (Application.standard.serve Demo.tokenRequest Demo.fresh (.signedZero false)
          ⟨.empty, stores⟩).response = some response ∧
        Exchanged Demo.tokenForm (.confidential Demo.confidential) response event ∧
        Audit.recorded (Application.standard.serve Demo.tokenRequest Demo.fresh
            (.signedZero false) ⟨.empty, stores⟩).logs =
          [attempt.call Demo.tokenRequest (inside Demo.tokenFrame).noted,
            event.call Demo.tokenRequest (inside Demo.tokenFrame).noted] := by
  obtain ⟨hash, hs, hv⟩ := Demo.startStores_standard
  have hmatches := audit_matches_answers .standard ⟨.empty, Demo.stores ⟨4⟩ hash⟩ []
    Demo.tokenRequest Demo.fresh (.signedZero false)
  have hgrantable : Grantable Application.standard.rules (Demo.stores ⟨4⟩ hash) Demo.tokenRequest
      Demo.tokenForm ⟨Demo.confidentialId.text, Demo.confidentialSecret⟩ Demo.accepted :=
    grantable_demo hv
  have hrecognised := Recognition.ofRequest_of_proven (inside Demo.tokenFrame)
    (Demo.up_stores ⟨4⟩ hash).clients (Demo.up_stores ⟨4⟩ hash).secrets hgrantable.held
    hgrantable.single hgrantable.proven (Demo.checkable_confidential hv)
  have hreached : ¬ StoreFails .standard Demo.tokenFrame ⟨.empty, Demo.stores ⟨4⟩ hash⟩ := by
    rintro ⟨fault, -, hfault⟩
    rw [replied_of_token ⟨rfl, .inl rfl⟩, (tokenEndpoint_of_grantable (inside Demo.tokenFrame)
      (Demo.up_stores ⟨4⟩ hash) (Demo.checkable_confidential hv) hgrantable).2] at hfault
    cases hfault
  rw [Application.run_nil] at hmatches
  obtain ⟨attempt, event, response, hattempt, hresponse, hexchanged, hrecorded⟩ :=
    hmatches.exchange Demo.tokenForm (.confidential Demo.confidential)
      ⟨⟨rfl, .inl rfl⟩, rfl, Demo.read_tokenRequest, hrecognised⟩ hreached
  exact ⟨_, attempt, event, response, hs, hattempt, hresponse, hexchanged, hrecorded.same⟩

end TokenIssuer.Service
