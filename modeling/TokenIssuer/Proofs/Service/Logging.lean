import TokenIssuer.Proofs.Audit
import TokenIssuer.Proofs.Service.Issuance
import TokenIssuer.Proofs.Service.Refusal

/-!
What is logged while a request is served: the calls of its endpoint and of the answer to a fault,
then the note that the request is completed, and last, outside of the layers, a fault that nothing
was prepared for.
-/

namespace TokenIssuer.Service

open Http Store

variable {app : Application} {frame : Frame} {state : State Data}

/-! ## The calls of an endpoint -/

/-- The calls that may be made while a request is answered by the routes. -/
inductive Made (frame : Frame) : Log.Call → Prop where
  | audit (event : Audit.Event) (known : event.type ∈ Audit.types) :
      Made frame (event.call frame.request frame.noted)
  | orphan (secret : Store.Secret) : Made frame (Authentication.orphanCall secret)
  | issued (accepted : Grant.Password.Accepted) : Made frame (Grant.issuedCall accepted)
  | refused (principal : Client.Principal) (grant : Client.Grant) (refusal : Grant.Refusal) :
      Made frame (Grant.refusedCall principal grant refusal)
  | unauthenticated {call : Log.Call}
      (reported : Failure.report .warning "client_authentication_failed" frame.request frame.noted
        [] = .ok call) : Made frame call
  | unreachable {text : String} {call : Log.Call}
      (reported : Failure.report .error "storage_failure" frame.request frame.noted
        [("error", .str text)] = .ok call) : Made frame call

/-- All calls of a list may be made. -/
def AllMade (frame : Frame) (calls : List Log.Call) : Prop := ∀ call ∈ calls, Made frame call

theorem allMade_nil : AllMade frame [] := List.forall_mem_nil _

theorem allMade_singleton {call : Log.Call} (h : Made frame call) : AllMade frame [call] :=
  List.forall_mem_singleton.mpr h

theorem AllMade.append {calls more : List Log.Call} (h : AllMade frame calls)
    (hm : AllMade frame more) : AllMade frame (calls ++ more) :=
  List.forall_mem_append.mpr ⟨h, hm⟩

theorem allMade_audit (channel : String) (success : Bool) (client reason : Option String) :
    AllMade frame [Recognition.audit frame channel success client reason] :=
  allMade_singleton (.audit _ (List.mem_cons_self))

theorem allMade_recognizeOwner (directory : Authentication.Directory) (secret : Store.Secret) :
    AllMade frame (Authentication.recognizeOwner directory secret).calls := by
  unfold Authentication.recognizeOwner
  cases directory.getClient secret.owner with
  | error u => exact allMade_nil
  | ok found =>
    cases found with
    | none => exact allMade_singleton (.orphan secret)
    | some client =>
      simp only
      split
      · exact allMade_nil
      · exact allMade_singleton (.orphan secret)

theorem allMade_authenticate (directory : Authentication.Directory) (clientId : String)
    (presented : List UInt8) :
    AllMade frame (Authentication.authenticate directory clientId presented).calls := by
  unfold Authentication.authenticate
  cases directory.findSecrets clientId with
  | error u => exact allMade_nil
  | ok secrets =>
    simp only
    cases Authentication.firstMatch presented secrets with
    | error fault => exact allMade_nil
    | ok found =>
      cases found with
      | none => exact allMade_nil
      | some secret => exact allMade_recognizeOwner directory secret

theorem AllMade.conclude {outcome : Authentication.Outcome} (h : AllMade frame outcome.calls)
    (channel : String) : AllMade frame (Recognition.conclude frame channel outcome).calls := by
  unfold Recognition.conclude
  cases outcome.result with
  | error fault => exact h
  | ok found =>
    cases found with
    | none => exact h.append (allMade_audit _ _ _ _)
    | some principal => exact h.append (allMade_audit _ _ _ _)

theorem allMade_unreadable (fault : Basic.Fault) :
    AllMade frame (Recognition.unreadable frame fault).calls := by
  cases fault with
  | malformed => exact allMade_audit _ _ _ _
  | notAscii => exact allMade_nil

theorem allMade_ofRequest (frame : Frame) (directory : Authentication.Directory) (form : Form) :
    AllMade frame (Recognition.ofRequest frame directory form).calls := by
  unfold Recognition.ofRequest
  cases Basic.read (frame.request.header? "authorization") with
  | error fault => exact allMade_unreadable fault
  | ok found =>
    cases found with
    | none =>
      cases form.lookup "client_id" with
      | none => exact allMade_audit _ _ _ _
      | some clientId => exact allMade_nil.conclude _
    | some credentials =>
      cases form.lookup "client_id" with
      | none => exact (allMade_authenticate _ _ _).conclude _
      | some clientId => exact allMade_audit _ _ _ _

theorem allMade_ofConfidential (frame : Frame) (directory : Authentication.Directory) :
    AllMade frame (Recognition.ofConfidential frame directory).calls := by
  unfold Recognition.ofConfidential
  cases Basic.read (frame.request.header? "authorization") with
  | error fault => exact allMade_unreadable fault
  | ok found =>
    cases found with
    | none => exact allMade_audit _ _ _ _
    | some credentials => exact (allMade_authenticate _ _ _).conclude _

theorem allMade_exchange (frame : Frame) (rules : Grant.Rules) (fresh : Grant.Fresh)
    (stores : Stores) (principal : Client.Principal) (form : Form) :
    AllMade frame (Grant.exchange rules fresh stores principal form).calls := by
  unfold Grant.exchange
  cases form.lookup "grant_type" with
  | none => exact allMade_nil
  | some raw =>
    simp only
    cases Grant.readType raw with
    | error refusal => exact allMade_nil
    | ok grant =>
      cases grant with
      | password =>
        simp only
        cases Grant.Password.validate rules.registry principal form with
        | error refusal => exact allMade_singleton (.refused principal .password refusal)
        | ok accepted =>
          simp only [Grant.issue]
          cases stores.saveToken (Grant.accessToken fresh accepted) with
          | error u => exact allMade_nil
          | ok after => exact allMade_singleton (.issued accepted)

theorem type_decisionEvent (principal : Client.Principal) (grantType : Option String)
    (decision : Grant.Decision) :
    (decisionEvent principal grantType decision).type = "token.exchange" := by
  cases decision <;> rfl

theorem allMade_tokenEndpoint (rules : Grant.Rules) (frame : Frame) (state : State Data) :
    AllMade frame (tokenEndpoint rules frame state).calls := by
  have hrecognition (form : Form) :=
    allMade_ofRequest frame (Authentication.ofStores state.data) form
  cases tokenEndpoint_replies rules frame state with
  | unread _ _ _ calls => rw [calls]; exact allMade_nil
  | refused _ _ _ _ calls => rw [calls]; exact hrecognition _
  | unreached _ _ _ _ _ calls =>
    rw [calls]
    exact (hrecognition _).append (allMade_exchange frame rules _ _ _ _)
  | @decided form principal decision _ _ _ _ _ _ calls =>
    have hknown : (decisionEvent principal (form.lookup "grant_type") decision).type ∈
        Audit.types := by
      rw [type_decisionEvent]
      decide
    rw [calls]
    exact (hrecognition form).append
      ((allMade_exchange frame rules _ _ _ _).append (allMade_singleton (.audit _ hknown)))

theorem allMade_introspectEndpoint (frame : Frame) (state : State Data) :
    AllMade frame (introspectEndpoint frame state).calls := by
  have hrecognition := allMade_ofConfidential frame (Authentication.ofStores state.data)
  cases introspectEndpoint_replies frame state with
  | unread _ _ calls => rw [calls]; exact allMade_nil
  | refused _ _ _ calls => rw [calls]; exact hrecognition
  | forbidden _ _ _ _ calls => rw [calls]; exact hrecognition
  | incomplete _ _ _ _ calls => rw [calls]; exact hrecognition
  | unreached _ _ _ _ _ calls => rw [calls]; exact hrecognition
  | @told _ client _ known _ _ _ _ _ calls =>
    have hknown : (Audit.Event.tokenIntrospection client.id.text known.isActive).type ∈
        Audit.types := List.mem_of_mem_getLast? rfl
    rw [calls]
    exact hrecognition.append (allMade_singleton (.audit _ hknown))

theorem readyEndpoint_calls (frame : Frame) (state : State Data) :
    (readyEndpoint frame state).calls = [] := by
  unfold readyEndpoint
  split <;> rfl

theorem allMade_replied (app : Application) (frame : Frame) (state : State Data) :
    AllMade (inside frame) (replied app frame state).calls := by
  cases replies_replied app frame state with
  | counts _ same => rw [same]; exact allMade_nil
  | token _ same => rw [same]; exact allMade_tokenEndpoint app.rules (inside frame) state
  | introspection _ same => rw [same]; exact allMade_introspectEndpoint (inside frame) state
  | live _ same => rw [same]; exact allMade_nil
  | ready _ same => rw [same, readyEndpoint_calls]; exact allMade_nil
  | page _ _ same => rw [same]; exact allMade_nil
  | nowhere _ same _ => rw [same]; exact allMade_nil

/-! ## The calls of the routes -/

/-- The calls that are made when the result of an endpoint is turned into an answer. -/
def handlingCalls (app : Application) (frame : Frame) : Except Fault Response → List Log.Call
  | .ok _ => []
  | .error fault => (Failure.handle app.service.policy frame.request frame.noted fault).1

/-- All calls that are made by the routes. -/
def routedCalls (app : Application) (frame : Frame) (state : State Data) : List Log.Call :=
  (replied app frame state).calls ++
    handlingCalls app (inside frame) (replied app frame state).result

theorem routed_logs (app : Application) (frame : Frame) (state : State Data) :
    (routed app frame state).logs =
      Log.within (inside frame).bound (routedCalls app frame state) := by
  unfold routed router routedCalls handlingCalls replied
  generalize dispatch app.service.routes (inside frame) state = dispatched
  obtain ⟨⟨result, _, _⟩, _⟩ := dispatched
  cases result with
  | ok response => simp only [List.append_nil]
  | error fault => rfl

theorem allMade_reported {report : Except Unexpected Log.Call}
    {answer : Except Unexpected Response} (h : ∀ call, report = .ok call → Made frame call) :
    AllMade frame (Failure.reported report answer).1 := by
  cases report with
  | error fault => exact allMade_nil
  | ok call => exact allMade_singleton (h call rfl)

theorem allMade_handlingCalls (app : Application) (frame : Frame)
    (result : Except Fault Response) : AllMade frame (handlingCalls app frame result) := by
  cases result with
  | ok response => exact allMade_nil
  | error fault =>
    unfold handlingCalls Failure.handle
    cases fault with
    | oauth detail code status =>
      simp only
      split
      · exact allMade_reported fun _ => .unauthenticated
      · exact allMade_nil
    | storage text => exact allMade_reported fun _ => .unreachable
    | http status detail headers => exact allMade_nil
    | validation errors => exact allMade_nil
    | unexpected fault => exact allMade_nil

theorem allMade_routedCalls (app : Application) (frame : Frame) (state : State Data) :
    AllMade (inside frame) (routedCalls app frame state) :=
  (allMade_replied app frame state).append (allMade_handlingCalls app (inside frame) _)

/-! ## The service -/

/-- The log call for a fault that the routes have no answer for. -/
def unhandledCalls (request : Request) (noted : Option Json) :
    Except Unexpected Response → List Log.Call
  | .ok _ => []
  | .error fault =>
    [{ method := .error, event := "unhandled_exception"
       fields :=
         [("correlation_id", .str (request.failureCorrelation noted)),
          ("path", .str request.shownPath), ("method", .str request.method),
          ("error", .str fault.message)] }]

/-- Everything that is served for a request whose address can be told. -/
theorem serve_eq_of_readable (app : Application) (frame : Frame) (state : State Data)
    (readable : frame.request.addressFault? = none) :
    app.service.serve frame state =
      let answer := (routed app frame state).answer
      { response := some (sent app frame answer)
        raised :=
          match answer with
          | .ok _ => none
          | .error fault => some fault
        state :=
          { (replied app frame state).state with
            registry := (replied app frame state).state.registry.record
              { method := frame.request.method
                path := (routed app frame state).route.getD frame.request.shownPath
                status := toString (Layer.statusOf answer) } frame.seconds }
        logs :=
          Log.within (inside frame).bound
              (routedCalls app frame state ++ [Layer.completedCall (inside frame) answer]) ++
            Log.within (released frame)
              (unhandledCalls frame.request (routed app frame state).noted answer)
        spans := Layer.spanOf (inside frame) answer :: (routed app frame state).spans
        bound := released frame } := by
  unfold Http.Service.serve
  rw [handler_of_readable app frame state readable, ← routed_state]
  simp only [routed_logs]
  cases ha : (routed app frame state).answer with
  | ok response =>
    simp only [unhandledCalls, Log.within, List.map_nil, List.append_nil, List.map_append]
    rfl
  | error fault =>
    -- The last handler stands outside of the layers, so it logs with what they leave bound.
    simp only [Except.map, Failure.unexpectedCall, Failure.report, readable]
    simp only [unhandledCalls, Log.within, List.map_append]
    rfl

theorem response_serve (app : Application) (state : State Data)
    (readable : frame.request.addressFault? = none) :
    (app.service.serve frame state).response =
      some (sent app frame (answered app (inside frame) (replied app frame state).result)) := by
  rw [serve_eq_of_readable app frame state readable, ← routed_answer]

/-- The token requests are counted by the routes only. -/
theorem outcomes_serve (app : Application) (state : State Data)
    (readable : frame.request.addressFault? = none) :
    (app.service.serve frame state).state.registry.outcomes =
      (replied app frame state).state.registry.outcomes := by
  rw [serve_eq_of_readable app frame state readable]
  rfl

theorem routed_noted (app : Application) (frame : Frame) (state : State Data) :
    (routed app frame state).noted = (inside frame).noted := by
  unfold routed router
  generalize dispatch app.service.routes (inside frame) state = dispatched
  obtain ⟨⟨result, _, _⟩, _⟩ := dispatched
  cases result <;> rfl

/-- A request whose address cannot be told is neither answered, logged nor counted. -/
theorem serve_eq_of_address (app : Application) (frame : Frame) (state : State Data)
    {fault : Utf8.Fault} (h : frame.request.addressFault? = some fault) :
    app.service.serve frame state =
      { response := none, raised := some (.address fault), state, logs := [], spans := []
        bound := released frame } := by
  unfold Http.Service.serve
  rw [handler_of_address app frame state h]
  simp only [Layer.broken, Failure.unexpectedCall, Failure.report, h]

end TokenIssuer.Service
