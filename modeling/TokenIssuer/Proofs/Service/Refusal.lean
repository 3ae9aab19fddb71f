import TokenIssuer.Proofs.Http.Resemblance
import TokenIssuer.Proofs.Service.Disclosure
import TokenIssuer.Proofs.Service.Outcomes

/-!
How requests are refused before anything is decided on them. The audit event of an attempt is told
by its outcome, so that refusals of one request cannot be told apart.
-/

namespace TokenIssuer.Service

open Http Store

variable {rules : Grant.Rules} {frame one other : Frame} {state : State Data}
  {directory : Authentication.Directory} {form f g : Form} {fault : Fault}

/-! ## The audit events of an attempt -/

namespace Recognition

open Authentication

theorem untraced_audit (h : Resembles one.request other.request) (channel : String)
    (success : Bool) (client reason : Option String) :
    Audit.untraced (audit one channel success client reason) =
      Audit.untraced (audit other channel success client reason) :=
  Audit.untraced_call h.auditedAddress (h.header "user-agent" (by decide)) _ _ _

theorem events_audit (frame : Frame) (channel : String) (success : Bool)
    (client reason : Option String) :
    Audit.events [audit frame channel success client reason] =
      [Audit.untraced (audit frame channel success client reason)] :=
  Audit.events_singleton List.mem_cons_self

theorem events_authenticate (directory : Directory) (clientId : String)
    (presented : List UInt8) :
    Audit.events (authenticate directory clientId presented).calls = [] := by
  apply Audit.events_eq_nil
  intro call hc
  rw [event_of_authenticate hc]
  decide

theorem events_reject_congr (h : Resembles one.request other.request) (channel reason : String) :
    Audit.events (reject one channel reason).calls =
      Audit.events (reject other channel reason).calls := by
  show Audit.events [_] = Audit.events [_]
  rw [events_audit, events_audit, untraced_audit h]

/-- The audit event of an attempt whose credentials were looked up, by its result. -/
def attempted (frame : Frame) (channel : String) :
    Except Http.Fault Client.Principal → List Log.Call
  | .ok principal => [audit frame channel true (some principal.id.text) none]
  | .error (.oauth ..) => [audit frame channel false none (some "invalid_credentials")]
  | .error _ => []

theorem attempted_congr (h : Resembles one.request other.request) (channel : String)
    (result : Except Http.Fault Client.Principal) :
    (attempted one channel result).map Audit.untraced =
      (attempted other channel result).map Audit.untraced := by
  cases result with
  | ok principal => exact congrArg (· :: []) (untraced_audit h _ _ _ _)
  | error fault =>
    cases fault with
    | oauth detail code status => exact congrArg (· :: []) (untraced_audit h _ _ _ _)
    | _ => rfl

theorem events_conclude (frame : Frame) (channel : String) {outcome : Authentication.Outcome}
    (silent : Audit.events outcome.calls = []) :
    Audit.events (conclude frame channel outcome).calls =
      (attempted frame channel (conclude frame channel outcome).result).map Audit.untraced := by
  have hlast (success : Bool) (client reason : Option String) :
      Audit.events (outcome.calls ++ [audit frame channel success client reason]) =
        [Audit.untraced (audit frame channel success client reason)] := by
    rw [Audit.events_append, silent, events_audit, List.nil_append]
  unfold conclude
  cases outcome.result with
  | error fault => cases fault <;> exact silent
  | ok found =>
    cases found with
    | none => exact hlast _ _ _
    | some principal => exact hlast _ _ _

theorem events_conclude_congr (h : Resembles one.request other.request) {channel : String}
    {outcome another : Authentication.Outcome} (silent : Audit.events outcome.calls = [])
    (alsoSilent : Audit.events another.calls = [])
    (result : (conclude one channel outcome).result = (conclude other channel another).result) :
    Audit.events (conclude one channel outcome).calls =
      Audit.events (conclude other channel another).calls := by
  rw [events_conclude one channel silent, events_conclude other channel alsoSilent, result,
    attempted_congr h]

theorem events_unreadable_congr (h : Resembles one.request other.request)
    (fault : Basic.Fault) :
    Audit.events (unreadable one fault).calls = Audit.events (unreadable other fault).calls := by
  cases fault with
  | malformed => exact events_reject_congr h _ _
  | notAscii => rfl

/-- Two attempts in which the credentials came the same way and fared the same are audited
alike. -/
theorem events_ofRequest_congr {another : Directory} (h : Resembles one.request other.request)
    (header : one.request.header? "authorization" = other.request.header? "authorization")
    (client : f.lookup "client_id" = g.lookup "client_id")
    (result : (ofRequest one directory f).result = (ofRequest other another g).result) :
    Audit.events (ofRequest one directory f).calls =
      Audit.events (ofRequest other another g).calls := by
  unfold ofRequest at result ⊢
  -- The header and the identifier decide on the channel, the result on what is told of it.
  rw [header, client] at *
  cases hread : Basic.read (other.request.header? "authorization") with
  | error fault => exact events_unreadable_congr h fault
  | ok credentials =>
    rw [hread] at result
    cases hid : g.lookup "client_id" with
    | none =>
      rw [hid] at result
      cases credentials with
      | none => exact events_reject_congr h _ _
      | some credentials =>
        exact events_conclude_congr h (events_authenticate _ _ _) (events_authenticate _ _ _)
          result
    | some clientId =>
      rw [hid] at result
      cases credentials with
      | none => exact events_conclude_congr h rfl rfl result
      | some credentials => exact events_reject_congr h _ _

theorem events_ofConfidential_congr {another : Directory}
    (h : Resembles one.request other.request)
    (header : one.request.header? "authorization" = other.request.header? "authorization")
    (result : (ofConfidential one directory).result = (ofConfidential other another).result) :
    Audit.events (ofConfidential one directory).calls =
      Audit.events (ofConfidential other another).calls := by
  unfold ofConfidential at result ⊢
  rw [header] at *
  cases hread : Basic.read (other.request.header? "authorization") with
  | error fault => exact events_unreadable_congr h fault
  | ok credentials =>
    rw [hread] at result
    cases credentials with
    | none => exact events_reject_congr h _ _
    | some credentials =>
      exact events_conclude_congr h (events_authenticate _ _ _) (events_authenticate _ _ _) result

theorem ofConfidential_result_congr
    (header : one.request.header? "authorization" = other.request.header? "authorization") :
    (ofConfidential one directory).result = (ofConfidential other directory).result := by
  unfold ofConfidential
  rw [header]
  cases Basic.read (other.request.header? "authorization") with
  | error fault => cases fault <;> rfl
  | ok credentials =>
    cases credentials with
    | none => rfl
    | some credentials =>
      show (conclude one "basic" _).result = (conclude other "basic" _).result
      rw [conclude_result, conclude_result]

end Recognition

/-! ## The endpoints -/

/-- The endpoint reads the form of a request and recognises who sent it, and goes no further without
either. -/
structure Guarded (endpoint : Endpoint Data) (recognition : Frame → Stores → Form → Recognition) :
    Prop where
  unread {frame : Frame} {state : State Data} {fault : Form.Fault}
    (h : Form.read frame.request = .error fault) :
    endpoint frame state = keep state (.error (.ofForm fault)) []
  refused {frame : Frame} {state : State Data} {form : Form} {fault : Fault}
    (formed : Form.read frame.request = .ok form)
    (h : (recognition frame state.data form).result = .error fault) :
    endpoint frame state = keep state (.error fault) (recognition frame state.data form).calls

namespace Guarded

variable {endpoint : Endpoint Data} {recognition : Frame → Stores → Form → Recognition}

theorem result_of_unread (guarded : Guarded endpoint recognition) {fault : Form.Fault}
    (h : Form.read frame.request = .error fault) :
    (endpoint frame state).result = .error (.ofForm fault) :=
  congrArg Reply.result (guarded.unread h)

theorem result_of_refused (guarded : Guarded endpoint recognition)
    (formed : Form.read frame.request = .ok form)
    (h : (recognition frame state.data form).result = .error fault) :
    (endpoint frame state).result = .error fault :=
  congrArg Reply.result (guarded.refused formed h)

theorem calls_of_unread (guarded : Guarded endpoint recognition) {fault : Form.Fault}
    (h : Form.read frame.request = .error fault) : (endpoint frame state).calls = [] :=
  congrArg Reply.calls (guarded.unread h)

theorem calls_of_refused (guarded : Guarded endpoint recognition)
    (formed : Form.read frame.request = .ok form)
    (h : (recognition frame state.data form).result = .error fault) :
    (endpoint frame state).calls = (recognition frame state.data form).calls :=
  congrArg Reply.calls (guarded.refused formed h)

theorem repliesAlike (guarded : Guarded endpoint recognition) {later : State Data}
    (same : one.request = other.request)
    (refused : ∀ form, Form.read one.request = .ok form →
      (recognition one state.data form).result = .error fault ∧
        (recognition other later.data form).result = .error fault ∧
        Audit.events (recognition one state.data form).calls =
          Audit.events (recognition other later.data form).calls) :
    RepliesAlike (endpoint one state) (endpoint other later) := by
  cases hform : Form.read one.request with
  | error unread =>
    have hother : Form.read other.request = .error unread := by rw [← same, hform]
    rw [guarded.unread hform, guarded.unread hother]
    exact repliesAlike_keep rfl
  | ok form =>
    have hother : Form.read other.request = .ok form := by rw [← same, hform]
    obtain ⟨hone, hlater, hevents⟩ := refused form hform
    rw [guarded.refused hform hone, guarded.refused hother hlater]
    exact repliesAlike_keep hevents

end Guarded

theorem tokenEndpoint_guarded (rules : Grant.Rules) :
    Guarded (tokenEndpoint rules) fun frame stores form =>
      Recognition.ofRequest frame (Authentication.ofStores stores) form where
  unread h := by
    unfold tokenEndpoint
    rw [h]
  refused formed h := by
    unfold tokenEndpoint
    simp only [formed, h]

theorem introspectEndpoint_guarded :
    Guarded introspectEndpoint fun frame stores _ =>
      Recognition.ofConfidential frame (Authentication.ofStores stores) where
  unread h := by
    unfold introspectEndpoint
    rw [h]
  refused formed h := by
    unfold introspectEndpoint
    simp only [formed, h]

theorem keep_calls (state : State Data) (result : Except Http.Fault Response)
    (calls : List Log.Call) : (keep state result calls).calls = calls := rfl

theorem introspectEndpoint_of_forbidden {client : Client.Principal}
    (formed : Form.read frame.request = .ok form)
    (h : (Recognition.ofConfidential frame (Authentication.ofStores state.data)).result =
      .ok client)
    (forbidden : client.mayPerform .introspect = false) :
    introspectEndpoint frame state =
      keep state (.error (.forbidden .introspect))
        (Recognition.ofConfidential frame (Authentication.ofStores state.data)).calls := by
  unfold introspectEndpoint
  simp only [formed, h, forbidden, Bool.false_eq_true, if_false]

/-! ## What introspection replies -/

theorem isFinite_introspectionBody (result : Introspection.Result) :
    (introspectionBody result).isFinite = true := by
  cases result with
  | inactive => rfl
  | active clientId username scope => cases scope <;> rfl

/-- The response that tells what is known of a token. -/
def toldResponse (result : Introspection.Result) : Response :=
  { status := 200, headers := [("content-type", "application/json")]
    body := .json (introspectionBody result) }

theorem answer_introspectionBody (result : Introspection.Result) :
    answer 200 (introspectionBody result) [] = .ok (toldResponse result) := by
  unfold answer
  rw [Response.json_eq_ok 200 (introspectionBody result) [] (isFinite_introspectionBody result)
    (List.forall_mem_nil _)]
  rfl

/-- What the introspection endpoint replies: it ends before the lookup when the form cannot be read,
the client is not recognised or may not be told, or no token is named, and else with what is known,
unless the tokens cannot be reached. -/
inductive IntrospectReply (frame : Frame) (state : State Data) (reply : Reply Data) : Prop where
  | unread {fault : Form.Fault} (unformed : Form.read frame.request = .error fault)
      (result : reply.result = .error (.ofForm fault)) (calls : reply.calls = [])
  | refused {form : Form} {fault : Fault} (formed : Form.read frame.request = .ok form)
      (unrecognised : (Recognition.ofConfidential frame
        (Authentication.ofStores state.data)).result = .error fault)
      (result : reply.result = .error fault)
      (calls : reply.calls =
        (Recognition.ofConfidential frame (Authentication.ofStores state.data)).calls)
  | forbidden {form : Form} {client : Client.Principal}
      (formed : Form.read frame.request = .ok form)
      (recognised : (Recognition.ofConfidential frame
        (Authentication.ofStores state.data)).result = .ok client)
      (barred : client.mayPerform .introspect = false)
      (result : reply.result = .error (.forbidden .introspect))
      (calls : reply.calls =
        (Recognition.ofConfidential frame (Authentication.ofStores state.data)).calls)
  | incomplete {form : Form} {client : Client.Principal}
      (formed : Form.read frame.request = .ok form)
      (recognised : (Recognition.ofConfidential frame
        (Authentication.ofStores state.data)).result = .ok client)
      (unnamed : form.lookup "token" = none)
      (result : reply.result = .error (.invalidRequest "missing parameter: token"))
      (calls : reply.calls =
        (Recognition.ofConfidential frame (Authentication.ofStores state.data)).calls)
  | unreached {form : Form} {client : Client.Principal} {raw : String} {u : Unreachable}
      (formed : Form.read frame.request = .ok form)
      (recognised : (Recognition.ofConfidential frame
        (Authentication.ofStores state.data)).result = .ok client)
      (named : form.lookup "token" = some raw)
      (lost : Introspection.introspect state.data raw = .error u)
      (result : reply.result = .error (.ofUnreachable u))
      (calls : reply.calls =
        (Recognition.ofConfidential frame (Authentication.ofStores state.data)).calls)
  | told {form : Form} {client : Client.Principal} {raw : String} {known : Introspection.Result}
      (formed : Form.read frame.request = .ok form)
      (recognised : (Recognition.ofConfidential frame
        (Authentication.ofStores state.data)).result = .ok client)
      (named : form.lookup "token" = some raw)
      (looked : Introspection.introspect state.data raw = .ok known)
      (result : reply.result = .ok (toldResponse known))
      (calls : reply.calls =
        (Recognition.ofConfidential frame (Authentication.ofStores state.data)).calls ++
          [(Audit.Event.tokenIntrospection client.id.text known.isActive).call frame.request
            frame.noted])

theorem introspectEndpoint_replies (frame : Frame) (state : State Data) :
    IntrospectReply frame state (introspectEndpoint frame state) := by
  cases hform : Form.read frame.request with
  | error fault =>
    exact .unread hform (introspectEndpoint_guarded.result_of_unread hform)
      (introspectEndpoint_guarded.calls_of_unread hform)
  | ok form =>
    cases hclient : (Recognition.ofConfidential frame
        (Authentication.ofStores state.data)).result with
    | error fault =>
      exact .refused hform hclient (introspectEndpoint_guarded.result_of_refused hform hclient)
        (introspectEndpoint_guarded.calls_of_refused hform hclient)
    | ok client =>
      cases hmay : client.mayPerform .introspect with
      | false =>
        rw [introspectEndpoint_of_forbidden hform hclient hmay]
        exact .forbidden hform hclient hmay rfl (keep_calls _ _ _)
      | true =>
        -- From here on the lookup decides, which is made for a text that is named.
        unfold introspectEndpoint
        simp only [hform, hclient, hmay, if_true, lookUp]
        cases hnamed : form.lookup "token" with
        | none => exact .incomplete hform hclient hnamed rfl (List.append_nil _)
        | some raw =>
          simp only
          cases hlooked : Introspection.introspect state.data raw with
          | error u => exact .unreached hform hclient hnamed hlooked rfl (List.append_nil _)
          | ok known =>
            exact .told hform hclient hnamed hlooked (answer_introspectionBody known) rfl

end TokenIssuer.Service
