import TokenIssuer.Proofs.Service.Issuance
import TokenIssuer.Proofs.Service.Introspection
import TokenIssuer.Proofs.Service.Logging
import TokenIssuer.Proofs.Service.Oracle

/-!
The audit events of the endpoints: one for the attempt of a client to be recognised, and at most one
more for what was done for it.
-/

namespace TokenIssuer.Service

open Http Store

variable {frame : Frame} {header identifier : Option String}
  {result : Except Fault Client.Principal}

/-! ## Attempts to be recognised -/

/-- The case in which nobody is recognised by a header and, where it is looked at, the identifier of
a form: the reason that is told for it. -/
inductive Refused (header identifier : Option String) : (reason : String) → Prop where
  | malformed (basic : Basic.IsBasic header) (unread : ∀ c, ¬ Basic.Holds header c) :
      Refused header identifier "malformed_credentials"
  | multiple {credentials : Basic.Credentials} {clientId : String}
      (held : Basic.Holds header credentials) (given : identifier = some clientId) :
      Refused header identifier "multiple_credentials"
  | missing (absent : ¬ Basic.IsBasic header) (none : identifier = none) :
      Refused header identifier "missing_credentials"
  | secret {credentials : Basic.Credentials} (held : Basic.Holds header credentials)
      (none : identifier = none) : Refused header identifier "invalid_credentials"
  | name {clientId : String} (absent : ¬ Basic.IsBasic header)
      (given : identifier = some clientId) : Refused header identifier "invalid_credentials"

/-- The event for an attempt to be recognised: it names the client, or the reason why there is
none. -/
inductive Attempted (header identifier : Option String) :
    Except Fault Client.Principal → Audit.Event → Prop where
  | recognised (channel : String) (principal : Client.Principal) :
      Attempted header identifier (.ok principal)
        (.clientAuthentication channel true (some principal.id.text) none)
  | refused (channel : String) {reason : String} (case : Refused header identifier reason) :
      Attempted header identifier (.error .unauthenticated)
        (.clientAuthentication channel false none (some reason))

theorem type_of_attempted {event : Audit.Event} (h : Attempted header identifier result event) :
    event.type = "client.authentication" := by
  cases h <;> rfl

namespace Recognition

open Authentication

/-- The audit events of recognition: one for the attempt, and none if it breaks off. -/
inductive Audited (frame : Frame) (header identifier : Option String) (recognition : Recognition) :
    Prop where
  | attempted (event : Audit.Event) (h : Attempted header identifier recognition.result event)
      (calls : Audit.among recognition.calls = [event.call frame.request frame.noted])
  | unreached (u : Unreachable) (h : recognition.result = .error (.ofUnreachable u))
      (calls : Audit.among recognition.calls = [])
  | fails (h : recognition.Fails) (calls : Audit.among recognition.calls = [])

theorem among_audit (frame : Frame) (channel : String) (success : Bool)
    (client reason : Option String) :
    Audit.among [audit frame channel success client reason] =
      [audit frame channel success client reason] :=
  Audit.among_singleton List.mem_cons_self

theorem among_authenticate (directory : Directory) (clientId : String) (presented : List UInt8) :
    Audit.among (authenticate directory clientId presented).calls = [] := by
  apply Audit.among_eq_nil
  intro call hcall
  rw [event_of_authenticate hcall]
  decide

theorem audited_reject (channel : String) {reason : String}
    (case : Refused header identifier reason) :
    Audited frame header identifier (reject frame channel reason) :=
  .attempted _ (.refused channel case) (among_audit frame channel false none (some reason))

theorem audited_conclude (channel : String) {outcome : Authentication.Outcome}
    (silent : Audit.among outcome.calls = [])
    (case : Refused header identifier "invalid_credentials") :
    Audited frame header identifier (conclude frame channel outcome) := by
  unfold conclude
  cases outcome.result with
  | error cause =>
    cases cause with
    | unreachable u => exact .unreached u rfl silent
    | check fault => exact .fails ⟨_, rfl⟩ silent
  | ok found =>
    cases found with
    | none =>
      refine .attempted _ (.refused channel case) ?_
      simp only [Audit.among_append, silent, among_audit, List.nil_append]
      rfl
    | some principal =>
      refine .attempted _ (.recognised channel principal) ?_
      simp only [Audit.among_append, silent, among_audit, List.nil_append]
      rfl

theorem audited_unreadable {fault : Basic.Fault} (h : Basic.read header = .error fault) :
    Audited frame header identifier (unreadable frame fault) := by
  cases fault with
  | malformed =>
    have hunread (credentials : Basic.Credentials) : ¬ Basic.Holds header credentials := by
      intro held
      rw [Basic.read_of_holds held] at h
      cases h
    have hbasic : Basic.IsBasic header := by
      by_contra hother
      rw [Basic.read_of_not_isBasic hother] at h
      cases h
    exact audited_reject "basic" (.malformed hbasic hunread)
  | notAscii => exact .fails ⟨_, rfl⟩ rfl

theorem audited_ofRequest (frame : Frame) (directory : Directory) (form : Form) :
    Audited frame (frame.request.header? "authorization") (form.lookup "client_id")
      (ofRequest frame directory form) := by
  unfold ofRequest
  cases hread : Basic.read (frame.request.header? "authorization") with
  | error fault => exact audited_unreadable hread
  | ok found =>
    cases found with
    | none =>
      have habsent := Basic.read_eq_none_iff.mp hread
      cases hid : form.lookup "client_id" with
      | none => exact audited_reject "none" (.missing habsent rfl)
      | some clientId => exact audited_conclude "client_id" rfl (.name habsent rfl)
    | some credentials =>
      have hheld := Basic.read_eq_some_iff.mp hread
      cases hid : form.lookup "client_id" with
      | none =>
        exact audited_conclude "basic" (among_authenticate _ _ _) (.secret hheld rfl)
      | some clientId => exact audited_reject "ambiguous" (.multiple hheld rfl)

theorem audited_ofConfidential (frame : Frame) (directory : Directory) :
    Audited frame (frame.request.header? "authorization") none
      (ofConfidential frame directory) := by
  unfold ofConfidential
  cases hread : Basic.read (frame.request.header? "authorization") with
  | error fault => exact audited_unreadable hread
  | ok found =>
    cases found with
    | none => exact audited_reject "basic" (.missing (Basic.read_eq_none_iff.mp hread) rfl)
    | some credentials =>
      exact audited_conclude "basic" (among_authenticate _ _ _)
        (.secret (Basic.read_eq_some_iff.mp hread) rfl)

theorem Audited.of_ok {recognition : Recognition} {principal : Client.Principal}
    (h : Audited frame header identifier recognition)
    (recognised : recognition.result = .ok principal) :
    ∃ event, Attempted header identifier (.ok principal) event ∧
      Audit.among recognition.calls = [event.call frame.request frame.noted] := by
  cases h with
  | attempted event h calls =>
    rw [recognised] at h
    exact ⟨event, h, calls⟩
  | unreached u h _ => rw [recognised] at h; cases h
  | fails h _ =>
    obtain ⟨fault, h⟩ := h
    rw [recognised] at h
    cases h

theorem Audited.of_mem {recognition : Recognition} {call : Log.Call}
    (h : Audited frame header identifier recognition)
    (hc : call ∈ Audit.among recognition.calls) :
    ∃ channel success client reason, call = audit frame channel success client reason := by
  cases h with
  | attempted event h calls =>
    rw [calls] at hc
    rw [List.mem_singleton.mp hc]
    -- The result is an index of the event, so it has to be a variable for the cases.
    generalize recognition.result = result at h
    cases h with
    | recognised channel principal => exact ⟨channel, true, some principal.id.text, none, rfl⟩
    | refused channel case => exact ⟨channel, false, none, some _, rfl⟩
  | unreached u _ calls => rw [calls] at hc; exact absurd hc List.not_mem_nil
  | fails _ calls => rw [calls] at hc; exact absurd hc List.not_mem_nil

end Recognition

/-! ## The events of an endpoint -/

/-- The event for a decision on a request for tokens, and the answer that tells of it. -/
inductive Exchanged (form : Form) (principal : Client.Principal) :
    Response → Audit.Event → Prop where
  | issued {response : Response} (status : response.status = 200) :
      Exchanged form principal response
        (.tokenExchange principal.id.text (form.lookup "grant_type") true none)
  | refused {response : Response} {fields : List (String × Json)} {code : String}
      (status : response.status = 400) (body : response.body = .json (.obj fields))
      (told : fields.lookup "error" = some (.str code)) :
      Exchanged form principal response
        (.tokenExchange principal.id.text (form.lookup "grant_type") false (some code))

/-- The event for a token that was looked up and is active or not, and the answer that tells the
same. -/
inductive Introspected (client : Client.Principal) (active : Bool) :
    Response → Audit.Event → Prop where
  | looked {response : Response} {fields : List (String × Json)}
      (status : response.status = 200) (body : response.body = .json (.obj fields))
      (told : fields.lookup "active" = some (.bool active)) :
      Introspected client active response (.tokenIntrospection client.id.text active)

theorem Introspected.metadata {client : Client.Principal} {active : Bool} {response : Response}
    {event : Audit.Event} (h : Introspected client active response event) (request : Request)
    (noted : Option Json) :
    (event.call request noted).fields.lookup "metadata" =
      some (.obj [("active", .bool active)]) := by
  cases h
  rw [← Audit.sanitize_active]
  rfl

theorem exchanged_decided (frame : Frame) (form : Form) (principal : Client.Principal)
    (decision : Grant.Decision) :
    Exchanged form principal (dressed frame (decidedResponse decision))
      (decisionEvent principal (form.lookup "grant_type") decision) := by
  cases decision with
  | issued tokens => exact .issued rfl
  | refused refusal => exact .refused rfl rfl rfl

theorem exchanged_success {principal : Client.Principal} {response : Response}
    {event : Audit.Event} (h : Exchanged form principal response event) :
    ∃ success, event.success = .bool success := by
  cases h with
  | issued _ => exact ⟨true, rfl⟩
  | refused _ _ _ => exact ⟨false, rfl⟩

theorem introspected_told {response : Response} (frame : Frame) (client : Client.Principal)
    {told : Introspection.Result} (status : response.status = 200)
    (body : response.body = .json (introspectionBody told)) :
    Introspected client told.isActive (dressed frame response)
      (.tokenIntrospection client.id.text told.isActive) := by
  cases told with
  | inactive => exact .looked status body rfl
  | active clientId username scope =>
    rw [introspectionBody_active] at body
    exact .looked status body rfl

/-- The audit events of a reply: those of recognition, and one more for what was done for the client
if there is an answer to it. After a client was recognised only some faults may come. -/
inductive Trailed (frame : Frame) (recognition : Form → Recognition) (late : Fault → Prop)
    (follows : Form → Client.Principal → Response → Audit.Event → Prop) (reply : Reply Data) :
    Prop where
  | unread {fault : Form.Fault} (unformed : Form.read frame.request = .error fault)
      (result : reply.result = .error (.ofForm fault)) (calls : Audit.among reply.calls = [])
  | refused {form : Form} {fault : Fault} (formed : Form.read frame.request = .ok form)
      (unrecognised : (recognition form).result = .error fault)
      (result : reply.result = .error fault)
      (calls : Audit.among reply.calls = Audit.among (recognition form).calls)
  | late {form : Form} {principal : Client.Principal} {fault : Fault}
      (formed : Form.read frame.request = .ok form)
      (recognised : (recognition form).result = .ok principal)
      (result : reply.result = .error fault) (may : late fault)
      (calls : Audit.among reply.calls = Audit.among (recognition form).calls)
  | followed {form : Form} {principal : Client.Principal} {response : Response}
      {event : Audit.Event} (formed : Form.read frame.request = .ok form)
      (recognised : (recognition form).result = .ok principal)
      (result : reply.result = .ok response) (follows : follows form principal response event)
      (calls : Audit.among reply.calls = Audit.among (recognition form).calls ++
        [event.call frame.request frame.noted])

namespace Trailed

variable {recognition : Form → Recognition} {late : Fault → Prop}
  {follows : Form → Client.Principal → Response → Audit.Event → Prop} {reply : Reply Data}
  {named : Form → Option String}

/-- A request with a form that ends neither for want of a store nor in a fault that nothing is
prepared for has one event for its attempt to be recognised. -/
theorem attempted (h : Trailed frame recognition late follows reply)
    (audited : ∀ form, Recognition.Audited frame header (named form) (recognition form))
    (other : ∀ form principal response event, follows form principal response event →
      event.type ≠ "client.authentication")
    (formed : Form.read frame.request = .ok form)
    (reached : ∀ fault, OutOfReach fault → reply.result ≠ .error fault)
    (handled : ∀ fault, reply.result ≠ .error (.unexpected fault)) :
    ∃ event, Attempted header (named form) (recognition form).result event ∧
      Audit.ofType "client.authentication" (Audit.among reply.calls) =
        [event.call frame.request frame.noted] := by
  cases h with
  | unread unformed _ _ => rw [formed] at unformed; cases unformed
  | @refused _ fault hform unrecognised result calls =>
    obtain rfl := Except.ok.inj (formed.symm.trans hform)
    rw [calls]
    cases audited form with
    | attempted event he hcalls =>
      rw [hcalls]
      exact ⟨event, he, Audit.ofType_call (type_of_attempted he) _ _⟩
    -- Without an event recognition broke off, and that is ruled out for the reply.
    | unreached u hu _ =>
      rw [unrecognised] at hu
      obtain rfl := Except.error.inj hu
      exact absurd result (reached _ ⟨u, rfl⟩)
    | fails hf _ =>
      obtain ⟨unexpected, hf⟩ := hf
      rw [unrecognised] at hf
      obtain rfl := Except.error.inj hf
      exact absurd result (handled unexpected)
  | late hform recognised _ _ calls =>
    obtain rfl := Except.ok.inj (formed.symm.trans hform)
    obtain ⟨event, he, hcalls⟩ := (audited form).of_ok recognised
    rw [calls, hcalls, recognised]
    exact ⟨event, he, Audit.ofType_call (type_of_attempted he) _ _⟩
  | followed hform recognised _ hfollows calls =>
    obtain rfl := Except.ok.inj (formed.symm.trans hform)
    obtain ⟨event, he, hcalls⟩ := (audited form).of_ok recognised
    have hother := Audit.ofType_call_of_ne (other _ _ _ _ hfollows) frame.request frame.noted
    rw [calls, hcalls, recognised, Audit.ofType_append, hother, List.append_nil]
    exact ⟨event, he, Audit.ofType_call (type_of_attempted he) _ _⟩

/-- An audit event of a reply tells of an attempt, or it follows one that succeeded and there is an
answer that goes with it. -/
theorem of_mem {call : Log.Call} (h : Trailed frame recognition late follows reply)
    (audited : ∀ form, Recognition.Audited frame header (named form) (recognition form))
    (hc : call ∈ Audit.among reply.calls) :
    (∃ channel success client reason,
        call = Recognition.audit frame channel success client reason) ∨
      ∃ form principal response event, Form.read frame.request = .ok form ∧
        (recognition form).result = .ok principal ∧ reply.result = .ok response ∧
        follows form principal response event ∧
        call = event.call frame.request frame.noted := by
  cases h with
  | unread _ _ calls => rw [calls] at hc; exact absurd hc List.not_mem_nil
  | refused _ _ _ calls => rw [calls] at hc; exact .inl ((audited _).of_mem hc)
  | late _ _ _ _ calls => rw [calls] at hc; exact .inl ((audited _).of_mem hc)
  | followed formed recognised result hfollows calls =>
    rw [calls] at hc
    rcases List.mem_append.mp hc with hc | hc
    · exact .inl ((audited _).of_mem hc)
    · exact .inr ⟨_, _, _, _, formed, recognised, result, hfollows, List.mem_singleton.mp hc⟩

theorem followed_of {form : Form} {principal : Client.Principal}
    (h : Trailed frame recognition late follows reply)
    (formed : Form.read frame.request = .ok form)
    (recognised : (recognition form).result = .ok principal)
    (timely : ∀ fault, late fault → reply.result ≠ .error fault) :
    ∃ response event, reply.result = .ok response ∧ follows form principal response event ∧
      Audit.among reply.calls = Audit.among (recognition form).calls ++
        [event.call frame.request frame.noted] := by
  cases h with
  | unread unformed _ _ => rw [formed] at unformed; cases unformed
  | refused hform unrecognised _ _ =>
    obtain rfl := Except.ok.inj (formed.symm.trans hform)
    rw [recognised] at unrecognised
    cases unrecognised
  | late _ _ result may _ => exact absurd result (timely _ may)
  | followed hform hrecognised result hfollows calls =>
    obtain rfl := Except.ok.inj (formed.symm.trans hform)
    obtain rfl := Except.ok.inj (recognised.symm.trans hrecognised)
    exact ⟨_, _, result, hfollows, calls⟩

theorem of_ok {response : Response} (h : Trailed frame recognition late follows reply)
    (result : reply.result = .ok response) :
    ∃ form principal event, Form.read frame.request = .ok form ∧
      (recognition form).result = .ok principal ∧ follows form principal response event ∧
      Audit.among reply.calls = Audit.among (recognition form).calls ++
        [event.call frame.request frame.noted] := by
  cases h with
  | unread _ hr _ => rw [result] at hr; cases hr
  | refused _ _ hr _ => rw [result] at hr; cases hr
  | late _ _ hr _ _ => rw [result] at hr; cases hr
  | followed formed recognised hr hfollows calls =>
    rw [result] at hr
    obtain rfl := Except.ok.inj hr
    exact ⟨_, _, _, formed, recognised, hfollows, calls⟩

theorem status (h : Trailed frame recognition late follows reply)
    (early : ∀ form fault, (recognition form).result = .error fault → 400 ≤ fault.status)
    (lately : ∀ fault, late fault → 400 ≤ fault.status) {fault : Fault}
    (result : reply.result = .error fault) : 400 ≤ fault.status := by
  cases h with
  | @unread unread _ hr _ =>
    rw [result] at hr
    cases hr
    exact status_ofForm unread
  | refused _ unrecognised hr _ =>
    rw [result] at hr
    cases hr
    exact early _ _ unrecognised
  | late _ _ hr may _ =>
    rw [result] at hr
    cases hr
    exact lately _ may
  | followed _ _ hr _ _ => rw [result] at hr; cases hr

end Trailed

theorem among_exchange (rules : Grant.Rules) (fresh : Grant.Fresh) (stores : Stores)
    (principal : Client.Principal) (form : Form) :
    Audit.among (Grant.exchange rules fresh stores principal form).calls = [] := by
  unfold Grant.exchange
  cases form.lookup "grant_type" with
  | none => rfl
  | some raw =>
    simp only
    cases Grant.readType raw with
    | error refusal => rfl
    | ok grant =>
      cases grant with
      | password =>
        simp only
        cases Grant.Password.validate rules.registry principal form with
        | error refusal => rfl
        | ok accepted =>
          simp only [Grant.issue]
          cases stores.saveToken (Grant.accessToken fresh accepted) <;> rfl

theorem among_decision (frame : Frame) (principal : Client.Principal) (grantType : Option String)
    (decision : Grant.Decision) :
    Audit.among
        [(decisionEvent principal grantType decision).call frame.request frame.noted] =
      [(decisionEvent principal grantType decision).call frame.request frame.noted] := by
  have hknown : (decisionEvent principal grantType decision).type ∈ Audit.types := by
    rw [type_decisionEvent]
    decide
  exact Audit.among_singleton hknown

theorem tokenEndpoint_trailed (rules : Grant.Rules) (frame : Frame) (state : State Data) :
    Trailed frame
      (fun form => Recognition.ofRequest frame (Authentication.ofStores state.data) form)
      OutOfReach
      (fun form principal response event => ∃ decision, response = decidedResponse decision ∧
        event = decisionEvent principal (form.lookup "grant_type") decision)
      (tokenEndpoint rules frame state) := by
  -- The exchange has no audit event of its own; the one for its decision comes last.
  have hsilent := among_exchange rules frame.fresh state.data
  cases tokenEndpoint_replies rules frame state with
  | unread unformed result _ calls =>
    exact .unread unformed result (congrArg Audit.among calls)
  | refused formed unrecognised result _ calls =>
    exact .refused formed unrecognised result (congrArg Audit.among calls)
  | @unreached _ _ u formed recognised _ result _ calls =>
    refine .late formed recognised result ⟨u, rfl⟩ ?_
    rw [calls, Audit.among_append, hsilent, List.append_nil]
  | @decided _ _ decision _ formed recognised _ result _ calls =>
    refine .followed formed recognised result ⟨decision, rfl, rfl⟩ ?_
    rw [calls, Audit.among_append, Audit.among_append, hsilent, List.nil_append, among_decision]

theorem introspectEndpoint_trailed (frame : Frame) (state : State Data) :
    Trailed frame
      (fun _ => Recognition.ofConfidential frame (Authentication.ofStores state.data))
      (fun fault => 400 ≤ fault.status)
      (fun _ client response event => ∃ told, response.status = 200 ∧
        response.body = .json (introspectionBody told) ∧
        event = .tokenIntrospection client.id.text told.isActive)
      (introspectEndpoint frame state) := by
  cases introspectEndpoint_replies frame state with
  | unread unformed result calls => exact .unread unformed result (congrArg Audit.among calls)
  | refused formed unrecognised result calls =>
    exact .refused formed unrecognised result (congrArg Audit.among calls)
  -- A client without the permission, like a missing token, ends in a fault before the answer.
  | forbidden formed recognised _ result calls =>
    have hstatus : 400 ≤ (Fault.forbidden .introspect).status := by decide
    exact .late formed recognised result hstatus (congrArg Audit.among calls)
  | incomplete formed recognised _ result calls =>
    have hstatus : 400 ≤ (Fault.invalidRequest "missing parameter: token").status := by decide
    exact .late formed recognised result hstatus (congrArg Audit.among calls)
  | @unreached _ _ _ u formed recognised _ _ result calls =>
    have hstatus : 400 ≤ (Fault.ofUnreachable u).status := by
      show (400 : Int) ≤ 503
      omega
    exact .late formed recognised result hstatus (congrArg Audit.among calls)
  | @told _ _ _ known formed recognised _ _ result calls =>
    refine .followed formed recognised result ⟨known, rfl, rfl, rfl⟩ ?_
    rw [calls]
    exact Audit.among_append _ _

end TokenIssuer.Service
