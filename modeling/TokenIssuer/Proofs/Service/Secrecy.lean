import TokenIssuer.Proofs.Http.Form
import TokenIssuer.Proofs.Http.Resemblance
import TokenIssuer.Proofs.Service.Recognition
import TokenIssuer.Proofs.Service.Pipeline

/-!
What is done for a request does not depend on the password in its form, and depends on the secret in
its header only through the checks against the hashes on file.
-/

namespace TokenIssuer.Service

open Http Store

variable {app : Application} {frame : Frame} {state : State Data} {stores : Stores}
  {one other : Request} {f g : Form} {credentials another : Basic.Credentials}

/-! ## What is done with a form -/

theorem sameRequest_of_sameFields (h : SameFields "password" f g) : Grant.SameRequest f g where
  grantType := h.lookup (by decide)
  username := h.lookup (by decide)
  password := h.isSome_lookup "password"
  scope := h.lookup (by decide)

/-! ## Recognition -/

/-- The credentials are of one client, and both secrets fare alike against every hash on file for
it. -/
structure SameChecks (stores : Stores) (credentials another : Basic.Credentials) : Prop where
  client : credentials.clientId = another.clientId
  verified : ∀ record ∈ stores.secrets.ownedBy credentials.clientId,
    Secret.verify (.bytes (Utf8.encode credentials.secret.toList)) record.hash =
      Secret.verify (.bytes (Utf8.encode another.secret.toList)) record.hash

theorem firstMatch_congr {presented other : List UInt8} {records : List Store.Secret}
    (h : ∀ record ∈ records, Secret.verify (.bytes presented) record.hash =
      Secret.verify (.bytes other) record.hash) :
    Authentication.firstMatch presented records = Authentication.firstMatch other records := by
  induction records with
  | nil => rfl
  | cons record records ih =>
    rw [Authentication.firstMatch, Authentication.firstMatch, h record List.mem_cons_self,
      ih fun r hr => h r (List.mem_cons_of_mem record hr)]

theorem authenticate_of_sameChecks (h : SameChecks stores credentials another) :
    Authentication.authenticate (Authentication.ofStores stores) another.clientId
        (Utf8.encode another.secret.toList) =
      Authentication.authenticate (Authentication.ofStores stores) credentials.clientId
        (Utf8.encode credentials.secret.toList) := by
  by_cases up : .secrets ∈ stores.down
  · have hfind (text : String) :
        (Authentication.ofStores stores).findSecrets text = .error ⟨.secrets⟩ := if_pos up
    simp only [Authentication.authenticate, hfind]
  · rw [Authentication.authenticate_of_up up, Authentication.authenticate_of_up up, ← h.client,
      firstMatch_congr h.verified]

theorem audit_of_resembles (h : Resembles frame.request other) :
    Recognition.audit (frame.withRequest other) = Recognition.audit frame := by
  funext channel success client reason
  exact (h.auditCall _).symm

theorem reject_of_resembles (h : Resembles frame.request other) :
    Recognition.reject (frame.withRequest other) = Recognition.reject frame := by
  unfold Recognition.reject
  rw [audit_of_resembles h]

theorem conclude_of_resembles (h : Resembles frame.request other) :
    Recognition.conclude (frame.withRequest other) = Recognition.conclude frame := by
  unfold Recognition.conclude
  rw [audit_of_resembles h]

theorem byHeader_of_sameChecks (h : Resembles frame.request other)
    (checks : SameChecks stores credentials another) :
    Recognition.byHeader (frame.withRequest other) (Authentication.ofStores stores) another =
      Recognition.byHeader frame (Authentication.ofStores stores) credentials := by
  unfold Recognition.byHeader
  rw [conclude_of_resembles h, authenticate_of_sameChecks checks]

/-- What the headers of two requests hold is the same, or credentials that fare alike. -/
def HoldAlike (stores : Stores) (one other : Request) : Prop :=
  one.header? "authorization" = other.header? "authorization" ∨
    ∃ credentials another, Basic.Holds (one.header? "authorization") credentials ∧
      Basic.Holds (other.header? "authorization") another ∧ SameChecks stores credentials another

theorem SameChecks.refl (stores : Stores) (credentials : Basic.Credentials) :
    SameChecks stores credentials credentials := ⟨rfl, fun _ _ => rfl⟩

theorem read_of_holdAlike (h : HoldAlike stores one other) :
    (∃ fault, Basic.read (one.header? "authorization") = .error fault ∧
        Basic.read (other.header? "authorization") = .error fault) ∨
      (Basic.read (one.header? "authorization") = .ok none ∧
        Basic.read (other.header? "authorization") = .ok none) ∨
      ∃ credentials another, Basic.read (one.header? "authorization") = .ok (some credentials) ∧
        Basic.read (other.header? "authorization") = .ok (some another) ∧
        SameChecks stores credentials another := by
  rcases h with h | ⟨credentials, another, hone, hother, hchecks⟩
  · rw [h]
    cases Basic.read (other.header? "authorization") with
    | error fault => exact .inl ⟨fault, rfl, rfl⟩
    | ok found =>
      cases found with
      | none => exact .inr (.inl ⟨rfl, rfl⟩)
      | some credentials =>
        exact .inr (.inr ⟨credentials, credentials, rfl, rfl, .refl stores credentials⟩)
  · exact .inr (.inr ⟨credentials, another, Basic.read_of_holds hone, Basic.read_of_holds hother,
      hchecks⟩)

theorem unreadable_of_resembles (h : Resembles frame.request other) (fault : Basic.Fault) :
    Recognition.unreadable (frame.withRequest other) fault =
      Recognition.unreadable frame fault := by
  cases fault with
  | malformed => exact congrFun (congrFun (reject_of_resembles h) _) _
  | notAscii => rfl

theorem ofRequest_of_holdAlike (h : Resembles frame.request other)
    (hold : HoldAlike stores frame.request other)
    (client : g.lookup "client_id" = f.lookup "client_id") :
    Recognition.ofRequest (frame.withRequest other) (Authentication.ofStores stores) g =
      Recognition.ofRequest frame (Authentication.ofStores stores) f := by
  unfold Recognition.ofRequest
  rw [Frame.request_withRequest, client]
  rcases read_of_holdAlike hold with
    ⟨fault, hone, hother⟩ | ⟨hone, hother⟩ | ⟨credentials, another, hone, hother, hchecks⟩
  · rw [hone, hother]
    exact unreadable_of_resembles h fault
  · rw [hone, hother]
    cases f.lookup "client_id" with
    | none => simp only [reject_of_resembles h]
    | some clientId => simp only [conclude_of_resembles h]
  -- The secret is used in the one case where the header speaks alone.
  · rw [hone, hother]
    cases f.lookup "client_id" with
    | none => exact byHeader_of_sameChecks h hchecks
    | some clientId => simp only [reject_of_resembles h]

theorem ofConfidential_of_holdAlike (h : Resembles frame.request other)
    (hold : HoldAlike stores frame.request other) :
    Recognition.ofConfidential (frame.withRequest other) (Authentication.ofStores stores) =
      Recognition.ofConfidential frame (Authentication.ofStores stores) := by
  unfold Recognition.ofConfidential
  rw [Frame.request_withRequest]
  rcases read_of_holdAlike hold with
    ⟨fault, hone, hother⟩ | ⟨hone, hother⟩ | ⟨credentials, another, hone, hother, hchecks⟩
  · rw [hone, hother]
    exact unreadable_of_resembles h fault
  · rw [hone, hother]
    simp only [reject_of_resembles h]
  · rw [hone, hother]
    exact byHeader_of_sameChecks h hchecks

/-! ## The endpoints -/

/-- The requests differ at most in the password of the form, and in secrets that fare alike. -/
structure DifferInSecrets (stores : Stores) (one other : Request) : Prop where
  resemble : Resembles one other
  forms : ReadAlike "password" (Form.read one) (Form.read other)
  hold : HoldAlike stores one other

theorem decide_of_resembles (h : Resembles frame.request other) (rules : Grant.Rules)
    (principal : Client.Principal) (forms : SameFields "password" f g) :
    decide rules (frame.withRequest other) state principal g =
      decide rules frame state principal f := by
  have htype : f.lookup "grant_type" = g.lookup "grant_type" := forms.lookup (by decide)
  unfold decide
  rw [Frame.fresh_withRequest,
    Grant.exchange_of_sameRequest _ _ _ _ (sameRequest_of_sameFields forms), htype]
  simp only [Frame.request_withRequest, Frame.noted_withRequest, h.auditCall]

theorem tokenEndpoint_of_secrets (rules : Grant.Rules)
    (h : DifferInSecrets state.data frame.request other) :
    tokenEndpoint rules (frame.withRequest other) state = tokenEndpoint rules frame state := by
  unfold tokenEndpoint
  rw [Frame.request_withRequest]
  rcases h.forms with ⟨fault, hone, hother⟩ | ⟨f, g, hone, hother, hforms⟩
  · rw [hone, hother]
  · have hclient : f.lookup "client_id" = g.lookup "client_id" := hforms.lookup (by decide)
    rw [hone, hother]
    simp only [ofRequest_of_holdAlike h.resemble h.hold hclient.symm,
      decide_of_resembles h.resemble rules _ hforms]

theorem lookUp_of_resembles (h : Resembles frame.request other) (client : Client.Principal)
    (token : g.lookup "token" = f.lookup "token") :
    lookUp (frame.withRequest other) state client g = lookUp frame state client f := by
  unfold lookUp
  rw [token]
  simp only [Frame.request_withRequest, Frame.noted_withRequest, h.auditCall]

theorem introspectEndpoint_of_secrets (h : DifferInSecrets state.data frame.request other) :
    introspectEndpoint (frame.withRequest other) state = introspectEndpoint frame state := by
  unfold introspectEndpoint
  rw [Frame.request_withRequest]
  rcases h.forms with ⟨fault, hone, hother⟩ | ⟨f, g, hone, hother, hforms⟩
  · rw [hone, hother]
  · have htoken : f.lookup "token" = g.lookup "token" := hforms.lookup (by decide)
    rw [hone, hother]
    simp only [ofConfidential_of_holdAlike h.resemble h.hold,
      lookUp_of_resembles h.resemble _ htoken.symm]

/-- No endpoint replies to the one request otherwise than to the other. -/
theorem endpoint_of_secrets (h : DifferInSecrets state.data frame.request other) {r : Route Data}
    (hr : r ∈ app.service.routes) :
    r.endpoint (frame.withRequest other) state = r.endpoint frame state := by
  -- Only the endpoints for tokens and for introspection look at the request.
  cases mem_routes_iff.mp hr with
  | page page => rfl
  | counts => rfl
  | token => simp only [tokenEndpoint_of_secrets app.rules h]
  | introspection => simp only [introspectEndpoint_of_secrets h]
  | live => rfl
  | ready => rfl

/-! ## From the endpoints to what is served -/

theorem correlationIdOf_of_resembles (h : Resembles frame.request other) :
    Layer.correlationIdOf (frame.withRequest other) = Layer.correlationIdOf frame := by
  have hid : (frame.withRequest other).request.correlationId? = frame.request.correlationId? :=
    correlationId?_congr (h.header Request.correlationHeader (by decide)).symm
  unfold Layer.correlationIdOf
  rw [hid]
  rfl

theorem inside_of_resembles (h : Resembles frame.request other) :
    inside (frame.withRequest other) = (inside frame).withRequest other := by
  unfold inside
  rw [correlationIdOf_of_resembles h]
  rfl

theorem released_withRequest (frame : Frame) (request : Request) :
    released (frame.withRequest request) = released frame := rfl

theorem routed_of_resembles (h : Resembles frame.request other)
    (same : ∀ r ∈ app.service.routes,
      r.endpoint ((inside frame).withRequest other) state = r.endpoint (inside frame) state) :
    routed app (frame.withRequest other) state = routed app frame state := by
  have hinside : Resembles (inside frame).request other := h
  have hhandle (fault : Fault) :
      Failure.handle app.service.policy ((inside frame).withRequest other).request
          ((inside frame).withRequest other).noted fault =
        Failure.handle app.service.policy (inside frame).request (inside frame).noted fault :=
    (hinside.handle app.service.policy fault).symm
  unfold routed router
  rw [inside_of_resembles h, hinside.dispatch same]
  simp only [hhandle]
  rfl

/-- Where the endpoints reply to both requests alike, so do the layers. -/
theorem handler_of_resembles (h : Resembles frame.request other)
    (same : ∀ r ∈ app.service.routes,
      r.endpoint ((inside frame).withRequest other) state = r.endpoint (inside frame) state) :
    app.service.handler (frame.withRequest other) state = app.service.handler frame state := by
  have haddress : (frame.withRequest other).request.addressFault? = frame.request.addressFault? :=
    h.addressFault?.symm
  cases hreadable : frame.request.addressFault? with
  | some fault =>
    rw [hreadable] at haddress
    rw [handler_of_address app _ _ hreadable, handler_of_address app _ _ haddress,
      inside_of_resembles h, released_withRequest]
    rfl
  | none =>
    rw [hreadable] at haddress
    have hinside : Resembles (inside frame).request other := h
    have hmethod : (frame.withRequest other).request.method = frame.request.method :=
      h.rest.method.symm
    have hpath : (frame.withRequest other).request.shownPath = frame.request.shownPath :=
      h.shownPath.symm
    have hdressed : dressed (frame.withRequest other) = dressed frame := by
      unfold dressed
      rw [correlationIdOf_of_resembles h]
    -- What is observed of a request is its path and method, what is logged its fields.
    have hspan (answer : Except Unexpected Response) :
        Layer.spanOf ((inside frame).withRequest other) answer =
          Layer.spanOf (inside frame) answer := by
      unfold Layer.spanOf Frame.withRequest
      rw [← hinside.shownPath, ← hinside.rest.method]
    have hcompleted (answer : Except Unexpected Response) :
        Layer.completedCall ((inside frame).withRequest other) answer =
          Layer.completedCall (inside frame) answer := by
      unfold Layer.completedCall Frame.withRequest
      rw [← hinside.requestFields]
    rw [handler_of_readable app _ _ hreadable, handler_of_readable app _ _ haddress]
    simp only [routed_of_resembles h same, hdressed, inside_of_resembles h, hspan, hcompleted,
      hmethod, hpath, released_withRequest]
    rfl

/-- Where the endpoints reply to both requests alike, the same is served. -/
theorem serve_of_resembles (h : Resembles one other) (fresh : Grant.Fresh) (seconds : Double)
    (same : ∀ r ∈ app.service.routes,
      r.endpoint ((inside (.enter one fresh seconds)).withRequest other) state =
        r.endpoint (inside (.enter one fresh seconds)) state) :
    app.serve other fresh seconds state = app.serve one fresh seconds state := by
  have hone : Resembles (Frame.enter one fresh seconds).request other := h
  have hframe : (Frame.enter one fresh seconds).withRequest other =
      .enter other fresh seconds := rfl
  have hhandler := handler_of_resembles hone same
  rw [hframe] at hhandler
  have hcall (noted : Option Json) (fault : Unexpected) :
      Failure.unexpectedCall (Frame.enter other fresh seconds).request noted fault =
        Failure.unexpectedCall (Frame.enter one fresh seconds).request noted fault :=
    (h.unexpectedCall fault).symm
  unfold Application.serve Http.Service.serve
  rw [hhandler]
  simp only [hcall]

/-! ## Passwords and secrets -/

theorem scheme_of_isBasic (h : Basic.IsBasic (one.header? "authorization")) :
    one.authorizationScheme = some "basic" := by
  have hvalue : one.trimmedHeader "authorization" = Basic.value (one.header? "authorization") := rfl
  have hfilled : (Basic.value (one.header? "authorization")).isEmpty = false := by
    rw [List.isEmpty_eq_false_iff]
    exact fun hblank => Basic.not_isBasic_of_blank hblank h
  unfold Request.authorizationScheme
  simp only [hvalue, hfilled]
  exact congrArg some h

theorem serve_of_secrets (h : DifferInSecrets state.data one other) (fresh : Grant.Fresh)
    (seconds : Double) :
    app.serve other fresh seconds state = app.serve one fresh seconds state := by
  apply serve_of_resembles h.resemble
  intro r hr
  have hone : DifferInSecrets state.data (inside (.enter one fresh seconds)).request other := h
  exact endpoint_of_secrets hone hr

theorem differInSecrets_of_passwords (rest : Request.AgreeBut ["content-length"] one other)
    (bodies : SameBodies "password" one.body other.body) : DifferInSecrets stores one other where
  resemble := .of_agreeBut rest
  forms := readAlike_of_sameBodies (rest.header "content-type" (by decide)) bodies
  hold := .inl (rest.header "authorization" (by decide))

theorem differInSecrets_of_credentials (rest : Request.AgreeBut ["authorization"] one other)
    (body : one.body = other.body) (held : Basic.Holds (one.header? "authorization") credentials)
    (alsoHeld : Basic.Holds (other.header? "authorization") another)
    (checks : SameChecks stores credentials another) : DifferInSecrets stores one other where
  resemble :=
    { rest :=
        { rest with
          header := fun name hn =>
            rest.header name fun hauthorization =>
              hn (List.mem_append_left ["content-length"] hauthorization) }
      scheme := (scheme_of_isBasic held.1).trans (scheme_of_isBasic alsoHeld.1).symm }
  forms := by
    have hread : Form.read one = Form.read other := by
      unfold Form.read Form.requestType
      rw [rest.header "content-type" (by decide), body]
    rw [hread]
    exact .refl "password" (Form.read other)
  hold := .inr ⟨credentials, another, held, alsoHeld, checks⟩

/-- Requests that differ in the values of the password of their forms only are served alike in every
respect: what is answered and raised, what is stored and counted, what is logged and traced. So are
requests of one client with secrets that fare alike against the hashes on file for it. -/
theorem secrets_stay_inside (app : Application) (state : State Data) (one other : Request)
    (fresh : Grant.Fresh) (seconds : Double) :
    (Request.AgreeBut ["content-length"] one other →
        SameBodies "password" one.body other.body →
        app.serve other fresh seconds state = app.serve one fresh seconds state) ∧
      ∀ credentials another, Request.AgreeBut ["authorization"] one other →
        one.body = other.body →
        Basic.Holds (one.header? "authorization") credentials →
        Basic.Holds (other.header? "authorization") another →
        SameChecks state.data credentials another →
        app.serve other fresh seconds state = app.serve one fresh seconds state := by
  constructor
  · intro rest bodies
    exact serve_of_secrets (differInSecrets_of_passwords rest bodies) fresh seconds
  · intro credentials another rest body held alsoHeld checks
    exact serve_of_secrets (differInSecrets_of_credentials rest body held alsoHeld checks) fresh
      seconds

/-- Two passwords of the demo user, and two secrets of the demo client with nothing on file that
either could match. -/
theorem secrets_stay_inside_demo :
    (Application.standard.serve
        (Demo.request Demo.authorization "/token"
          "grant_type=password&username=alice&password=looking-glass&scope=basic")
        Demo.fresh (.signedZero false) ⟨.empty, Demo.stores ⟨4⟩ "unset"⟩ =
      Application.standard.serve Demo.tokenRequest Demo.fresh (.signedZero false)
        ⟨.empty, Demo.stores ⟨4⟩ "unset"⟩) ∧
    Application.standard.serve
        (Demo.request "Basic YWFyZHZhcms6d2Vhc2Vs" "/introspect" "token=none")
        Demo.fresh (.signedZero false) ⟨.empty, Demo.stores ⟨4⟩ "unset"⟩ =
      Application.standard.serve (Demo.request Demo.authorization "/introspect" "token=none")
        Demo.fresh (.signedZero false) ⟨.empty, Demo.stores ⟨4⟩ "unset"⟩ := by
  have hother : Basic.Holds (some "Basic YWFyZHZhcms6d2Vhc2Vs")
      ⟨Demo.confidentialId.text, "weasel"⟩ := Basic.read_eq_some_iff.mp rfl
  have hpasswords : Request.AgreeBut ["content-length"] Demo.tokenRequest
      (Demo.request Demo.authorization "/token"
        "grant_type=password&username=alice&password=looking-glass&scope=basic") := by
    refine ⟨rfl, rfl, rfl, rfl, fun name _ => ?_⟩
    unfold Request.header?
    rfl
  have hsecrets : Request.AgreeBut ["authorization"]
      (Demo.request Demo.authorization "/introspect" "token=none")
      (Demo.request "Basic YWFyZHZhcms6d2Vhc2Vs" "/introspect" "token=none") := by
    refine ⟨rfl, rfl, rfl, rfl, fun name hn => ?_⟩
    have hauthorization : Text.lowered "authorization" = "authorization" := by decide
    -- The header that differs is passed over when any other one is looked for.
    have hne : Decidable.decide (Text.lowered "authorization" = name) = false := by
      rw [hauthorization, decide_eq_false_iff_not]
      exact fun he => hn (List.mem_singleton.mpr he.symm)
    unfold Request.header? Headers.first? Demo.request
    simp only [List.find?_cons, hne]
  have hone : Percent.pairs
      "grant_type=password&username=alice&password=wonderland&scope=basic".toList =
        [("grant_type".toList, "password".toList), ("username".toList, "alice".toList),
         ("password".toList, "wonderland".toList), ("scope".toList, "basic".toList)] := by
    decide +kernel
  have htwo : Percent.pairs
      "grant_type=password&username=alice&password=looking-glass&scope=basic".toList =
        [("grant_type".toList, "password".toList), ("username".toList, "alice".toList),
         ("password".toList, "looking-glass".toList), ("scope".toList, "basic".toList)] := by
    decide +kernel
  constructor
  · refine (secrets_stay_inside .standard ⟨.empty, Demo.stores ⟨4⟩ "unset"⟩ Demo.tokenRequest _
      Demo.fresh (.signedZero false)).1 hpasswords
      ⟨_, _, Utf8.decode?_encode _, Utf8.decode?_encode _, ?_⟩
    rw [hone, htwo]
    exact .cons ⟨rfl, fun _ => rfl⟩ (.cons ⟨rfl, fun _ => rfl⟩
      (.cons ⟨rfl, fun hname => absurd rfl hname⟩ (.cons ⟨rfl, fun _ => rfl⟩ .nil)))
  · refine (secrets_stay_inside .standard ⟨.empty, Demo.stores ⟨4⟩ "unset"⟩ _ _
      Demo.fresh (.signedZero false)).2 ⟨Demo.confidentialId.text, Demo.confidentialSecret⟩
        ⟨Demo.confidentialId.text, "weasel"⟩ hsecrets rfl ?_ ?_ ⟨rfl, fun record hr => ?_⟩
    · rw [Demo.header_request]
      exact Demo.holds_authorization
    · rw [Demo.header_request]
      exact hother
    · -- The only record on file has no hash, which neither secret fits.
      have he : record = ⟨⟨4⟩, Demo.confidentialId, "unset"⟩ := List.mem_singleton.mp hr
      rw [he]
      rfl

end TokenIssuer.Service
