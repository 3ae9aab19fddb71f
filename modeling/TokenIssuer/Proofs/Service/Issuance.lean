import TokenIssuer.Proofs.Grant
import TokenIssuer.Proofs.Service.Recognition
import TokenIssuer.Proofs.Service.Run

/-!
When tokens are issued, and what is then stored. Everything that decides is looked up in the stores
as they are when the request is served.
-/

namespace TokenIssuer.Service

open Http Store

variable {rules : Grant.Rules} {frame : Frame} {state : State Data} {form : Form}
  {credentials : Basic.Credentials} {accepted : Grant.Password.Accepted}

/-- The request is one that tokens are to be issued for: its form comes with the credentials of a
confidential client in the header and no identifier in the form, and asks for the grant of the
password in favour of that client. -/
structure Grantable (rules : Grant.Rules) (stores : Stores) (request : Request) (form : Form)
    (credentials : Basic.Credentials) (accepted : Grant.Password.Accepted) : Prop where
  formed : Form.read request = .ok form
  held : Basic.Holds (request.header? "authorization") credentials
  single : form.lookup "client_id" = none
  proven : Recognition.Proven stores credentials accepted.client
  grant : form.lookup "grant_type" = some "password"
  asks : Grant.Asks rules.registry form accepted

/-- The stores with the access token for an accepted request. -/
def withToken (stores : Stores) (fresh : Grant.Fresh) (accepted : Grant.Password.Accepted) :
    Stores :=
  { stores with tokens := stores.tokens.put (Grant.accessToken fresh accepted) }

/-- The response with the tokens for an accepted request. -/
def issuedResponse (rules : Grant.Rules) (fresh : Grant.Fresh)
    (accepted : Grant.Password.Accepted) : Response :=
  { status := 200
    headers :=
      [("cache-control", "no-store"), ("pragma", "no-cache"), ("content-type", "application/json")]
    body := .json (issuedBody (Grant.issuedTokens rules fresh accepted)) }

theorem isFinite_issuedBody (tokens : Grant.Issued) : (issuedBody tokens).isFinite = true := by
  obtain ⟨access, expires, refresh, scope⟩ := tokens
  cases scope <;> rfl

/-- The response that tells a decision. -/
def decidedResponse (decision : Grant.Decision) : Response :=
  { status :=
      match decision with
      | .issued _ => 200
      | .refused _ => 400
    headers :=
      [("cache-control", "no-store"), ("pragma", "no-cache"), ("content-type", "application/json")]
    body :=
      match decision with
      | .issued tokens => .json (issuedBody tokens)
      | .refused refusal => .json (refusedBody refusal) }

theorem status_decidedResponse (decision : Grant.Decision) :
    (decidedResponse decision).status = 200 ∨ (decidedResponse decision).status = 400 := by
  cases decision with
  | issued tokens => exact .inl rfl
  | refused refusal => exact .inr rfl

/-- Every decision can be told. -/
theorem decisionAnswer_eq (decision : Grant.Decision) :
    decisionAnswer decision = .ok (decidedResponse decision) := by
  have hsendable : ∀ h ∈ noStore, foreign? (Text.lowered h.1) = none ∧ foreign? h.2 = none := by
    decide
  have hnames : (noStore.map fun h => (Text.lowered h.1, h.2)) =
      [("cache-control", "no-store"), ("pragma", "no-cache")] := by decide
  have htold (status : Int) (content : Json) (finite : content.isFinite) :=
    Response.json_eq_ok status content noStore finite hsendable
  rw [hnames] at htold
  unfold decisionAnswer answer
  cases decision with
  | issued tokens =>
    simp only [htold 200 _ (isFinite_issuedBody tokens)]
    rfl
  | refused refusal =>
    have hfinite : (refusedBody refusal).isFinite = true := rfl
    simp only [htold 400 _ hfinite]
    rfl

theorem decisionAnswer_issued (rules : Grant.Rules) (fresh : Grant.Fresh)
    (accepted : Grant.Password.Accepted) :
    decisionAnswer (.issued (Grant.issuedTokens rules fresh accepted)) =
      .ok (issuedResponse rules fresh accepted) :=
  decisionAnswer_eq _

theorem status_of_answer {status : Int} {content : Json} {headers : Headers} {response : Response}
    (h : answer status content headers = .ok response) : response.status = status :=
  (Response.of_json (mapError_eq_ok_iff.mp h)).1

theorem fault_of_answer {status : Int} {content : Json} {headers : Headers} {fault : Fault}
    (h : answer status content headers = .error fault) : fault.status = 500 := by
  unfold answer at h
  cases hj : Response.json status content headers with
  | ok response => rw [hj] at h; cases h
  | error cause => rw [hj] at h; cases h; rfl

/-- What the token endpoint replies: it ends before the exchange when the form cannot be read or the
client is not recognised, and else with a decision, unless a store cannot be reached. -/
inductive TokenReply (rules : Grant.Rules) (frame : Frame) (state : State Data)
    (reply : Reply Data) : Prop where
  | unread {fault : Form.Fault} (unformed : Form.read frame.request = .error fault)
      (result : reply.result = .error (.ofForm fault)) (left : reply.state = state)
      (calls : reply.calls = [])
  | refused {form : Form} {fault : Fault} (formed : Form.read frame.request = .ok form)
      (unrecognised : (Recognition.ofRequest frame (Authentication.ofStores state.data)
        form).result = .error fault)
      (result : reply.result = .error fault) (left : reply.state = state)
      (calls : reply.calls =
        (Recognition.ofRequest frame (Authentication.ofStores state.data) form).calls)
  | unreached {form : Form} {principal : Client.Principal} {u : Unreachable}
      (formed : Form.read frame.request = .ok form)
      (recognised : (Recognition.ofRequest frame (Authentication.ofStores state.data)
        form).result = .ok principal)
      (exchange : (Grant.exchange rules frame.fresh state.data principal form).result = .error u)
      (result : reply.result = .error (.ofUnreachable u)) (left : reply.state = state)
      (calls : reply.calls =
        (Recognition.ofRequest frame (Authentication.ofStores state.data) form).calls ++
          (Grant.exchange rules frame.fresh state.data principal form).calls)
  | decided {form : Form} {principal : Client.Principal} {decision : Grant.Decision}
      {after : Stores} (formed : Form.read frame.request = .ok form)
      (recognised : (Recognition.ofRequest frame (Authentication.ofStores state.data)
        form).result = .ok principal)
      (exchange : (Grant.exchange rules frame.fresh state.data principal form).result =
        .ok (decision, after))
      (result : reply.result = .ok (decidedResponse decision))
      (left : reply.state = ⟨state.registry.recordOutcome
        ⟨Grant.typeLabel (form.lookup "grant_type"), decisionLabel decision⟩, after⟩)
      (calls : reply.calls =
        (Recognition.ofRequest frame (Authentication.ofStores state.data) form).calls ++
          ((Grant.exchange rules frame.fresh state.data principal form).calls ++
            [(decisionEvent principal (form.lookup "grant_type") decision).call frame.request
              frame.noted]))

theorem tokenEndpoint_replies (rules : Grant.Rules) (frame : Frame) (state : State Data) :
    TokenReply rules frame state (tokenEndpoint rules frame state) := by
  unfold tokenEndpoint
  cases hform : Form.read frame.request with
  | error fault => exact .unread hform rfl rfl rfl
  | ok form =>
    simp only
    cases hrecognition :
        (Recognition.ofRequest frame (Authentication.ofStores state.data) form).result with
    | error fault =>
      simp only [keep]
      refine .refused hform hrecognition rfl rfl ?_
      dsimp only
    | ok principal =>
      simp only [decide]
      cases hexchange : (Grant.exchange rules frame.fresh state.data principal form).result with
      | error u =>
        simp only [keep]
        exact .unreached hform hrecognition hexchange rfl rfl rfl
      | ok exchanged =>
        obtain ⟨decision, after⟩ := exchanged
        exact .decided hform hrecognition hexchange (decisionAnswer_eq decision) rfl rfl

/-- A grantable request is given its tokens when the stores answer. -/
theorem tokenEndpoint_of_grantable (frame : Frame) (up : state.data.Up)
    (checkable : Authentication.Checkable state.data credentials.clientId
      (Utf8.encode credentials.secret.toList))
    (h : Grantable rules state.data frame.request form credentials accepted) :
    (tokenEndpoint rules frame state).state.data = withToken state.data frame.fresh accepted ∧
      (tokenEndpoint rules frame state).result =
        .ok (issuedResponse rules frame.fresh accepted) := by
  have hrecognised := Recognition.ofRequest_of_proven frame up.clients up.secrets h.held h.single
    h.proven checkable
  have hexchange := Grant.exchange_of_asks rules frame.fresh state.data h.grant h.asks
  have hissue := Grant.issue_of_up rules frame.fresh accepted up.tokens
  unfold tokenEndpoint
  simp only [h.formed, hrecognised, decide, hexchange, hissue, decisionAnswer_issued, and_true]
  rfl

theorem status_ofForm (fault : Form.Fault) : 400 ≤ (Fault.ofForm fault).status := by
  cases fault with
  | mediaType => show (400 : Int) ≤ 415; omega
  | notText => show (400 : Int) ≤ 400; omega
  | repeated name => show (400 : Int) ≤ 400; omega

/-- Either the request was grantable and is given its tokens, or it is refused in some way and the
stores stay as they are. -/
theorem tokenEndpoint_cases (rules : Grant.Rules) (frame : Frame) (state : State Data) :
    (∃ form credentials accepted,
        Grantable rules state.data frame.request form credentials accepted ∧ state.data.Up ∧
        (tokenEndpoint rules frame state).state.data = withToken state.data frame.fresh accepted ∧
        (tokenEndpoint rules frame state).result =
          .ok (issuedResponse rules frame.fresh accepted)) ∨
      (tokenEndpoint rules frame state).state.data = state.data ∧
        (∀ response, (tokenEndpoint rules frame state).result = .ok response →
          response.status = 400) ∧
        ∀ fault, (tokenEndpoint rules frame state).result = .error fault → 400 ≤ fault.status := by
  -- A fault leaves the stores as they are.
  have hkept {reply : Reply Data} {fault : Fault} (result : reply.result = .error fault)
      (left : reply.state = state) (failure : 400 ≤ fault.status) :
      reply.state.data = state.data ∧
        (∀ response, reply.result = .ok response → response.status = 400) ∧
        ∀ other, reply.result = .error other → 400 ≤ other.status := by
    rw [result, left]
    refine ⟨rfl, fun response h => ?_, fun other h => ?_⟩
    · cases h
    · cases h
      exact failure
  cases tokenEndpoint_replies rules frame state with
  | @unread fault _ result left _ => exact .inr (hkept result left (status_ofForm fault))
  | refused _ unrecognised result left _ =>
    exact .inr (hkept result left (Recognition.status_of_ofRequest unrecognised))
  | unreached _ _ _ result left _ =>
    exact .inr (hkept result left (by show (400 : Int) ≤ 503; omega))
  | @decided form _ _ _ formed recognised exchange result left _ =>
    rw [result, left]
    -- Only a decision to issue tokens comes with other stores.
    rcases Grant.of_exchange exchange with
      ⟨accepted, rfl, hgrant, hasks, htokens, rfl, rfl⟩ | ⟨⟨refusal, rfl⟩, rfl⟩
    · left
      obtain ⟨hclients, hsecrets, credentials, hheld, hsingle, hproven⟩ :=
        Recognition.confidential_of_ofRequest recognised
      exact ⟨form, credentials, accepted, ⟨formed, hheld, hsingle, hproven, hgrant, hasks⟩,
        ⟨hclients, hsecrets, htokens⟩, rfl, rfl⟩
    · right
      refine ⟨rfl, fun response h => ?_, fun fault h => ?_⟩
      · cases h
        rfl
      · cases h

/-! ## Requests that are served -/

variable {app : Application} {request : Request}

theorem proven_id {stores : Stores} {client : Client.Configuration}
    (h : Recognition.Proven stores credentials client) : client.id.text = credentials.clientId :=
  Clients.id_of_find h.registered

/-- What is sent for a fault has the status of the fault, or the service itself failed. -/
theorem status_of_sent (app : Application) (frame : Frame) (fault : Fault) :
    (sent app frame (answered app (inside frame) (.error fault))).status = fault.status ∨
      (sent app frame (answered app (inside frame) (.error fault))).status = 500 := by
  have hanswered : answered app (inside frame) (.error fault) =
      (Failure.handle app.service.policy (inside frame).request (inside frame).noted fault).2 := rfl
  rw [hanswered]
  cases ha : (Failure.handle app.service.policy (inside frame).request (inside frame).noted
      fault).2 with
  | error cause => exact .inr rfl
  | ok answer =>
    left
    show answer.status = fault.status
    exact Failure.status_of_handle ha

/-- What is sent for a fault has a status of failure. -/
theorem status_of_sent_fault (app : Application) (frame : Frame) {fault : Fault}
    (h : 400 ≤ fault.status) :
    400 ≤ (sent app frame (answered app (inside frame) (.error fault))).status := by
  have hstatus := status_of_sent app frame fault
  omega

/-- The request is one to the token endpoint, and is answered with tokens. -/
def Issues (app : Application) (request : Request) (fresh : Grant.Fresh) (seconds : Double)
    (state : State Data) : Prop :=
  request.Is "POST" "/token" ∧
    (app.serve request fresh seconds state).response.map (·.status) = some 200

/-- A served request is either grantable, is answered with its tokens and leaves the access token in
the stores, or is not answered with tokens and leaves nothing. -/
theorem serve_cases (app : Application) (request : Request) (fresh : Grant.Fresh)
    (seconds : Double) (state : State Data) :
    (request.Is "POST" "/token" ∧ ∃ form credentials accepted,
        Grantable app.rules state.data request form credentials accepted ∧ state.data.Up ∧
          (app.serve request fresh seconds state).response =
            some (dressed (.enter request fresh seconds)
              (issuedResponse app.rules fresh accepted)) ∧
          (app.serve request fresh seconds state).state.data =
            withToken state.data fresh accepted) ∨
      ¬ Issues app request fresh seconds state ∧
        (app.serve request fresh seconds state).state.data = state.data := by
  cases hreadable : request.addressFault? with
  | some address =>
    right
    obtain ⟨hresponse, -, hstate⟩ := serve_of_address app hreadable fresh seconds state
    refine ⟨fun h => ?_, by rw [hstate]⟩
    rw [Issues, hresponse] at h
    exact absurd h.2 (by simp)
  | none =>
    obtain ⟨hresponse, hdata⟩ := serve_of_readable app hreadable fresh seconds state
    rw [routed_answer] at hresponse
    rw [routed_state] at hdata
    by_cases hpost : request.Is "POST" "/token"
    · have henter : (Frame.enter request fresh seconds).request.Is "POST" "/token" := hpost
      rw [replied_of_token henter] at hresponse hdata
      rcases tokenEndpoint_cases app.rules (inside (.enter request fresh seconds)) state with
        ⟨form, credentials, accepted, hgrantable, hup, hd, hr⟩ | ⟨hd, hok, herror⟩
      · left
        rw [hr] at hresponse
        rw [hd] at hdata
        exact ⟨hpost, form, credentials, accepted, hgrantable, hup, hresponse, hdata⟩
      -- Every refusal has a status of failure, so that it is no answer with tokens.
      · right
        refine ⟨fun h => ?_, by rw [hdata, hd]⟩
        rw [Issues, hresponse, Option.map_some, Option.some.injEq] at h
        have hstatus := h.2
        cases hresult : (tokenEndpoint app.rules (inside (.enter request fresh seconds))
            state).result with
        | ok response =>
          rw [hresult] at hstatus
          have hs : response.status = 200 := hstatus
          rw [hok response hresult] at hs
          omega
        | error fault =>
          rw [hresult] at hstatus
          have hs := status_of_sent_fault app (.enter request fresh seconds)
            (herror fault hresult)
          rw [hstatus] at hs
          omega
    · right
      have henter : ¬ (Frame.enter request fresh seconds).request.Is "POST" "/token" := hpost
      refine ⟨fun h => hpost h.1, ?_⟩
      rw [hdata, replied_state_of_not_token app henter]

/-- A grantable request to the token endpoint is answered with its tokens. -/
theorem serve_of_grantable (state : State Data) (fresh : Grant.Fresh) (seconds : Double)
    (post : request.Is "POST" "/token") (readable : request.addressFault? = none)
    (up : state.data.Up)
    (checkable : Authentication.Checkable state.data credentials.clientId
      (Utf8.encode credentials.secret.toList))
    (h : Grantable app.rules state.data request form credentials accepted) :
    (app.serve request fresh seconds state).response =
        some (dressed (.enter request fresh seconds) (issuedResponse app.rules fresh accepted)) ∧
      (app.serve request fresh seconds state).state.data =
        withToken state.data fresh accepted := by
  have hpost : (Frame.enter request fresh seconds).request.Is "POST" "/token" := post
  obtain ⟨hdata, hresult⟩ :=
    tokenEndpoint_of_grantable (inside (.enter request fresh seconds)) up checkable h
  obtain ⟨hresponse, hserved⟩ := serve_of_readable app readable fresh seconds state
  rw [hserved, routed_state, hresponse, routed_answer, replied_of_token hpost, hdata, hresult]
  exact ⟨rfl, rfl⟩

theorem grantable_demo {id : Uuid} {hash : String}
    (verified :
      Secret.verify (.bytes (Utf8.encode Demo.confidentialSecret.toList)) hash = .ok true) :
    Grantable Application.standard.rules (Demo.stores id hash) Demo.tokenRequest Demo.tokenForm
      ⟨Demo.confidentialId.text, Demo.confidentialSecret⟩ Demo.accepted where
  formed := Demo.read_tokenRequest
  held := by
    unfold Demo.tokenRequest
    rw [Demo.header_request]
    exact Demo.holds_authorization
  single := rfl
  proven := Demo.proves_confidential verified
  grant := rfl
  asks := Demo.asks_accepted

/-- The demo client is given its tokens by the stores the service starts with. -/
theorem serve_demo {id : Uuid} {hash : String}
    (verified :
      Secret.verify (.bytes (Utf8.encode Demo.confidentialSecret.toList)) hash = .ok true)
    (fresh : Grant.Fresh) (seconds : Double) (registry : Metrics.Registry) :
    (Application.standard.serve Demo.tokenRequest fresh seconds
        ⟨registry, Demo.stores id hash⟩).response =
        some (dressed (.enter Demo.tokenRequest fresh seconds)
          (issuedResponse Application.standard.rules fresh Demo.accepted)) ∧
      (Application.standard.serve Demo.tokenRequest fresh seconds
        ⟨registry, Demo.stores id hash⟩).state.data =
        withToken (Demo.stores id hash) fresh Demo.accepted := by
  exact serve_of_grantable ⟨registry, Demo.stores id hash⟩ fresh seconds ⟨rfl, .inl rfl⟩ rfl
    (Demo.up_stores id hash) (Demo.checkable_confidential verified) (grantable_demo verified)

/-- The scopes of a token are the ones its form asks for: none without a scope text, and otherwise
exactly the names in it, of which there is at least one. -/
def CarriesScopes (form : Form) : Option (List String) → Prop
  | none => form.lookup "scope" = none
  | some names => names ≠ [] ∧ ∃ raw, form.lookup "scope" = some raw ∧
      ∀ name, name ∈ names ↔ name ∈ Scope.tokens raw

theorem carriesScopes_of_asks {registry : Scope.Registry}
    (h : Grant.Asks registry form accepted) : CarriesScopes form accepted.scopes := by
  have hscopes := h.scopes
  cases he : accepted.scopes with
  | none =>
    rw [he] at hscopes
    cases hscopes with
    | absent ha => exact ha
  | some names =>
    rw [he] at hscopes
    cases hscopes with
    | given hg parsed _ =>
      obtain ⟨hne, hmem⟩ := Scope.Registry.of_parseText parsed
      exact ⟨hne, _, hg, hmem⟩

/-- Whatever happened before, a request adds a token only when it is grantable against the stores as
they are now, and then the token of what it asked for; and a grantable request is answered with its
tokens, the access token being stored, when its address can be told and the stores answer. -/
theorem issuance (app : Application) (start : State Data) (steps : List Step) (request : Request)
    (fresh : Grant.Fresh) (seconds : Double) :
    (∀ token ∈ (app.serve request fresh seconds (app.run start steps)).state.data.tokens.rows,
        token ∉ (app.run start steps).data.tokens.rows →
        request.Is "POST" "/token" ∧ ∃ form credentials accepted,
          Grantable app.rules (app.run start steps).data request form credentials accepted ∧
            (app.serve request fresh seconds (app.run start steps)).state.data =
              withToken (app.run start steps).data fresh accepted ∧
            token.id = fresh.accessToken ∧ token.client.text = credentials.clientId ∧
            form.lookup "username" = some token.username ∧ CarriesScopes form token.scopes) ∧
      (∀ form credentials accepted,
        request.Is "POST" "/token" → request.addressFault? = none →
        (app.run start steps).data.Up →
        Authentication.Checkable (app.run start steps).data credentials.clientId
          (Utf8.encode credentials.secret.toList) →
        Grantable app.rules (app.run start steps).data request form credentials accepted →
        (app.serve request fresh seconds (app.run start steps)).response =
            some (dressed (.enter request fresh seconds)
              (issuedResponse app.rules fresh accepted)) ∧
          (app.serve request fresh seconds (app.run start steps)).state.data =
            withToken (app.run start steps).data fresh accepted) := by
  constructor
  · intro token hnew hold
    -- A token that was not there before can only be of the one step that stores.
    rcases serve_cases app request fresh seconds (app.run start steps) with
      ⟨hpost, form, credentials, accepted, hgrantable, -, -, hdata⟩ | ⟨-, hdata⟩
    · have htoken : token = Grant.accessToken fresh accepted := by
        rw [hdata] at hnew
        rcases Table.mem_rows_put hnew with he | hm
        · exact he
        · exact absurd hm hold
      subst htoken
      exact ⟨hpost, form, credentials, accepted, hgrantable, hdata, rfl,
        proven_id hgrantable.proven, hgrantable.asks.username,
        carriesScopes_of_asks hgrantable.asks⟩
    · rw [hdata] at hnew
      exact absurd hnew hold
  · intro form credentials accepted hpost hreadable hup hcheckable hgrantable
    exact serve_of_grantable _ fresh seconds hpost hreadable hup hcheckable hgrantable

/-- The confidential demo client is given tokens by the stores that the service starts with. -/
theorem issuance_demo :
    ∃ stores,
      Application.standard.startStores (List.replicate 8 1) ⟨4⟩ = .ok stores ∧
        (Application.standard.serve Demo.tokenRequest Demo.fresh (.signedZero false)
          ⟨.empty, stores⟩).response =
          some (dressed (.enter Demo.tokenRequest Demo.fresh (.signedZero false))
            (issuedResponse Application.standard.rules Demo.fresh Demo.accepted)) ∧
        (Application.standard.serve Demo.tokenRequest Demo.fresh (.signedZero false)
          ⟨.empty, stores⟩).state.data = withToken stores Demo.fresh Demo.accepted := by
  obtain ⟨hash, hs, hv⟩ := Demo.startStores_standard
  have hissuance := issuance .standard ⟨.empty, Demo.stores ⟨4⟩ hash⟩ [] Demo.tokenRequest
    Demo.fresh (.signedZero false)
  have hgiven := hissuance.2 Demo.tokenForm
    ⟨Demo.confidentialId.text, Demo.confidentialSecret⟩ Demo.accepted
  rw [Application.run_nil] at hgiven
  exact ⟨_, hs, hgiven ⟨rfl, .inl rfl⟩ rfl (Demo.up_stores ⟨4⟩ hash)
    (Demo.checkable_confidential hv) (grantable_demo hv)⟩

end TokenIssuer.Service
