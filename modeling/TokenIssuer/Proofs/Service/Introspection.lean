import TokenIssuer.Proofs.Service.Refusal
import TokenIssuer.Proofs.Service.Retention
import TokenIssuer.Proofs.Uuid

/-! What introspection tells of the tokens that were given out. -/

namespace TokenIssuer.Service

open Http Store

variable {app : Application} {state : State Data} {request : Request} {fresh : Grant.Fresh}
  {seconds : Double} {earlier later : List Step} {raw : String} {id : Uuid}

/-! ## The bodies -/

/-- The field for the scopes of a token, there when the token has some. -/
def scopeField (scope : Option String) : List (String × Json) :=
  scope.toList.map fun s => ("scope", .str s)

/-- The body that gives tokens out. -/
def givenBody (access refresh : Uuid) (lifetime : Int) (scope : Option String) : Json :=
  .obj
    ([("access_token", .str access.text), ("token_type", .str "bearer"),
      ("expires_in", .int lifetime), ("refresh_token", .str refresh.text)] ++ scopeField scope)

/-- The body that tells of a token. -/
def activeBody (clientId username : String) (scope : Option String) : Json :=
  .obj
    ([("active", .bool true), ("client_id", .str clientId), ("username", .str username)] ++
      scopeField scope ++ [("token_type", .str "bearer")])

/-- The body that tells of no token. -/
def inactiveBody : Json := .obj [("active", .bool false)]

theorem issuedBody_eq (tokens : Grant.Issued) :
    issuedBody tokens =
      givenBody tokens.accessToken tokens.refreshToken tokens.expiresIn tokens.scope := by
  obtain ⟨access, lifetime, refresh, scope⟩ := tokens
  cases scope <;> rfl

theorem introspectionBody_active (clientId username : String) (scope : Option String) :
    introspectionBody (.active clientId username scope) = activeBody clientId username scope := by
  cases scope <;> rfl

/-! ## The lookup -/

/-- The text stands for an identifier: it is the identifier as it is printed, another way to write
it, or anything else that is read as it. -/
def Denotes (raw : String) (id : Uuid) : Prop :=
  raw = id.text ∨ Uuid.Spells id raw.toList ∨ Uuid.read? (Text.trim raw.toList) = some id

theorem Denotes.read (h : Denotes raw id) : Uuid.read? (Text.trim raw.toList) = some id := by
  rcases h with rfl | h | h
  · apply Uuid.read?_of_spells
    have hchars : id.text.toList = id.chars := String.toList_ofList
    rw [hchars]
    exact Uuid.spells_chars id
  · exact Uuid.read?_of_spells h
  · exact h

theorem introspect_of_read {stores : Stores} (up : .tokens ∉ stores.down)
    (h : Uuid.read? (Text.trim raw.toList) = some id) :
    Introspection.introspect stores raw =
      .ok ((stores.tokens.get? id).elim .inactive .ofToken) := by
  have hget : stores.getToken id = .ok (stores.tokens.get? id) := Stores.call_of_up up
  unfold Introspection.introspect
  simp only [h, hget]
  cases stores.tokens.get? id <;> rfl

theorem introspect_of_unreadable (stores : Stores)
    (h : Uuid.read? (Text.trim raw.toList) = none) :
    Introspection.introspect stores raw = .ok .inactive := by
  unfold Introspection.introspect
  simp only [h]

/-! ## The endpoint -/

/-- The request asks for a text, and comes from a client that may be told of tokens. -/
structure Inspects (stores : Stores) (request : Request) (raw : String) : Prop where
  post : request.Is "POST" "/introspect"
  readable : request.addressFault? = none
  asked : ∃ form, Form.read request = .ok form ∧ form.lookup "token" = some raw
  clientsUp : .configurations ∉ stores.down
  secretsUp : .secrets ∉ stores.down
  entitled : ∃ credentials client,
    Basic.Holds (request.header? "authorization") credentials ∧
      Recognition.Proven stores credentials client ∧ .introspect ∈ client.actions ∧
      Authentication.Checkable stores credentials.clientId
        (Utf8.encode credentials.secret.toList)

/-- What is told of a text: by the lookup, and in the answer to every request for it. -/
structure Told (app : Application) (state : State Data) (raw : String) (body : Json) : Prop where
  looked : ∃ result, Introspection.introspect state.data raw = .ok result ∧
    introspectionBody result = body
  answered : ∀ request fresh seconds, Inspects state.data request raw →
    ∃ response, (app.serve request fresh seconds state).response = some response ∧
      response.status = 200 ∧ response.body = .json body

theorem introspectEndpoint_of_inspects {frame : Frame} {result : Introspection.Result}
    (h : Inspects state.data frame.request raw)
    (looked : Introspection.introspect state.data raw = .ok result) :
    ∃ response, (introspectEndpoint frame state).result = .ok response ∧
      response.status = 200 ∧ response.body = .json (introspectionBody result) := by
  obtain ⟨form, hform, htoken⟩ := h.asked
  obtain ⟨credentials, client, hheld, hproven, haction, hcheckable⟩ := h.entitled
  have hrecognised := Recognition.ofConfidential_of_proven frame h.clientsUp h.secretsUp hheld
    hproven hcheckable
  have hmay : (Client.Principal.confidential client).mayPerform .introspect = true :=
    decide_eq_true haction
  unfold introspectEndpoint
  simp only [hform, hrecognised, hmay, if_true, lookUp, htoken, looked, keep,
    answer_introspectionBody]
  exact ⟨_, rfl, rfl, rfl⟩

theorem Told.of_introspect (app : Application) {result : Introspection.Result}
    (looked : Introspection.introspect state.data raw = .ok result) :
    Told app state raw (introspectionBody result) where
  looked := ⟨result, looked, rfl⟩
  answered := by
    intro request fresh seconds h
    have hinside : Inspects state.data (inside (.enter request fresh seconds)).request raw := h
    obtain ⟨response, hresult, hstatus, hbody⟩ := introspectEndpoint_of_inspects hinside looked
    have hpost : (Frame.enter request fresh seconds).request.Is "POST" "/introspect" := h.post
    have hresponse := (serve_of_readable app h.readable fresh seconds state).1
    rw [routed_answer, replied_of_introspect hpost, hresult] at hresponse
    exact ⟨_, hresponse, hstatus, hbody⟩

theorem Told.inactive (app : Application) (up : .tokens ∉ state.data.down)
    (h : ∀ id, Uuid.read? (Text.trim raw.toList) = some id → state.data.tokens.get? id = none) :
    Told app state raw inactiveBody := by
  have hlooked : Introspection.introspect state.data raw = .ok .inactive := by
    cases hread : Uuid.read? (Text.trim raw.toList) with
    | none => exact introspect_of_unreadable state.data hread
    | some id =>
      rw [introspect_of_read up hread, h id hread]
      rfl
  exact Told.of_introspect app hlooked

/-- A text that denotes the identifier of a token on file is told to be that token. -/
theorem Told.active (app : Application) {token : AccessToken} (up : .tokens ∉ state.data.down)
    (h : Denotes raw token.id) (stored : state.data.tokens.get? token.id = some token) :
    Told app state raw
      (activeBody token.client.text token.username (token.scopes.map Scope.format)) := by
  have hlooked := introspect_of_read up h.read
  rw [stored] at hlooked
  rw [← introspectionBody_active]
  exact Told.of_introspect app hlooked

/-! ## Whole runs -/

/-- In every tidy run, once a request was answered with tokens, introspection tells of the access
token what it was given out for, in whatever way it is written. Of the refresh token, of a text that
is no identifier and of an identifier that is not on file it tells that they are no token. -/
theorem introspection_agrees (app : Application) (start : State Data) (earlier later : List Step)
    (request : Request) (fresh : Grant.Fresh) (seconds : Double)
    (tidy : Tidy app [] start (earlier ++ .serve request fresh seconds :: later))
    (issues : Issues app request fresh seconds (app.run start earlier))
    (up : .tokens ∉
      (app.run start (earlier ++ .serve request fresh seconds :: later)).data.down) :
    ∃ form credentials username scope response,
      Form.read request = .ok form ∧
        Basic.Holds (request.header? "authorization") credentials ∧
        form.lookup "username" = some username ∧
        (app.serve request fresh seconds (app.run start earlier)).response = some response ∧
        response.body =
          .json (givenBody fresh.accessToken fresh.refreshToken app.rules.lifetime scope) ∧
        (∀ raw, Denotes raw fresh.accessToken →
          Told app (app.run start (earlier ++ .serve request fresh seconds :: later)) raw
            (activeBody credentials.clientId username scope)) ∧
        (∀ raw, Denotes raw fresh.refreshToken ∨
            (∀ id, Uuid.read? (Text.trim raw.toList) = some id →
              (app.run start (earlier ++ .serve request fresh seconds :: later)).data.tokens.get?
                id = none) →
          Told app (app.run start (earlier ++ .serve request fresh seconds :: later)) raw
            inactiveBody) := by
  -- The run is cut before the request that was answered with tokens.
  obtain ⟨given, htidy⟩ := tidy.drop
  obtain ⟨form, credentials, accepted, hgrantable, hresponse, hkeeps⟩ :=
    Keeps.of_issues htidy issues
  rw [← Application.run_append] at hkeeps
  refine ⟨form, credentials, accepted.username, accepted.scopes.map Scope.format, _,
    hgrantable.formed, hgrantable.held, hgrantable.asks.username, hresponse, ?_,
    fun raw hraw => ?_, fun raw hraw => ?_⟩
  · exact congrArg Body.json (issuedBody_eq (Grant.issuedTokens app.rules fresh accepted))
  · rw [← proven_id hgrantable.proven]
    have hdenotes : Denotes raw (Grant.accessToken fresh accepted).id := hraw
    exact Told.active app up hdenotes hkeeps.access
  · apply Told.inactive app up
    intro id hid
    -- A refresh token is an identifier as well, but no token is on file under it.
    rcases hraw with hrefresh | hunfiled
    · have he : fresh.refreshToken = id := Option.some.inj (hrefresh.read.symm.trans hid)
      rw [← he]
      exact hkeeps.refresh
    · exact hunfiled id hid

theorem scope_of_givenBody {access refresh : Uuid} {lifetime : Int} {scope other : Option String}
    (h : givenBody access refresh lifetime scope = givenBody access refresh lifetime other) :
    scope = other := by
  have hfields := List.append_cancel_left (Json.obj.inj h)
  cases scope with
  | none =>
    cases other with
    | none => rfl
    | some text => exact absurd hfields (by simp [scopeField])
  | some text =>
    cases other with
    | none => exact absurd hfields (by simp [scopeField])
    | some text' => simpa [scopeField] using hfields

/-- The token of the demo client is told to everybody who may ask, also after that client was
deleted. -/
theorem introspection_agrees_demo :
    ∃ stores,
      Application.standard.startStores (List.replicate 8 1) ⟨4⟩ = .ok stores ∧
        ∀ raw,
          (Denotes raw Demo.fresh.accessToken →
            Told .standard
              (Application.standard.run ⟨.empty, stores⟩
                [.serve Demo.tokenRequest Demo.fresh (.signedZero false),
                 .change (.deleteClient Demo.confidentialId)])
              raw (activeBody "aardvark" "alice" (some "basic"))) ∧
          (Denotes raw Demo.fresh.refreshToken →
            Told .standard
              (Application.standard.run ⟨.empty, stores⟩
                [.serve Demo.tokenRequest Demo.fresh (.signedZero false),
                 .change (.deleteClient Demo.confidentialId)])
              raw inactiveBody) := by
  obtain ⟨hash, hs, hv⟩ := Demo.startStores_standard
  obtain ⟨hresponse, hdata⟩ := serve_demo hv Demo.fresh (.signedZero false) .empty
  have hissues : Issues .standard Demo.tokenRequest Demo.fresh (.signedZero false)
      ⟨.empty, Demo.stores ⟨4⟩ hash⟩ := ⟨⟨rfl, .inl rfl⟩, by rw [hresponse]; rfl⟩
  -- The two identifiers are new, and they differ.
  have htidy : Tidy .standard [] ⟨.empty, Demo.stores ⟨4⟩ hash⟩
      [.serve Demo.tokenRequest Demo.fresh (.signedZero false),
       .change (.deleteClient Demo.confidentialId)] :=
    .issue hissues ⟨List.not_mem_nil, rfl⟩ ⟨List.not_mem_nil, rfl⟩ (by decide)
      (.change (fun token h => by cases h) .done)
  have hup : .tokens ∉ (Application.standard.run ⟨.empty, Demo.stores ⟨4⟩ hash⟩
      [.serve Demo.tokenRequest Demo.fresh (.signedZero false),
       .change (.deleteClient Demo.confidentialId)]).data.down := by
    rw [Application.run_cons, Application.run_cons, Application.run_nil,
      Application.data_step_change, Application.data_step_serve, hdata]
    exact List.not_mem_nil
  obtain ⟨form, credentials, username, scope, response, hform, hheld, husername, hanswer, hbody,
    hactive, hinactive⟩ := introspection_agrees .standard ⟨.empty, Demo.stores ⟨4⟩ hash⟩ []
      [.change (.deleteClient Demo.confidentialId)] Demo.tokenRequest Demo.fresh
      (.signedZero false) htidy hissues hup
  have hheader := Demo.header_request Demo.authorization "/token"
    "grant_type=password&username=alice&password=wonderland&scope=basic"
  -- What the theorem only says to exist is what the request holds.
  have hcredentials : credentials = ⟨Demo.confidentialId.text, Demo.confidentialSecret⟩ := by
    have h : Basic.Holds (some Demo.authorization) credentials := hheader ▸ hheld
    exact Recognition.holds_unique h Demo.holds_authorization
  have hname : username = "alice" := by
    rw [Demo.read_tokenRequest] at hform
    cases hform
    exact (Option.some.inj husername).symm
  have hscope : scope = some "basic" := by
    have he : response = _ := Option.some.inj (hanswer.symm.trans hresponse)
    rw [he] at hbody
    have hgiven := Body.json.inj hbody
    rw [issuedBody_eq] at hgiven
    exact scope_of_givenBody hgiven.symm
  rw [hcredentials, hname, hscope] at hactive
  exact ⟨_, hs, fun raw => ⟨hactive raw, fun h => hinactive raw (.inl h)⟩⟩

end TokenIssuer.Service
