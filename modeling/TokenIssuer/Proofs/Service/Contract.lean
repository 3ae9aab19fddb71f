import TokenIssuer.Proofs.Http.Contract
import TokenIssuer.Proofs.Service.Hardening
import TokenIssuer.Proofs.Settings

/-!
The contract for failures over all requests, and what the token endpoint promises besides: no
decision is stored on the way, and tokens are told without gaps.
-/

namespace TokenIssuer.Service

open Http Store

variable {app : Application} {frame : Frame} {state : State Data} {request : Request}
  {result : Except Fault Response} {own : Response} {documentation : Documentation}
  {settings : Settings}

/-- The application is built of the settings. -/
structure Application.Built (app : Application) (documentation : Documentation)
    (settings : Settings) : Prop where
  configured : app.settings = settings
  described : app.documentation = documentation
  ruled : app.rules = ⟨settings.registry, settings.lifetime⟩
  titled : settings.service.codePoints ≠ []
  hashing : Secret.Hasher.make settings.passes settings.memory settings.lanes = .ok app.hasher

theorem Application.built_of_ofSettings
    (h : Application.ofSettings documentation settings = .ok app) :
    app.Built documentation settings := by
  unfold Application.ofSettings at h
  split at h
  · cases h
  next hnamed =>
    obtain ⟨hasher, hmake, h⟩ := bind_eq_ok_iff.mp h
    cases h
    exact ⟨rfl, rfl, rfl, fun he => hnamed (List.isEmpty_iff.mpr he), mapError_eq_ok_iff.mp hmake⟩

/-- The application of settings that were read from an environment and a file. -/
def Application.Configured (app : Application) : Prop :=
  ∃ documentation environment file settings,
    Settings.load { arguments := .obj [], environment, file } = .ok settings ∧
      Application.ofSettings documentation settings = .ok app

theorem Application.proper_realm (h : app.Configured) : app.service.policy.realm.Proper := by
  obtain ⟨documentation, environment, file, settings, hload, happ⟩ := h
  obtain ⟨root, hroot, hread⟩ := Settings.of_load rfl hload
  show app.settings.realm.Proper
  rw [(Application.built_of_ofSettings happ).configured]
  exact (Settings.accepted_of_read hread).2 hroot

/-! ## What is replied -/

/-- The request asks what is known of a token, for a client that may not be told. -/
def Barred (frame : Frame) (stores : Stores) : Prop :=
  frame.request.Is "POST" "/introspect" ∧ ∃ form client,
    Form.read frame.request = .ok form ∧
      (Recognition.ofConfidential frame (Authentication.ofStores stores)).result = .ok client ∧
      client.mayPerform .introspect = false

/-- All that may be replied to a request. -/
inductive Returns (app : Application) (frame : Frame) (state : State Data) :
    Except Fault Response → Prop where
  | content {response : Response} (status : response.status = 200)
      (unasked : response.headers.lookup "www-authenticate" = none)
      (elsewhere : ¬ IsAt frame.request.path "/token") : Returns app frame state (.ok response)
  | redirection (location : String) : Returns app frame state (.ok (.redirect location))
  | decision {form : Form} {principal : Client.Principal} {decision : Grant.Decision}
      {after : Stores} (formed : Form.read frame.request = .ok form)
      (exchange : (Grant.exchange app.rules frame.fresh state.data principal form).result =
        .ok (decision, after)) : Returns app frame state (.ok (decidedResponse decision))
  | unread {fault : Form.Fault} (unformed : Form.read frame.request = .error fault) :
      Returns app frame state (.error (.ofForm fault))
  | incomplete (detail : String) (elsewhere : ¬ IsAt frame.request.path "/token") :
      Returns app frame state (.error (.invalidRequest detail))
  | nobody : Returns app frame state (.error .unauthenticated)
  | barred (h : Barred frame state.data) : Returns app frame state (.error (.forbidden .introspect))
  | unreached (u : Unreachable) (elsewhere : ¬ IsAt frame.request.path "/health/ready") :
      Returns app frame state (.error (.ofUnreachable u))
  | unready (here : IsAt frame.request.path "/health/ready") :
      Returns app frame state (.error (.http 503 (.str "Service not ready.") []))
  | unknown : Returns app frame state (.error (.ofStatus 404 .null []))
  | otherMethod (allow : String) :
      Returns app frame state (.error (.ofStatus 405 .null [("Allow", allow)]))
  | failed (fault : Unexpected) : Returns app frame state (.error (.unexpected fault))

/-- An answer without headers of its own comes with its content, or fails. -/
theorem returns_answer {content : Json} (elsewhere : ¬ IsAt frame.request.path "/token") :
    Returns app frame state (answer 200 content []) := by
  unfold answer
  cases h : Response.json 200 content [] with
  | error fault => exact .failed _
  | ok response =>
    exact .content (Response.of_json h).1 (unasked_of_json (List.forall_mem_nil _) h) elsewhere

/-- What recognition ends in without a client. -/
theorem returns_unrecognised {recognition : Recognition} (ends : recognition.Ends) {fault : Fault}
    (h : recognition.result = .error fault)
    (elsewhere : ¬ IsAt frame.request.path "/health/ready") :
    Returns app frame state (.error fault) := by
  cases ends with
  | client principal hr => rw [h] at hr; cases hr
  | nobody hr => rw [h] at hr; cases hr; exact .nobody
  | unreached u hr => rw [h] at hr; cases hr; exact .unreached u elsewhere
  | fails hf =>
    obtain ⟨cause, hr⟩ := hf
    rw [h] at hr
    cases hr
    exact .failed cause

theorem returns_tokenEndpoint (post : frame.request.Is "POST" "/token") :
    Returns app frame state (tokenEndpoint app.rules frame state).result := by
  have helsewhere : ¬ IsAt frame.request.path "/health/ready" :=
    fun h => absurd (post.2.of_both h) (by decide)
  cases tokenEndpoint_replies app.rules frame state with
  | unread unformed result _ _ => rw [result]; exact .unread unformed
  | refused _ unrecognised result _ _ =>
    rw [result]
    exact returns_unrecognised (Recognition.ofRequest_ends _ _ _) unrecognised helsewhere
  | unreached _ _ _ result _ _ => rw [result]; exact .unreached _ helsewhere
  | decided formed _ exchange result _ _ => rw [result]; exact .decision formed exchange

theorem returns_introspectEndpoint (post : frame.request.Is "POST" "/introspect") :
    Returns app frame state (introspectEndpoint frame state).result := by
  have helsewhere : ¬ IsAt frame.request.path "/health/ready" :=
    fun h => absurd (post.2.of_both h) (by decide)
  have hother : ¬ IsAt frame.request.path "/token" :=
    fun h => absurd (post.2.of_both h) (by decide)
  cases introspectEndpoint_replies frame state with
  | unread unformed result _ => rw [result]; exact .unread unformed
  | refused _ unrecognised result _ =>
    rw [result]
    exact returns_unrecognised (Recognition.ofConfidential_ends _ _) unrecognised helsewhere
  | forbidden formed recognised barred result _ =>
    rw [result]
    exact .barred ⟨post, _, _, formed, recognised, barred⟩
  | incomplete _ _ _ result _ => rw [result]; exact .incomplete _ hother
  | unreached _ _ _ _ result _ => rw [result]; exact .unreached _ helsewhere
  | told _ _ _ _ result _ => rw [result]; exact .content rfl rfl hother

theorem returns_readyEndpoint (get : frame.request.Is "GET" "/health/ready") :
    Returns app frame state (readyEndpoint frame state).result := by
  have helsewhere : ¬ IsAt frame.request.path "/token" :=
    fun h => absurd (get.2.of_both h) (by decide)
  unfold readyEndpoint
  split
  · exact .unready get.2
  · show Returns app frame state (answer 200 (.obj [("status", .str "ready")]) [])
    exact returns_answer helsewhere

theorem returns_page (app : Application) {page : Page} (asks : AsksForPage frame.request page) :
    Returns app frame state (app.documentation.result app.settings.service page) := by
  have helsewhere : ¬ IsAt frame.request.path "/token" := fun h => by
    rcases asks.path.of_both h with hat | hat <;> revert hat <;> cases page <;> decide
  unfold Documentation.result
  split
  · exact .content rfl rfl helsewhere
  · exact .failed _

theorem returns_replied (app : Application) (frame : Frame) (state : State Data) :
    Returns app (inside frame) state (replied app frame state).result := by
  cases replies_replied app frame state with
  | counts get same =>
    rw [same]
    exact .content rfl rfl fun h => absurd (get.2.of_both h) (by decide)
  | token post same =>
    have hpost : (inside frame).request.Is "POST" "/token" := post
    rw [same]
    exact returns_tokenEndpoint hpost
  | introspection post same =>
    have hpost : (inside frame).request.Is "POST" "/introspect" := post
    rw [same]
    exact returns_introspectEndpoint hpost
  | live get same =>
    have helsewhere : ¬ IsAt (inside frame).request.path "/token" :=
      fun h => absurd (get.2.of_both h) (by decide)
    rw [same]
    show Returns app (inside frame) state (answer 200 (.obj [("status", .str "live")]) [])
    exact returns_answer helsewhere
  | ready get same =>
    have hget : (inside frame).request.Is "GET" "/health/ready" := get
    rw [same]
    exact returns_readyEndpoint hget
  | page page asks same =>
    have hasks : AsksForPage (inside frame).request page := asks
    rw [same]
    exact returns_page app hasks
  | nowhere result same astray =>
    rw [same]
    show Returns app (inside frame) state result
    cases astray with
    | unknown => exact .unknown
    | otherMethod _ => exact .otherMethod _
    | otherPath path =>
      unfold redirectTo
      split
      · exact .failed _
      · exact .redirection _

/-! ## What is answered -/

theorem Returns.conforms (proper : app.service.policy.realm.Proper)
    (readable : frame.request.addressFault? = none) (returns : Returns app frame state result)
    (h : answered app frame result = .ok own) : Conforms frame.request.path own := by
  cases returns with
  | content status unasked _ =>
    cases h
    exact conforms_of_success (by omega) unasked
  | redirection location =>
    cases h
    exact conforms_of_success (by decide : (307 : Int) < 400) rfl
  | @decision _ _ decision _ _ exchange =>
    cases h
    cases decision with
    | issued tokens => exact conforms_of_success (by decide : (200 : Int) < 400) rfl
    | refused refusal =>
      have hcode : refusal.code.text ∈ ["invalid_request", "invalid_scope", "unauthorized_client",
          "unsupported_grant_type"] := by
        cases refusal <;> simp [Grant.Refusal.code, Grant.Code.text]
      -- The lines of a decision are about the cache only, so that no client is asked by it.
      have hunasked : (decidedResponse (.refused refusal)).headers.lookup "www-authenticate" =
        none := rfl
      refine conforms_of_failure (.badRequest hcode) rfl ?_
      rw [hunasked]
      exact iff_of_false (by decide) (by decide : (400 : Int) ≠ 401)
  | @unread fault _ =>
    have hstating : own = Failure.stating (Fault.ofForm fault).status
        Grant.Code.invalidRequest.text fault.message :=
      Except.ok.inj (h.symm.trans (Failure.handle_ofForm fault))
    rw [hstating]
    cases fault with
    | mediaType => exact Failure.conforms_stating .mediaType (by decide) _
    | notText => exact Failure.conforms_stating (.badRequest (by decide)) (by decide) _
    | repeated name => exact Failure.conforms_stating (.badRequest (by decide)) (by decide) _
  | incomplete detail _ =>
    exact Failure.conforms_response (.badRequest (by decide)) (by decide) (List.forall_mem_nil _) h
  | nobody =>
    obtain ⟨realm, rfl⟩ := Failure.refusal_of_unauthenticated proper readable h
    exact Failure.conforms_refusal _ realm
  | barred _ =>
    exact Failure.conforms_response .forbidden (by decide) (List.forall_mem_nil _) h
  | unreached u elsewhere =>
    exact Failure.conforms_response (.unreached elsewhere) (by decide) (List.forall_mem_nil _)
      (Failure.of_reported h)
  | unready here =>
    exact Failure.conforms_response (.unready here) (by decide) (List.forall_mem_nil _) h
  | unknown =>
    have hresponse := (Failure.handle_ofStatus (by decide) []).symm.trans h
    exact Failure.conforms_response .unknown (by decide) (List.forall_mem_nil _) hresponse
  | otherMethod allow =>
    have hname : Text.lowered "Allow" ≠ "www-authenticate" := by decide
    have hother : ∀ line ∈ [("Allow", allow)], Text.lowered line.1 ≠ "www-authenticate" := by
      intro line hline
      rw [List.mem_singleton.mp hline]
      exact hname
    have hresponse := (Failure.handle_ofStatus (by decide) [("Allow", allow)]).symm.trans h
    exact Failure.conforms_response .otherMethod (by decide) hother hresponse
  | failed fault => cases h

/-- How a request fares that is answered by the routes. -/
inductive Fares (app : Application) (frame : Frame) (state : State Data) (own : Response) :
    Prop where
  | decided {form : Form} {principal : Client.Principal} {decision : Grant.Decision}
      {after : Stores}
      (exchange : (Grant.exchange app.rules frame.fresh state.data principal form).result =
        .ok (decision, after))
      (same : own = decidedResponse decision)
  | barred (h : Barred frame state.data) (status : own.status = 403)
  | unread {fault : Form.Fault} (unformed : Form.read frame.request = .error fault)
      (status : own.status = 400 ∨ own.status = 415)
  | elsewhere (other : ¬ IsAt frame.request.path "/token")
      (status : own.status = 200 ∨ own.status = 400)
  | otherwise (status : own.status = 307 ∨ own.status = 401 ∨ own.status = 404 ∨
      own.status = 405 ∨ own.status = 503)

theorem Returns.fares (returns : Returns app frame state result)
    (h : answered app frame result = .ok own) : Fares app frame state own := by
  have hfault {fault : Fault} (hr : answered app frame (.error fault) = .ok own) :
      own.status = fault.status := Failure.status_of_handle hr
  cases returns with
  | content status _ elsewhere =>
    cases h
    exact .elsewhere elsewhere (.inl status)
  | redirection location =>
    cases h
    exact .otherwise (.inl rfl)
  | decision _ exchange =>
    cases h
    exact .decided exchange rfl
  | @unread fault unformed =>
    refine .unread unformed ?_
    rw [hfault h]
    cases fault with
    | mediaType => exact .inr rfl
    | _ => exact .inl rfl
  | incomplete detail elsewhere => exact .elsewhere elsewhere (.inr (hfault h))
  | nobody => exact .otherwise (.inr (.inl (hfault h)))
  | barred hb => exact .barred hb (hfault h)
  | unreached u _ => exact .otherwise (.inr (.inr (.inr (.inr (hfault h)))))
  | unready _ => exact .otherwise (.inr (.inr (.inr (.inr (hfault h)))))
  | unknown => exact .otherwise (.inr (.inr (.inl (hfault h))))
  | otherMethod allow => exact .otherwise (.inr (.inr (.inr (.inl (hfault h)))))
  | failed fault => cases h

/-- Nothing else is answered as forbidden than what is barred. -/
theorem Fares.barred_of_status (fares : Fares app frame state own) (status : own.status = 403) :
    Barred frame state.data := by
  cases fares with
  | barred h _ => exact h
  | @decided _ _ decision _ _ same =>
    have hdecided := status_decidedResponse decision
    rw [← same] at hdecided
    omega
  | unread _ other => omega
  | elsewhere _ other => omega
  | otherwise other => omega

/-- The token endpoint answers with tokens, or with a refusal once the form is read, by a decision
on a grant only. -/
theorem Fares.decided_of_status (fares : Fares app frame state own)
    (token : IsAt frame.request.path "/token")
    (told : own.status = 200 ∨ own.status = 400 ∧ ∃ form, Form.read frame.request = .ok form) :
    ∃ form principal decision after,
      (Grant.exchange app.rules frame.fresh state.data principal form).result =
          .ok (decision, after) ∧ own = decidedResponse decision := by
  cases fares with
  | decided exchange same => exact ⟨_, _, _, _, exchange, same⟩
  | unread unformed status =>
    rcases told with hsuccess | ⟨-, form, hform⟩
    · omega
    · rw [unformed] at hform
      cases hform
  | elsewhere other _ => exact absurd token other
  | barred _ status => omega
  | otherwise status => omega

/-! ## What the token endpoint tells -/

/-- The body is one of tokens without gaps: no member is null, no scopes are left empty, and there
is no state. -/
def Gapless (body : Body) : Prop :=
  ∃ fields, body = .json (.obj fields) ∧ ∀ f ∈ fields,
    f.2 ≠ .null ∧ f.1 ≠ "state" ∧ (f.1 = "scope" → ∃ text, f.2 = .str text ∧ text ≠ "")

theorem gapless_issued {rules : Grant.Rules} {accepted : Grant.Password.Accepted} {form : Form}
    (asks : Grant.Asks rules.registry form accepted) (fresh : Grant.Fresh) :
    Gapless (.json (issuedBody (Grant.issuedTokens rules fresh accepted))) := by
  rw [issuedBody_eq]
  refine ⟨_, rfl, fun f hf => ?_⟩
  rcases List.mem_append.mp hf with hfixed | hscope
  · simp only [List.mem_cons, List.not_mem_nil, or_false] at hfixed
    rcases hfixed with rfl | rfl | rfl | rfl <;> simp
  · obtain ⟨text, htext, rfl⟩ := List.mem_map.mp hscope
    have hne := asks.scope_ne_empty (Option.mem_toList.mp htext)
    simp [hne]

theorem lookup_decidedResponse (decision : Grant.Decision) :
    (decidedResponse decision).headers.lookup "cache-control" = some "no-store" ∧
      (decidedResponse decision).headers.lookup "pragma" = some "no-cache" := ⟨rfl, rfl⟩

/-! ## Whole requests -/

theorem conforms_dressed {path : String} (h : Conforms path own) (frame : Frame) :
    Conforms path (dressed frame own) where
  failure := h.failure
  challenge := by
    rw [lookup_dressed_of_notMem (by decide) (by decide)]
    exact h.challenge

theorem barred_inside_iff {stores : Stores} :
    Barred (inside frame) stores ↔ Barred frame stores := by
  have hrequest : (inside frame).request = frame.request := rfl
  have hresult : (Recognition.ofConfidential (inside frame)
      (Authentication.ofStores stores)).result =
        (Recognition.ofConfidential frame (Authentication.ofStores stores)).result :=
    Recognition.ofConfidential_result_congr rfl
  unfold Barred
  rw [hrequest, hresult]

theorem answered_of_barred (app : Application) (h : Barred frame state.data) :
    ∃ own, answered app (inside frame) (replied app frame state).result = .ok own ∧
      own.status = 403 := by
  obtain ⟨post, form, client, hform, hclient, hmay⟩ := barred_inside_iff.mpr h
  have hpost : frame.request.Is "POST" "/introspect" := post
  rw [replied_of_introspect hpost, introspectEndpoint_of_forbidden hform hclient hmay]
  exact ⟨_, Failure.handle_forbidden .introspect, rfl⟩

/-- What is sent for the reply to a request. -/
def sentFor (app : Application) (frame : Frame) (state : State Data) : Response :=
  sent app frame (answered app (inside frame) (replied app frame state).result)

theorem conforms_sentFor (proper : app.service.policy.realm.Proper)
    (readable : frame.request.addressFault? = none) (state : State Data) :
    Conforms frame.request.path (sentFor app frame state) := by
  have hreturns := returns_replied app frame state
  unfold sentFor
  cases h : answered app (inside frame) (replied app frame state).result with
  | error fault => exact Failure.conforms_unexpectedResponse _ _ fault
  | ok own =>
    have hown : Conforms (inside frame).request.path own := hreturns.conforms proper readable h
    exact conforms_dressed hown frame

theorem status_sentFor_eq_forbidden_iff (app : Application) (frame : Frame) (state : State Data) :
    (sentFor app frame state).status = 403 ↔ Barred frame state.data := by
  have hreturns := returns_replied app frame state
  unfold sentFor
  constructor
  · intro hstatus
    cases h : answered app (inside frame) (replied app frame state).result with
    | error fault =>
      rw [h] at hstatus
      exact absurd hstatus (by decide : (500 : Int) ≠ 403)
    | ok own =>
      rw [h] at hstatus
      exact barred_inside_iff.mp ((hreturns.fares h).barred_of_status hstatus)
  · intro hbarred
    obtain ⟨own, hown, hstatus⟩ := answered_of_barred app hbarred
    rw [hown]
    exact hstatus

theorem decided_of_sentFor {sent : Response} (same : sent = sentFor app frame state)
    (token : IsAt frame.request.path "/token")
    (told : sent.status = 200 ∨ sent.status = 400 ∧ ∃ form, Form.read frame.request = .ok form) :
    ∃ form principal decision after,
      (Grant.exchange app.rules frame.fresh state.data principal form).result =
          .ok (decision, after) ∧ sent = dressed frame (decidedResponse decision) := by
  have hreturns := returns_replied app frame state
  unfold sentFor at same
  cases h : answered app (inside frame) (replied app frame state).result with
  | error fault =>
    rw [h] at same
    have hstatus : sent.status = 500 := congrArg Response.status same
    omega
  | ok own =>
    rw [h] at same
    subst same
    have htoken : IsAt (inside frame).request.path "/token" := token
    obtain ⟨form, principal, decision, after, hexchange, rfl⟩ :=
      (hreturns.fares h).decided_of_status htoken told
    exact ⟨form, principal, decision, after, hexchange, rfl⟩

/-- Over all requests that are answered, whatever the stores hold: failures are told by an object of
an error code that goes with the status and a description, a client is asked to authenticate exactly
when it was not recognised, and nothing else is forbidden than what a client may not do. At the
token endpoint every answer with tokens, and every refusal of a request whose form is read, is a
decision that is not to be stored on the way, and tokens are told without gaps. -/
theorem responses_keep_contract (app : Application) (configured : app.Configured)
    (request : Request) (fresh : Grant.Fresh) (seconds : Double) (state : State Data)
    (response : Response)
    (served : (app.serve request fresh seconds state).response = some response) :
    Conforms request.path response ∧
      (response.status = 403 ↔ Barred (.enter request fresh seconds) state.data) ∧
      (IsAt request.path "/token" →
        (response.status = 200 ∨
          response.status = 400 ∧ ∃ form, Form.read request = .ok form) →
        response.headers.lookup "cache-control" = some "no-store" ∧
          response.headers.lookup "pragma" = some "no-cache") ∧
      (IsAt request.path "/token" → response.status = 200 → Gapless response.body) := by
  cases hreadable : request.addressFault? with
  | some fault =>
    -- A request whose address cannot be read is not answered.
    rw [(serve_of_address app hreadable fresh seconds state).1] at served
    cases served
  | none =>
    rw [(serve_of_readable app hreadable fresh seconds state).1, routed_answer] at served
    have hsent : response = sentFor app (.enter request fresh seconds) state :=
      (Option.some.inj served).symm
    have hr : (Frame.enter request fresh seconds).request.addressFault? = none := hreadable
    refine ⟨?_, ?_, fun token told => ?_, fun token success => ?_⟩
    · rw [hsent]
      exact conforms_sentFor (Application.proper_realm configured) hr state
    · rw [hsent]
      exact status_sentFor_eq_forbidden_iff app _ state
    · obtain ⟨form, principal, decision, after, -, rfl⟩ := decided_of_sentFor hsent token told
      obtain ⟨hcontrol, hpragma⟩ := lookup_decidedResponse decision
      exact ⟨lookup_dressed (by decide) hcontrol, lookup_dressed (by decide) hpragma⟩
    -- A decision that is told with success gives tokens out, for scopes that were asked for.
    · obtain ⟨form, principal, decision, after, hexchange, rfl⟩ :=
        decided_of_sentFor hsent token (.inl success)
      rcases Grant.of_exchange hexchange with
        ⟨accepted, -, -, hasks, -, rfl, -⟩ | ⟨⟨refusal, rfl⟩, -⟩
      · exact gapless_issued hasks fresh
      · exact absurd success (by decide : (400 : Int) ≠ 200)

theorem configured_standard : Application.standard.Configured :=
  ⟨.bare, [], "", _, rfl, Application.ofSettings_standard⟩

/-- The demo client is told its tokens without gaps, and is not asked to authenticate. -/
theorem responses_keep_contract_demo :
    ∃ stores response,
      Application.standard.startStores (List.replicate 8 1) ⟨4⟩ = .ok stores ∧
        (Application.standard.serve Demo.tokenRequest Demo.fresh (.signedZero false)
          ⟨.empty, stores⟩).response = some response ∧
        response.status = 200 ∧ Conforms "/token" response ∧ Gapless response.body ∧
        response.headers.lookup "cache-control" = some "no-store" ∧
        ¬ Barred Demo.tokenFrame stores := by
  obtain ⟨hash, hs, hv⟩ := Demo.startStores_standard
  have hserved : (Application.standard.serve Demo.tokenRequest Demo.fresh (.signedZero false)
      ⟨.empty, Demo.stores ⟨4⟩ hash⟩).response =
        some (dressed Demo.tokenFrame
          (issuedResponse Application.standard.rules Demo.fresh Demo.accepted)) :=
    (serve_demo hv Demo.fresh (.signedZero false) .empty).1
  have htoken : IsAt Demo.tokenRequest.path "/token" := .inl rfl
  obtain ⟨hconforms, hforbidden, hcontrolled, hgapless⟩ :=
    responses_keep_contract .standard configured_standard Demo.tokenRequest Demo.fresh
      (.signedZero false) ⟨.empty, Demo.stores ⟨4⟩ hash⟩ _ hserved
  refine ⟨_, _, hs, hserved, rfl, hconforms, hgapless htoken rfl,
    (hcontrolled htoken (.inl rfl)).1, fun hbarred => ?_⟩
  exact absurd (hforbidden.mpr hbarred) (by decide : (200 : Int) ≠ 403)

end TokenIssuer.Service
