import TokenIssuer.Proofs.Service.Outage
import TokenIssuer.Proofs.Service.Refusal

/-!
Introspection tells nothing about tokens to callers who may not ask about them: what they are
answered does not depend on the tokens, nor on the text they ask about.
-/

namespace TokenIssuer.Store

/-- The stores differ at most in the tokens and in whether the tokens can be reached. -/
structure SameButTokens (one other : Stores) : Prop where
  clients : one.clients = other.clients
  secrets : one.secrets = other.secrets
  down : ∀ store, store ≠ .tokens → (store ∈ one.down ↔ store ∈ other.down)

theorem SameButTokens.refl (stores : Stores) : SameButTokens stores stores :=
  ⟨rfl, rfl, fun _ _ => Iff.rfl⟩

theorem SameButTokens.directory {one other : Stores} (h : SameButTokens one other) :
    Authentication.ofStores one = Authentication.ofStores other := by
  have hconfigurations := h.down .configurations (by decide)
  have hsecrets := h.down .secrets (by decide)
  unfold Authentication.ofStores Stores.findClient Stores.getClient Stores.findSecrets Stores.call
  simp only [h.clients, h.secrets, hconfigurations, hsecrets]

end TokenIssuer.Store

namespace TokenIssuer.Service

open Http Store

variable {app : Application} {frame other : Frame} {request : Request}
  {state later : State Data} {stores : Stores} {form f g : Form} {principal : Client.Principal}

/-! ## Recognition -/

namespace Recognition

open Authentication

theorem proven_of_ofConfidential
    (h : (ofConfidential frame (ofStores stores)).result = .ok principal) :
    .configurations ∉ stores.down ∧ .secrets ∉ stores.down ∧
      ∃ credentials client, Basic.Holds (frame.request.header? "authorization") credentials ∧
        Proven stores credentials client ∧ principal = .confidential client := by
  unfold ofConfidential at h
  cases hread : Basic.read (frame.request.header? "authorization") with
  | error fault =>
    rw [hread] at h
    cases fault <;> cases h
  | ok held =>
    rw [hread] at h
    cases held with
    | none => cases h
    | some credentials =>
      obtain ⟨hclients, hsecrets, client, hproven, hprincipal⟩ := proven_of_byHeader h
      exact ⟨hclients, hsecrets, credentials, client, Basic.read_eq_some_iff.mp hread, hproven,
        hprincipal⟩

theorem status_of_ofConfidential {directory : Directory} {fault : Http.Fault}
    (h : (ofConfidential frame directory).result = .error fault) : 400 ≤ fault.status := by
  by_cases hb : Basic.IsBasic (frame.request.header? "authorization")
  · have hempty : List.lookup "client_id" ([] : Form) = none := rfl
    rw [← ofRequest_eq_ofConfidential hb hempty] at h
    exact status_of_ofRequest h
  · unfold ofConfidential at h
    rw [Basic.read_of_not_isBasic hb] at h
    cases h
    decide

end Recognition

/-! ## The endpoint -/

/-- No client is recognised by the header of the request, or one that may not ask about tokens. -/
def Unentitled (stores : Stores) (frame : Frame) : Prop :=
  ∀ client, (Recognition.ofConfidential frame (Authentication.ofStores stores)).result =
    .ok client → client.mayPerform .introspect = false

theorem Unentitled.of_sameButTokens {another : Stores} (h : Unentitled stores frame)
    (header : frame.request.header? "authorization" = other.request.header? "authorization")
    (same : SameButTokens stores another) : Unentitled another other := by
  intro client hclient
  apply h client
  rw [same.directory, Recognition.ofConfidential_result_congr header]
  exact hclient

/-- What a caller is refused with that may not ask. -/
def refusalOf : Except Fault Client.Principal → Fault
  | .error fault => fault
  | .ok _ => .forbidden .introspect

theorem introspectEndpoint_of_unentitled (formed : Form.read frame.request = .ok form)
    (unentitled : Unentitled state.data frame) :
    introspectEndpoint frame state =
      keep state
        (.error (refusalOf
          (Recognition.ofConfidential frame (Authentication.ofStores state.data)).result))
        (Recognition.ofConfidential frame (Authentication.ofStores state.data)).calls := by
  cases hr : (Recognition.ofConfidential frame (Authentication.ofStores state.data)).result with
  | error fault => exact introspectEndpoint_guarded.refused formed hr
  | ok client => exact introspectEndpoint_of_forbidden formed hr (unentitled client hr)

theorem introspectEndpoint_of_sameButTokens (resemble : Resembles frame.request other.request)
    (header : frame.request.header? "authorization" = other.request.header? "authorization")
    (formed : Form.read frame.request = .ok f) (alsoFormed : Form.read other.request = .ok g)
    (stores : SameButTokens state.data later.data) (unentitled : Unentitled state.data frame) :
    RepliesAlike (introspectEndpoint frame state) (introspectEndpoint other later) := by
  -- Recognition looks at no token, so that both callers fare the same before the form matters.
  have hresult : (Recognition.ofConfidential frame (Authentication.ofStores state.data)).result =
      (Recognition.ofConfidential other (Authentication.ofStores later.data)).result := by
    rw [stores.directory]
    exact Recognition.ofConfidential_result_congr header
  have halso := unentitled.of_sameButTokens header stores
  rw [introspectEndpoint_of_unentitled formed unentitled,
    introspectEndpoint_of_unentitled alsoFormed halso, hresult]
  apply repliesAlike_keep
  exact Recognition.events_ofConfidential_congr resemble header hresult

/-! ## What is served -/

theorem response_of_unentitled (app : Application) (state : State Data)
    (post : request.Is "POST" "/introspect") (formed : Form.read request = .ok form)
    (readable : request.addressFault? = none) {fresh : Grant.Fresh} {seconds : Double}
    (unentitled : Unentitled state.data (.enter request fresh seconds)) :
    (app.serve request fresh seconds state).response =
      some (sent app (.enter request fresh seconds)
        (Failure.handle app.service.policy request (inside (.enter request fresh seconds)).noted
          (refusalOf (Recognition.ofConfidential (.enter request fresh seconds)
            (Authentication.ofStores state.data)).result)).2) := by
  have hpost : (Frame.enter request fresh seconds).request.Is "POST" "/introspect" := post
  have hformed : Form.read (inside (.enter request fresh seconds)).request = .ok form := formed
  have hsame : (inside (.enter request fresh seconds)).request.header? "authorization" =
      (Frame.enter request fresh seconds).request.header? "authorization" := rfl
  have hunentitled : Unentitled state.data (inside (.enter request fresh seconds)) :=
    unentitled.of_sameButTokens rfl (.refl state.data)
  rw [(serve_of_readable app readable fresh seconds state).1, routed_answer,
    replied_of_introspect hpost, introspectEndpoint_of_unentitled hformed hunentitled,
    Recognition.ofConfidential_result_congr hsame]
  rfl

/-- What a caller is told that may not ask, where the credentials can be looked up or a store is out
of reach. -/
theorem status_of_unentitled (post : request.Is "POST" "/introspect")
    (formed : Form.read request = .ok form) {fresh : Grant.Fresh} {seconds : Double}
    (unentitled : Unentitled state.data (.enter request fresh seconds))
    (readable : request.addressFault? = none)
    (ascii : Basic.EncodedInAscii (request.header? "authorization"))
    (checkable : Recognition.HeldCheckable state.data (request.header? "authorization"))
    (latin : app.service.policy.Latin) :
    ∃ response, (app.serve request fresh seconds state).response = some response ∧
      (response.status = 401 ∨ response.status = 403 ∨
        response.status = 503 ∧
          (.configurations ∈ state.data.down ∨ .secrets ∈ state.data.down)) := by
  refine ⟨_, response_of_unentitled app state post formed readable unentitled, ?_⟩
  have hascii : Basic.EncodedInAscii
      ((Frame.enter request fresh seconds).request.header? "authorization") := ascii
  have hends :=
    Recognition.ofConfidential_of_checkable (.enter request fresh seconds) hascii checkable
  rcases hends with ⟨client, hclient⟩ | hnobody | ⟨hdown, u, hcut⟩
  · rw [hclient, refusalOf, Failure.handle_forbidden]
    exact .inr (.inl rfl)
  · obtain ⟨answer, hanswer⟩ := (Failure.handle_unauthenticated_ok_iff readable).mpr latin
    rw [hnobody, refusalOf, hanswer]
    exact .inl (Failure.status_of_handle hanswer)
  · rw [hcut, refusalOf, Failure.handle_ofUnreachable readable]
    exact .inr (.inr ⟨rfl, hdown⟩)

theorem entitled_of_answer (post : request.Is "POST" "/introspect") {fresh : Grant.Fresh}
    {seconds : Double}
    (h : (app.serve request fresh seconds state).response.map (·.status) = some 200) :
    .configurations ∉ state.data.down ∧ .secrets ∉ state.data.down ∧
      ∃ credentials client, Basic.Holds (request.header? "authorization") credentials ∧
        Recognition.Proven state.data credentials client ∧ .introspect ∈ client.actions := by
  have hpost : (Frame.enter request fresh seconds).request.Is "POST" "/introspect" := post
  cases hreadable : request.addressFault? with
  | some fault =>
    rw [(serve_of_address app hreadable fresh seconds state).1] at h
    cases h
  | none =>
    rw [(serve_of_readable app hreadable fresh seconds state).1, routed_answer,
      replied_of_introspect hpost, Option.map_some, Option.some.injEq] at h
    -- Every way to a fault is a way to another status than the one that was answered.
    have hfails {fault : Fault} (hstatus : 400 ≤ fault.status)
        (hresult : (introspectEndpoint (inside (.enter request fresh seconds)) state).result =
          .error fault) : False := by
      rw [hresult] at h
      have hsent := status_of_sent_fault app (.enter request fresh seconds) hstatus
      omega
    cases hform : Form.read (inside (.enter request fresh seconds)).request with
    | error fault =>
      exact (hfails (status_ofForm fault)
        (introspectEndpoint_guarded.result_of_unread hform)).elim
    | ok form =>
      cases hresult : (Recognition.ofConfidential (inside (.enter request fresh seconds))
          (Authentication.ofStores state.data)).result with
      | error fault =>
        exact (hfails (Recognition.status_of_ofConfidential hresult)
          (introspectEndpoint_guarded.result_of_refused hform hresult)).elim
      | ok principal =>
        cases hmay : principal.mayPerform .introspect with
        | false =>
          have hreplied := introspectEndpoint_of_forbidden hform hresult hmay
          have hstatus : 400 ≤ (Fault.forbidden .introspect).status := by
            show (400 : Int) ≤ 403
            omega
          exact (hfails hstatus (congrArg Reply.result hreplied)).elim
        | true =>
          obtain ⟨hclients, hsecrets, credentials, client, hheld, hproven, hprincipal⟩ :=
            Recognition.proven_of_ofConfidential hresult
          rw [hprincipal] at hmay
          exact ⟨hclients, hsecrets, credentials, client, hheld, hproven, of_decide_eq_true hmay⟩

/-- Callers that may not ask are seen alike whatever the tokens are, whether or not these can be
reached, and whatever the form says: they are told that they were not recognised or may not ask, or
that the service cannot tell for want of the other stores. Who is answered is a confidential client
that may ask, as it is on file at that moment. -/
theorem introspection_is_no_oracle (app : Application) (one other : Request)
    (post : one.Is "POST" "/introspect") (state later : State Data) (fresh next : Grant.Fresh)
    (seconds duration : Double) :
    (∀ f g, Request.AgreeBut ["content-length"] one other → Form.read one = .ok f →
        Form.read other = .ok g → SameButTokens state.data later.data →
        Unentitled state.data (.enter one fresh seconds) →
        viewOf (app.serve one fresh seconds state) =
            viewOf (app.serve other next duration later) ∧
          (one.addressFault? = none → Basic.EncodedInAscii (one.header? "authorization") →
            Recognition.HeldCheckable state.data (one.header? "authorization") →
            app.service.policy.Latin →
            ∃ response, (app.serve one fresh seconds state).response = some response ∧
              (response.status = 401 ∨ response.status = 403 ∨
                response.status = 503 ∧
                  (.configurations ∈ state.data.down ∨ .secrets ∈ state.data.down)))) ∧
      ((app.serve one fresh seconds state).response.map (·.status) = some 200 →
        .configurations ∉ state.data.down ∧ .secrets ∉ state.data.down ∧
          ∃ credentials client, Basic.Holds (one.header? "authorization") credentials ∧
            Recognition.Proven state.data credentials client ∧
            .introspect ∈ client.actions) := by
  refine ⟨fun f g rest formed alsoFormed stores unentitled => ⟨?_, ?_⟩, entitled_of_answer post⟩
  · have halsoPost : other.Is "POST" "/introspect" := by
      rw [Request.Is, ← rest.method, ← rest.path]
      exact post
    have hone : (Frame.enter one fresh seconds).request.Is "POST" "/introspect" := post
    have hother : (Frame.enter other next duration).request.Is "POST" "/introspect" := halsoPost
    apply view_congr rest.query
    rw [replied_of_introspect hone, replied_of_introspect hother]
    -- What the layers note down on the way in has no part in who may ask.
    have hunentitled : Unentitled state.data (inside (.enter one fresh seconds)) :=
      unentitled.of_sameButTokens rfl (.refl state.data)
    exact introspectEndpoint_of_sameButTokens (.of_agreeBut rest)
      (rest.header "authorization" (by decide)) formed alsoFormed stores hunentitled
  · exact fun readable ascii checkable latin =>
      status_of_unentitled post formed unentitled readable ascii checkable latin

/-- With a wrong secret it makes no difference whether there is a token, a text to ask about, or a
store of tokens. -/
theorem introspection_is_no_oracle_demo :
    viewOf (Application.standard.serve (Demo.request Demo.mistaken "/introspect" "token=none")
        Demo.fresh (.signedZero false) ⟨.empty, Demo.stores ⟨4⟩ "unset"⟩) =
      viewOf (Application.standard.serve (Demo.request Demo.mistaken "/introspect" "") Demo.fresh
        (.signedZero false)
        ⟨.empty, (withToken (Demo.stores ⟨4⟩ "unset") Demo.fresh Demo.accepted).withDown
          [.tokens]⟩) ∧
      ∃ response,
        (Application.standard.serve (Demo.request Demo.mistaken "/introspect" "token=none")
          Demo.fresh (.signedZero false) ⟨.empty, Demo.stores ⟨4⟩ "unset"⟩).response =
            some response ∧
          (response.status = 401 ∨ response.status = 403 ∨
            response.status = 503 ∧ (Name.configurations ∈ [] ∨ Name.secrets ∈ [])) := by
  have hheader := Demo.header_request Demo.mistaken "/introspect" "token=none"
  have hrest : Request.AgreeBut ["content-length"]
      (Demo.request Demo.mistaken "/introspect" "token=none")
      (Demo.request Demo.mistaken "/introspect" "") :=
    ⟨rfl, rfl, rfl, rfl, fun _ _ => rfl⟩
  have hone : Form.read (Demo.request Demo.mistaken "/introspect" "token=none") =
      .ok [("token", "none")] := by
    rw [Demo.read_request]
    rfl
  have hother : Form.read (Demo.request Demo.mistaken "/introspect" "") = .ok [] := by
    rw [Demo.read_request]
    rfl
  -- The stores differ in their tokens, and in whether these can be reached.
  have hsame : SameButTokens (Demo.stores ⟨4⟩ "unset")
      ((withToken (Demo.stores ⟨4⟩ "unset") Demo.fresh Demo.accepted).withDown [.tokens]) :=
    ⟨rfl, rfl, fun store hs =>
      ⟨fun h => absurd h List.not_mem_nil, fun h => absurd (List.mem_singleton.mp h) hs⟩⟩
  have hunentitled : Unentitled (Demo.stores ⟨4⟩ "unset")
      (.enter (Demo.request Demo.mistaken "/introspect" "token=none") Demo.fresh
        (.signedZero false)) := by
    intro client hclient
    obtain ⟨-, -, credentials, configuration, hheld, hproven, -⟩ :=
      Recognition.proven_of_ofConfidential hclient
    have hheld : Basic.Holds (some Demo.mistaken) credentials := hheader ▸ hheld
    rw [Recognition.holds_unique hheld Demo.holds_mistaken] at hproven
    exact absurd hproven Demo.not_proves_unset
  obtain ⟨hview, hstatus⟩ := (introspection_is_no_oracle .standard
    (Demo.request Demo.mistaken "/introspect" "token=none")
    (Demo.request Demo.mistaken "/introspect" "") ⟨rfl, .inl rfl⟩
    ⟨.empty, Demo.stores ⟨4⟩ "unset"⟩
    ⟨.empty, (withToken (Demo.stores ⟨4⟩ "unset") Demo.fresh Demo.accepted).withDown [.tokens]⟩
    Demo.fresh Demo.fresh (.signedZero false) (.signedZero false)).1 _ _ hrest hone hother hsame
    hunentitled
  rw [hheader] at hstatus
  exact ⟨hview, hstatus rfl Demo.ascii_mistaken (resolvable_mistaken ⟨4⟩).checkable (by decide)⟩

/-- With the secrets out of reach a caller is told neither that it was not recognised nor that it
may not ask. -/
theorem outage_of_secrets_is_told :
    (Demo.request Demo.authorization "/introspect" "token=none").Is "POST" "/introspect" ∧
      Form.read (Demo.request Demo.authorization "/introspect" "token=none") =
        .ok [("token", "none")] ∧
      Unentitled ((Demo.stores ⟨4⟩ "unset").withDown [.secrets])
        (.enter (Demo.request Demo.authorization "/introspect" "token=none") Demo.fresh
          (.signedZero false)) ∧
      (Application.standard.serve (Demo.request Demo.authorization "/introspect" "token=none")
        Demo.fresh (.signedZero false)
        ⟨.empty, (Demo.stores ⟨4⟩ "unset").withDown [.secrets]⟩).response.map (·.status) =
          some 503 := by
  have hform : Form.read (Demo.request Demo.authorization "/introspect" "token=none") =
      .ok [("token", "none")] := by
    rw [Demo.read_request]
    rfl
  have hresult : (Recognition.ofConfidential
      (.enter (Demo.request Demo.authorization "/introspect" "token=none") Demo.fresh
        (.signedZero false))
      (Authentication.ofStores ((Demo.stores ⟨4⟩ "unset").withDown [.secrets]))).result =
        .error (.ofUnreachable ⟨.secrets⟩) := by
    have hread : Basic.read ((Demo.request Demo.authorization "/introspect"
        "token=none").header? "authorization") =
          .ok (some ⟨Demo.confidentialId.text, Demo.confidentialSecret⟩) := by
      rw [Demo.header_request]
      exact Basic.read_of_holds Demo.holds_authorization
    unfold Recognition.ofConfidential Frame.enter
    rw [hread]
    rfl
  have hunentitled : Unentitled ((Demo.stores ⟨4⟩ "unset").withDown [.secrets])
      (.enter (Demo.request Demo.authorization "/introspect" "token=none") Demo.fresh
        (.signedZero false)) := by
    intro client hclient
    rw [hresult] at hclient
    cases hclient
  have hreadable :
      (Demo.request Demo.authorization "/introspect" "token=none").addressFault? = none := rfl
  refine ⟨⟨rfl, .inl rfl⟩, hform, hunentitled, ?_⟩
  rw [response_of_unentitled .standard ⟨.empty, (Demo.stores ⟨4⟩ "unset").withDown [.secrets]⟩
    ⟨rfl, .inl rfl⟩ hform hreadable hunentitled, hresult, refusalOf,
    Failure.handle_ofUnreachable hreadable]
  rfl

end TokenIssuer.Service
