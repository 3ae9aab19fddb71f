import TokenIssuer.Proofs.Service.Introspection
import TokenIssuer.Proofs.Service.Refusal

/-!
The headers that every response is to carry. A response has them exactly when the routes answer; a
fault that nothing is prepared for is answered outside of the layers that add them.
-/

namespace TokenIssuer.Service

open Http Store

variable {app : Application} {frame : Frame} {request : Request} {state : State Data}
  {result : Except Fault Response} {form : Form}

/-! ## What has a response -/

/-- The result of an endpoint has a response, if need be one for its fault. -/
def Answerable (app : Application) (frame : Frame) (result : Except Fault Response) : Prop :=
  ∃ response, answered app frame result = .ok response

theorem answerable_ofForm (fault : Form.Fault) : Answerable app frame (.error (.ofForm fault)) :=
  ⟨_, Failure.handle_ofForm fault⟩

theorem answerable_forbidden (action : Client.Action) :
    Answerable app frame (.error (.forbidden action)) :=
  ⟨_, Failure.handle_forbidden action⟩

theorem answerable_ofUnreachable (readable : frame.request.addressFault? = none)
    (u : Unreachable) : Answerable app frame (.error (.ofUnreachable u)) :=
  ⟨_, Failure.handle_ofUnreachable readable u⟩

theorem answerable_unauthenticated_iff (readable : frame.request.addressFault? = none) :
    Answerable app frame (.error .unauthenticated) ↔ app.service.policy.Latin :=
  Failure.handle_unauthenticated_ok_iff readable

theorem not_answerable_unexpected (fault : Unexpected) :
    ¬ Answerable app frame (.error (.unexpected fault)) := by
  rintro ⟨response, h⟩
  cases h

theorem answerable_answer {status : Int} {content : Json} {headers : Headers}
    (finite : content.isFinite)
    (sendable : ∀ h ∈ headers, foreign? (Text.lowered h.1) = none ∧ foreign? h.2 = none) :
    Answerable app frame (answer status content headers) := by
  unfold answer
  rw [Response.json_eq_ok status content headers finite sendable]
  exact ⟨_, rfl⟩

theorem answerable_ofStatus (status : Int) {headers : Headers}
    (sendable : ∀ h ∈ headers, foreign? (Text.lowered h.1) = none ∧ foreign? h.2 = none) :
    Answerable app frame (.error (.ofStatus status .null headers)) := by
  have hjson (code name : String) :=
    Response.json_eq_ok status (Failure.body code name) headers rfl sendable
  unfold Answerable answered Fault.ofStatus Failure.handle Failure.response Failure.describe
  simp only [hjson]
  exact ⟨_, rfl⟩

/-! ## The endpoints -/

/-- Recognition ends in what has no response: a fault that nothing is prepared for, or a refusal for
a realm that cannot be sent. -/
def Unanswerable (policy : Failure.Policy) (recognition : Recognition) : Prop :=
  recognition.Fails ∨ recognition.result = .error .unauthenticated ∧ ¬ policy.Latin

theorem not_answerable_iff (readable : frame.request.addressFault? = none)
    {recognition : Recognition} (ends : recognition.Ends)
    (recognised : ∀ client, recognition.result = .ok client → Answerable app frame result)
    (refused : ∀ fault, recognition.result = .error fault → result = .error fault) :
    ¬ Answerable app frame result ↔ Unanswerable app.service.policy recognition := by
  unfold Unanswerable Recognition.Fails
  -- Of the four ends two can fail to be answered: a realm, or a fault nobody foresaw.
  cases ends with
  | client principal h =>
    rw [h]
    exact iff_of_false (fun hn => hn (recognised principal h)) (by simp)
  | nobody h =>
    rw [refused _ h, answerable_unauthenticated_iff readable, h]
    refine ⟨fun hn => .inr ⟨rfl, hn⟩, ?_⟩
    rintro (⟨fault, hf⟩ | hn)
    · cases hf
    · exact hn.2
  | unreached u h =>
    rw [refused _ h, h]
    refine iff_of_false (fun hn => hn (answerable_ofUnreachable readable u)) ?_
    rintro (⟨fault, hf⟩ | ⟨hu, -⟩)
    · cases hf
    · cases hu
  | fails h =>
    obtain ⟨fault, hf⟩ := h
    rw [refused _ hf, hf]
    exact iff_of_true (not_answerable_unexpected fault) (.inl ⟨fault, rfl⟩)

theorem Guarded.unanswerable_iff {endpoint : Endpoint Data}
    {recognition : Frame → Stores → Form → Recognition} (guarded : Guarded endpoint recognition)
    (readable : frame.request.addressFault? = none)
    (ends : ∀ form, (recognition frame state.data form).Ends)
    (recognised : ∀ form client, Form.read frame.request = .ok form →
      (recognition frame state.data form).result = .ok client →
        Answerable app frame (endpoint frame state).result) :
    ¬ Answerable app frame (endpoint frame state).result ↔
      ∃ form, Form.read frame.request = .ok form ∧
        Unanswerable app.service.policy (recognition frame state.data form) := by
  cases hform : Form.read frame.request with
  | error fault =>
    rw [guarded.result_of_unread hform]
    exact iff_of_false (fun h => h (answerable_ofForm fault)) (by simp)
  | ok form =>
    simp only [Except.ok.injEq, exists_eq_left']
    exact not_answerable_iff readable (ends form)
      (fun client hclient => recognised form client hform hclient)
      fun fault hfault => guarded.result_of_refused hform hfault

theorem tokenEndpoint_unanswerable_iff (readable : frame.request.addressFault? = none) :
    ¬ Answerable app frame (tokenEndpoint app.rules frame state).result ↔
      ∃ form, Form.read frame.request = .ok form ∧
        Unanswerable app.service.policy
          (Recognition.ofRequest frame (Authentication.ofStores state.data) form) := by
  apply (tokenEndpoint_guarded app.rules).unanswerable_iff readable
  · exact fun form => Recognition.ofRequest_ends frame _ form
  · intro form client hform hclient
    cases tokenEndpoint_replies app.rules frame state with
    | unread unformed _ _ _ => rw [hform] at unformed; cases unformed
    | refused formed unrecognised _ _ _ =>
      rw [hform] at formed
      cases formed
      rw [hclient] at unrecognised
      cases unrecognised
    | unreached _ _ _ result _ _ => rw [result]; exact answerable_ofUnreachable readable _
    | decided _ _ _ result _ _ => rw [result]; exact ⟨_, rfl⟩

theorem introspectEndpoint_unanswerable_iff (readable : frame.request.addressFault? = none) :
    ¬ Answerable app frame (introspectEndpoint frame state).result ↔
      ∃ form, Form.read frame.request = .ok form ∧
        Unanswerable app.service.policy
          (Recognition.ofConfidential frame (Authentication.ofStores state.data)) := by
  apply introspectEndpoint_guarded.unanswerable_iff readable
  · exact fun _ => Recognition.ofConfidential_ends frame _
  · intro form client hform hclient
    cases introspectEndpoint_replies frame state with
    | unread unformed _ _ => rw [hform] at unformed; cases unformed
    | refused _ unrecognised _ _ => rw [hclient] at unrecognised; cases unrecognised
    | forbidden _ _ _ result _ => rw [result]; exact answerable_forbidden .introspect
    | incomplete _ _ _ result _ => rw [result]; exact ⟨_, Failure.response_plain 400 _ _⟩
    | unreached _ _ _ _ result _ => rw [result]; exact answerable_ofUnreachable readable _
    | told _ _ _ _ result _ => rw [result]; exact ⟨_, rfl⟩

theorem readyEndpoint_answerable (frame : Frame) (state : State Data) :
    Answerable app frame (readyEndpoint frame state).result := by
  unfold readyEndpoint
  split
  · exact ⟨_, Failure.response_plain 503 _ _⟩
  · have hfinite : (Json.obj [("status", .str "ready")]).isFinite = true := rfl
    exact answerable_answer hfinite fun h hh => absurd hh List.not_mem_nil

/-! ## The routes -/

theorem not_answerable_page_iff (app : Application) (frame : Frame) (page : Page) :
    ¬ Answerable app frame (app.documentation.result app.settings.service page) ↔
      page.isTitled ∧ app.settings.service.plain? = none := by
  have hwrites := app.documentation.writes_iff page app.settings.service
  have htorn : (∃ text, app.settings.service = .plain text) ↔
      app.settings.service.plain? ≠ none := by
    cases app.settings.service <;> simp [Phrase.plain?]
  unfold Documentation.result
  cases hwrite : app.documentation.write page app.settings.service with
  | ok text =>
    have hall := hwrites.mp ⟨text, hwrite⟩
    rw [htorn, ← Bool.not_eq_true] at hall
    refine iff_of_false (fun h => h ⟨_, rfl⟩) fun h => ?_
    exact hall.elim (fun hu => hu h.1) fun hp => hp h.2
  | error message =>
    have hnone : ¬ ∃ text, app.documentation.write page app.settings.service = .ok text := by
      rw [hwrite]
      simp
    rw [hwrites, htorn, ← Bool.not_eq_true, not_or, not_not, not_not] at hnone
    exact iff_of_true (not_answerable_unexpected _) hnone

theorem replied_answerable_of_other (app : Application) (frame : Frame) (state : State Data)
    (readable : frame.request.addressFault? = none)
    (noToken : ¬ frame.request.Is "POST" "/token")
    (noIntrospect : ¬ frame.request.Is "POST" "/introspect")
    (noPage : ∀ page, ¬ AsksForPage frame.request page) :
    Answerable app (inside frame) (replied app frame state).result := by
  cases replies_replied app frame state with
  | counts _ same => rw [same]; exact ⟨_, rfl⟩
  | token post _ => exact absurd post noToken
  | introspection post _ => exact absurd post noIntrospect
  | live _ same =>
    have hfinite : (Json.obj [("status", .str "live")]).isFinite = true := rfl
    rw [same]
    exact answerable_answer hfinite fun h hh => absurd hh List.not_mem_nil
  | ready _ same => rw [same]; exact readyEndpoint_answerable (inside frame) state
  | page page asks _ => exact absurd asks (noPage page)
  | nowhere result same astray =>
    rw [same]
    show Answerable app (inside frame) result
    cases astray with
    | unknown => exact answerable_ofStatus 404 fun h hh => absurd hh List.not_mem_nil
    | otherMethod sendable =>
      -- The name of the header is of the code, its value of the routes.
      have hname : foreign? (Text.lowered "Allow") = none := by decide
      apply answerable_ofStatus
      intro line hline
      rw [List.mem_singleton.mp hline]
      exact ⟨hname, sendable⟩
    | otherPath path =>
      unfold redirectTo
      simp only [readable]
      exact ⟨_, rfl⟩

/-! ## Requests that nothing is prepared for -/

/-- The request meets a fault that nothing is prepared for: its credentials cannot be given to the
decoder, a check against a hash on file raises, nobody is recognised and the realm to authenticate
for cannot be sent, or it asks for a page with the name of the service in it, which has halves of
surrogate pairs. -/
inductive Unhandled (app : Application) (stores : Stores) (frame : Frame) : Prop where
  | credentials {form : Form}
      (post : frame.request.Is "POST" "/token" ∨ frame.request.Is "POST" "/introspect")
      (formed : Form.read frame.request = .ok form)
      (foreign : Recognition.Foreign (frame.request.header? "authorization"))
  | check {form : Form} {credentials : Basic.Credentials}
      (post : frame.request.Is "POST" "/token" ∧ form.lookup "client_id" = none ∨
        frame.request.Is "POST" "/introspect")
      (formed : Form.read frame.request = .ok form)
      (held : Basic.Holds (frame.request.header? "authorization") credentials)
      (breaks : Recognition.Breaks stores credentials)
  | token {form : Form} (post : frame.request.Is "POST" "/token")
      (formed : Form.read frame.request = .ok form)
      (refused : (Recognition.ofRequest frame (Authentication.ofStores stores) form).result =
        .error .unauthenticated)
      (realm : ¬ app.service.policy.Latin)
  | introspect {form : Form} (post : frame.request.Is "POST" "/introspect")
      (formed : Form.read frame.request = .ok form)
      (refused : (Recognition.ofConfidential frame (Authentication.ofStores stores)).result =
        .error .unauthenticated)
      (realm : ¬ app.service.policy.Latin)
  | page {page : Page} (asks : AsksForPage frame.request page) (titled : page.isTitled)
      (torn : app.settings.service.plain? = none)

theorem not_introspect_of_token (h : request.Is "POST" "/token") :
    ¬ request.Is "POST" "/introspect" :=
  fun ho => absurd (h.2.of_both ho.2) (by decide)

/-- Pages are read, not posted to. -/
theorem not_page_of_post (h : request.method = "POST") (page : Page) :
    ¬ AsksForPage request page :=
  fun hasks => absurd (h ▸ hasks.method) (by decide)

theorem unhandled_token_iff {stores : Stores}
    (post : frame.request.Is "POST" "/token") :
    Unhandled app stores frame ↔
      ∃ form, Form.read frame.request = .ok form ∧
        Unanswerable app.service.policy
          (Recognition.ofRequest frame (Authentication.ofStores stores) form) := by
  have hother := not_introspect_of_token post
  constructor
  · intro h
    cases h with
    | credentials _ formed foreign =>
      exact ⟨_, formed, .inl (Recognition.ofRequest_fails_iff.mpr (.inl foreign))⟩
    | check post formed held breaks =>
      have hsingle := (post.resolve_right hother).2
      exact ⟨_, formed, .inl (Recognition.ofRequest_fails_iff.mpr
        (.inr ⟨hsingle, _, held, breaks⟩))⟩
    | token _ formed refused realm => exact ⟨_, formed, .inr ⟨refused, realm⟩⟩
    | introspect post _ _ _ => exact absurd post hother
    | page asks _ _ => exact absurd asks (not_page_of_post post.1 _)
  · rintro ⟨form, formed, hfails | ⟨refused, realm⟩⟩
    · rcases Recognition.ofRequest_fails_iff.mp hfails with
        foreign | ⟨single, credentials, held, breaks⟩
      · exact .credentials (.inl post) formed foreign
      · exact .check (.inl ⟨post, single⟩) formed held breaks
    · exact .token post formed refused realm

theorem unhandled_introspect_iff {stores : Stores}
    (post : frame.request.Is "POST" "/introspect") :
    Unhandled app stores frame ↔
      ∃ form, Form.read frame.request = .ok form ∧
        Unanswerable app.service.policy
          (Recognition.ofConfidential frame (Authentication.ofStores stores)) := by
  constructor
  · intro h
    cases h with
    | credentials _ formed foreign =>
      exact ⟨_, formed, .inl (Recognition.ofConfidential_fails_iff.mpr (.inl foreign))⟩
    | check _ formed held breaks =>
      exact ⟨_, formed, .inl (Recognition.ofConfidential_fails_iff.mpr
        (.inr ⟨_, held, breaks⟩))⟩
    | token other _ _ _ => exact absurd post (not_introspect_of_token other)
    | introspect _ formed refused realm => exact ⟨_, formed, .inr ⟨refused, realm⟩⟩
    | page asks _ _ => exact absurd asks (not_page_of_post post.1 _)
  · rintro ⟨form, formed, hfails | ⟨refused, realm⟩⟩
    · rcases Recognition.ofConfidential_fails_iff.mp hfails with
        foreign | ⟨credentials, held, breaks⟩
      · exact .credentials (.inr post) formed foreign
      · exact .check (.inr post) formed held breaks
    · exact .introspect post formed refused realm

theorem unhandled_page_iff {stores : Stores} {page : Page}
    (asks : AsksForPage frame.request page) :
    Unhandled app stores frame ↔ page.isTitled ∧ app.settings.service.plain? = none := by
  have hno (h : frame.request.method = "POST") : False := not_page_of_post h page asks
  constructor
  · intro h
    cases h with
    | credentials post _ _ => exact (post.elim (hno ·.1) (hno ·.1)).elim
    | check post _ _ _ => exact (post.elim (hno ·.1.1) (hno ·.1)).elim
    | token post _ _ _ => exact (hno post.1).elim
    | introspect post _ _ _ => exact (hno post.1).elim
    | page other titled torn =>
      obtain rfl := asks.unique other
      exact ⟨titled, torn⟩
  · rintro ⟨titled, torn⟩
    exact .page asks titled torn

/-- The routes answer every request whose address can be told, but those. -/
theorem routed_answers_iff (app : Application) (frame : Frame) (state : State Data)
    (readable : frame.request.addressFault? = none) :
    (∃ own, (routed app frame state).answer = .ok own) ↔
      ¬ Unhandled app state.data (inside frame) := by
  have hreadable : (inside frame).request.addressFault? = none := readable
  rw [routed_answer]
  show Answerable app (inside frame) (replied app frame state).result ↔ _
  by_cases htoken : frame.request.Is "POST" "/token"
  · have hinside : (inside frame).request.Is "POST" "/token" := htoken
    rw [replied_of_token htoken, unhandled_token_iff hinside,
      ← tokenEndpoint_unanswerable_iff hreadable, not_not]
  · by_cases hintrospect : frame.request.Is "POST" "/introspect"
    · have hinside : (inside frame).request.Is "POST" "/introspect" := hintrospect
      rw [replied_of_introspect hintrospect, unhandled_introspect_iff hinside,
        ← introspectEndpoint_unanswerable_iff hreadable, not_not]
    · by_cases hpage : ∃ page, AsksForPage frame.request page
      · obtain ⟨page, hasks⟩ := hpage
        have hinside : AsksForPage (inside frame).request page := hasks
        rw [replied_of_page hasks, unhandled_page_iff hinside,
          ← not_answerable_page_iff app (inside frame), not_not]
        rfl
      · -- Nothing else looks at credentials or shows the name of the service.
        have hpages := not_exists.mp hpage
        refine iff_of_true
          (replied_answerable_of_other app frame state readable htoken hintrospect hpages)
          fun h => ?_
        cases h with
        | credentials post _ _ => exact post.elim htoken hintrospect
        | check post _ _ _ => exact post.elim (fun h => htoken h.1) hintrospect
        | token post _ _ _ => exact htoken post
        | introspect post _ _ _ => exact hintrospect post
        | page asks _ _ => exact hpages _ asks

/-! ## The headers -/

/-- The layers change no header but the ones they are there for. -/
theorem lookup_dressed_of_notMem {name : String} (hn : name ≠ Request.correlationHeader)
    (hother : name ∉ Layer.defaultSecurity.map fun h => Text.lowered h.1) (frame : Frame)
    (own : Response) : (dressed frame own).headers.lookup name = own.headers.lookup name := by
  unfold dressed
  rw [Headers.lookup_set_of_ne hn]
  exact lookup_putDefaults_of_notMem hother _

end TokenIssuer.Service
