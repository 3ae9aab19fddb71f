import TokenIssuer.Proofs.Http.Form
import TokenIssuer.Proofs.Service.Hardening

/-!
The stages of a token request: its media type, its form, its client, and the grant. What a request
is told when it fails at a stage does not depend on anything that a later stage looks at.
-/

namespace TokenIssuer.Service

open Http Store

variable {app : Application} {one other : Request} {state later : State Data}
  {fresh next : Grant.Fresh} {seconds duration : Double} {fault : Fault} {answer : Response}

/-- Both requests are told the same, apart from a correlation id: a status and an error code. -/
def RefusedAlike (status : Int) (code : String) (served also : Served Data) : Prop :=
  ∃ response description,
    served.response.map Response.untraced = some response ∧
      also.response.map Response.untraced = some response ∧
      response.status = status ∧ response.body = .json (Failure.body code description)

theorem readable_of_refusedAlike {status : Int} {code : String}
    (h : RefusedAlike status code (app.serve one fresh seconds state)
      (app.serve other next duration later)) :
    one.addressFault? = none ∧ other.addressFault? = none := by
  obtain ⟨response, description, hone, hother, -, -⟩ := h
  constructor
  · cases ha : one.addressFault? with
    | none => rfl
    | some fault =>
      rw [(serve_of_address app ha fresh seconds state).1] at hone
      cases hone
  · cases ha : other.addressFault? with
    | none => rfl
    | some fault =>
      rw [(serve_of_address app ha next duration later).1] at hother
      cases hother

theorem response_of_fault (post : one.Is "POST" "/token") (readable : one.addressFault? = none)
    (ends : (tokenEndpoint app.rules (inside (.enter one fresh seconds)) state).result =
      .error fault) :
    (app.serve one fresh seconds state).response =
      some (sent app (.enter one fresh seconds)
        (Failure.handle app.service.policy one (inside (.enter one fresh seconds)).noted
          fault).2) := by
  have hone : (Frame.enter one fresh seconds).request.Is "POST" "/token" := post
  rw [(serve_of_readable app readable fresh seconds state).1, routed_answer,
    replied_of_token hone, ends]
  rfl

theorem refusedAlike_of_fault {code description : String} (post : one.Is "POST" "/token")
    (alsoPost : other.Is "POST" "/token") (readable : one.addressFault? = none)
    (alsoReadable : other.addressFault? = none)
    (ends : (tokenEndpoint app.rules (inside (.enter one fresh seconds)) state).result =
      .error fault)
    (alsoEnds : (tokenEndpoint app.rules (inside (.enter other next duration)) later).result =
      .error fault)
    (told : (Failure.handle app.service.policy one (inside (.enter one fresh seconds)).noted
      fault).2 = .ok answer)
    (body : answer.body = .json (Failure.body code description)) :
    RefusedAlike fault.status code (app.serve one fresh seconds state)
      (app.serve other next duration later) := by
  have hone : (Frame.enter one fresh seconds).request.Is "POST" "/token" := post
  have hother : (Frame.enter other next duration).request.Is "POST" "/token" := alsoPost
  have hsame : (app.serve one fresh seconds state).response.map Response.untraced =
      (app.serve other next duration later).response.map Response.untraced := by
    apply response_congr readable alsoReadable
    rw [replied_of_token hone, replied_of_token hother, ends, alsoEnds]
  have hresponse := response_of_fault post readable ends
  have hstatus : answer.status = fault.status := Failure.status_of_handle told
  rw [told] at hresponse
  rw [hresponse] at hsame
  exact ⟨_, description, by rw [hresponse]; rfl, hsame.symm, hstatus, body⟩

/-! ## The media type and the form -/

/-- A request without a form is refused before its credentials and the stores are looked at. -/
theorem refusedAlike_unread_iff (app : Application) {fault : Form.Fault}
    (post : one.Is "POST" "/token") (alsoPost : other.Is "POST" "/token")
    (unread : Form.read one = .error fault) (alsoUnread : Form.read other = .error fault)
    (state later : State Data) (fresh next : Grant.Fresh) (seconds duration : Double) :
    RefusedAlike (Fault.ofForm fault).status Grant.Code.invalidRequest.text
        (app.serve one fresh seconds state) (app.serve other next duration later) ↔
      one.addressFault? = none ∧ other.addressFault? = none := by
  refine ⟨readable_of_refusedAlike, fun ⟨readable, alsoReadable⟩ => ?_⟩
  have hone : Form.read (inside (.enter one fresh seconds)).request = .error fault := unread
  have hother : Form.read (inside (.enter other next duration)).request = .error fault :=
    alsoUnread
  apply refusedAlike_of_fault post alsoPost readable alsoReadable
  · exact (tokenEndpoint_guarded app.rules).result_of_unread hone
  · exact (tokenEndpoint_guarded app.rules).result_of_unread hother
  · exact Failure.handle_ofForm fault
  · rfl

/-! ## The client -/

theorem refusedAlike_unrecognised_iff {f g : Form} (post : one.Is "POST" "/token")
    (alsoPost : other.Is "POST" "/token") (formed : Form.read one = .ok f)
    (alsoFormed : Form.read other = .ok g)
    (resolvable : Resolvable state.data (one.header? "authorization"))
    (alsoResolvable : Resolvable later.data (other.header? "authorization"))
    (nobody : ∀ principal,
      ¬ Recognition.Recognises state.data (one.header? "authorization") f principal)
    (alsoNobody : ∀ principal,
      ¬ Recognition.Recognises later.data (other.header? "authorization") g principal)
    (fresh next : Grant.Fresh) (seconds duration : Double) :
    RefusedAlike 401 Grant.Code.invalidClient.text (app.serve one fresh seconds state)
        (app.serve other next duration later) ↔
      one.addressFault? = none ∧ other.addressFault? = none ∧ app.service.policy.Latin := by
  have hone : (tokenEndpoint app.rules (inside (.enter one fresh seconds)) state).result =
      .error .unauthenticated := by
    have hformed : Form.read (inside (.enter one fresh seconds)).request = .ok f := formed
    exact (tokenEndpoint_guarded app.rules).result_of_refused hformed
      (Recognition.ofRequest_of_nobody (inside (.enter one fresh seconds)) resolvable nobody)
  have hother : (tokenEndpoint app.rules (inside (.enter other next duration)) later).result =
      .error .unauthenticated := by
    have hformed : Form.read (inside (.enter other next duration)).request = .ok g := alsoFormed
    exact (tokenEndpoint_guarded app.rules).result_of_refused hformed
      (Recognition.ofRequest_of_nobody (inside (.enter other next duration)) alsoResolvable
        alsoNobody)
  have hlatin (readable : one.addressFault? = none) :
      (∃ answer, (Failure.handle app.service.policy one
        (inside (.enter one fresh seconds)).noted .unauthenticated).2 = .ok answer) ↔
          app.service.policy.Latin := Failure.handle_unauthenticated_ok_iff readable
  constructor
  · intro h
    obtain ⟨readable, alsoReadable⟩ := readable_of_refusedAlike h
    have hresponse := response_of_fault post readable hone
    refine ⟨readable, alsoReadable, (hlatin readable).mp ?_⟩
    cases ha : (Failure.handle app.service.policy one (inside (.enter one fresh seconds)).noted
        .unauthenticated).2 with
    | ok answer => exact ⟨answer, rfl⟩
    | error fault =>
      -- A realm that cannot be sent makes the service itself fail.
      obtain ⟨response, description, hmap, -, hstatus, -⟩ := h
      rw [hresponse, ha] at hmap
      cases hmap
      have hfailed : (500 : Int) = 401 := hstatus
      omega
  · rintro ⟨readable, alsoReadable, latin⟩
    obtain ⟨answer, hanswer⟩ := (hlatin readable).mpr latin
    exact refusedAlike_of_fault post alsoPost readable alsoReadable hone hother hanswer
      (Failure.body_of_unauthenticated hanswer)

/-! ## The grant -/

/-- The request has a form, and a client is recognised in it: nothing but the grant is left to
decide. -/
structure Passes (stores : Stores) (request : Request) (form : Form)
    (principal : Client.Principal) : Prop where
  formed : Form.read request = .ok form
  recognised :
    Recognition.Recognises stores (request.header? "authorization") form principal

/-- What is answered is the decision on a grant. -/
def TellsDecision (frame : Frame) (response : Option Response) : Prop :=
  ∃ decision, response = some (dressed frame (decidedResponse decision))

theorem not_tellsDecision {frame : Frame} {sent : Response}
    (h : sent.headers.lookup "cache-control" = none) : ¬ TellsDecision frame (some sent) := by
  rintro ⟨decision, he⟩
  -- Decisions alone are sent with the advice not to store them.
  have hlines : (decidedResponse decision).headers.lookup "cache-control" = some "no-store" := rfl
  rw [Option.some.inj he, lookup_dressed (by decide) hlines] at h
  cases h

theorem lookup_dressed_of_none {frame : Frame} {response : Response}
    (h : response.headers.lookup "cache-control" = none) :
    (dressed frame response).headers.lookup "cache-control" = none := by
  rw [lookup_dressed_of_notMem (by decide) (by decide)]
  exact h

theorem response_of_passes (app : Application) {form : Form} {principal : Client.Principal}
    (post : one.Is "POST" "/token") (readable : one.addressFault? = none)
    (resolvable : Resolvable state.data (one.header? "authorization"))
    (tokensUp : .tokens ∉ state.data.down) (passes : Passes state.data one form principal)
    (fresh : Grant.Fresh) (seconds : Double) :
    ∃ decision after,
      (Grant.exchange app.rules fresh state.data principal form).result = .ok (decision, after) ∧
        (app.serve one fresh seconds state).response =
          some (dressed (.enter one fresh seconds) (decidedResponse decision)) := by
  have hone : (Frame.enter one fresh seconds).request.Is "POST" "/token" := post
  have hformed : Form.read (inside (.enter one fresh seconds)).request = .ok form := passes.formed
  have hsettles := Recognition.ofRequest_settles (inside (.enter one fresh seconds)) form
    resolvable.clientsUp resolvable.secretsUp resolvable.ascii resolvable.checkable
  have hrecognised :
      (Recognition.ofRequest (inside (.enter one fresh seconds))
        (Authentication.ofStores state.data) form).result = .ok principal :=
    (hsettles.eq_ok_iff fun _ _ => Recognition.Recognises.unique).mpr passes.recognised
  obtain ⟨decision, after, hexchange⟩ :=
    Grant.exchange_of_up app.rules fresh principal form tokensUp
  have hinside : (Grant.exchange app.rules (inside (.enter one fresh seconds)).fresh state.data
      principal form).result = .ok (decision, after) := hexchange
  refine ⟨decision, after, hexchange, ?_⟩
  rw [(serve_of_readable app readable fresh seconds state).1, routed_answer,
    replied_of_token hone]
  unfold tokenEndpoint
  simp only [hformed, hrecognised, decide, hinside, decisionAnswer_eq]
  rfl

/-- A request that ends at an earlier stage is told something that may be stored. -/
theorem not_tellsDecision_of_stuck (app : Application) (post : one.Is "POST" "/token")
    (readable : one.addressFault? = none)
    (resolvable : Resolvable state.data (one.header? "authorization"))
    (stuck : ∀ form principal, ¬ Passes state.data one form principal) (fresh : Grant.Fresh)
    (seconds : Double) :
    ¬ TellsDecision (.enter one fresh seconds) (app.serve one fresh seconds state).response := by
  cases hform : Form.read one with
  | error fault =>
    have hformed : Form.read (inside (.enter one fresh seconds)).request = .error fault := hform
    rw [response_of_fault post readable
      ((tokenEndpoint_guarded app.rules).result_of_unread hformed), Failure.handle_ofForm]
    exact not_tellsDecision (lookup_dressed_of_none rfl)
  | ok form =>
    have hformed : Form.read (inside (.enter one fresh seconds)).request = .ok form := hform
    have hnobody (principal : Client.Principal) : ¬ Recognition.Recognises state.data
        (one.header? "authorization") form principal :=
      fun h => stuck form principal ⟨hform, h⟩
    have hends := (tokenEndpoint_guarded app.rules).result_of_refused hformed
      (Recognition.ofRequest_of_nobody (inside (.enter one fresh seconds)) resolvable hnobody)
    rw [response_of_fault post readable hends]
    cases ha : (Failure.handle app.service.policy one
        (inside (.enter one fresh seconds)).noted .unauthenticated).2 with
    | ok answer =>
      have hstored := Failure.uncontrolled_of_unauthenticated readable ha
      exact not_tellsDecision (lookup_dressed_of_none hstored)
    | error fault => exact not_tellsDecision rfl

theorem tellsDecision_iff (post : one.Is "POST" "/token")
    (resolvable : Resolvable state.data (one.header? "authorization"))
    (tokensUp : .tokens ∉ state.data.down) (fresh : Grant.Fresh) (seconds : Double) :
    TellsDecision (.enter one fresh seconds) (app.serve one fresh seconds state).response ↔
      one.addressFault? = none ∧ ∃ form principal, Passes state.data one form principal := by
  cases readable : one.addressFault? with
  | some fault =>
    refine iff_of_false ?_ fun h => absurd h.1 (by simp)
    rw [(serve_of_address app readable fresh seconds state).1]
    rintro ⟨decision, h⟩
    cases h
  | none =>
    rw [and_iff_right rfl]
    constructor
    · intro h
      -- A request that does not come through is told of the stage where it ends.
      by_contra hstuck
      simp only [not_exists] at hstuck
      exact not_tellsDecision_of_stuck app post readable resolvable hstuck fresh seconds h
    · rintro ⟨form, principal, passes⟩
      obtain ⟨decision, _, -, hresponse⟩ :=
        response_of_passes app post readable resolvable tokensUp passes fresh seconds
      exact ⟨decision, hresponse⟩

/-- Any two token requests that fail at one stage are told the same, whatever they hold for later
stages and whatever is on file: another media type than that of a form, a body that holds no form,
nobody recognised. They are told so exactly when their addresses can be read, and the last of it
exactly when the realm can be sent as well. The decision on a grant is told to those requests only
that come through all of these stages. -/
theorem failures_are_told_in_stages (app : Application) (one other : Request)
    (post : one.Is "POST" "/token") (alsoPost : other.Is "POST" "/token")
    (state later : State Data) (fresh next : Grant.Fresh) (seconds duration : Double) :
    (Form.requestType one ≠ Form.expectedType.toList →
      Form.requestType other ≠ Form.expectedType.toList →
      (RefusedAlike 415 "invalid_request" (app.serve one fresh seconds state)
          (app.serve other next duration later) ↔
        one.addressFault? = none ∧ other.addressFault? = none)) ∧
    (Form.requestType one = Form.expectedType.toList →
      Form.requestType other = Form.expectedType.toList → one.body = other.body →
      ¬ Form.WellFormed one.body →
      (RefusedAlike 400 "invalid_request" (app.serve one fresh seconds state)
          (app.serve other next duration later) ↔
        one.addressFault? = none ∧ other.addressFault? = none)) ∧
    (Resolvable state.data (one.header? "authorization") →
      Resolvable later.data (other.header? "authorization") →
      ∀ f g, Form.read one = .ok f → Form.read other = .ok g →
      (∀ principal,
        ¬ Recognition.Recognises state.data (one.header? "authorization") f principal) →
      (∀ principal,
        ¬ Recognition.Recognises later.data (other.header? "authorization") g principal) →
      (RefusedAlike 401 "invalid_client" (app.serve one fresh seconds state)
          (app.serve other next duration later) ↔
        one.addressFault? = none ∧ other.addressFault? = none ∧ app.service.policy.Latin)) ∧
    (Resolvable state.data (one.header? "authorization") → .tokens ∉ state.data.down →
      (TellsDecision (.enter one fresh seconds) (app.serve one fresh seconds state).response ↔
        one.addressFault? = none ∧
          ∃ form principal, Passes state.data one form principal) ∧
      ∀ form principal, one.addressFault? = none → Passes state.data one form principal →
        ∃ decision after response,
          (Grant.exchange app.rules fresh state.data principal form).result =
              .ok (decision, after) ∧
            (app.serve one fresh seconds state).response = some response ∧
            response = dressed (.enter one fresh seconds) (decidedResponse decision) ∧
            (response.status = 200 ∨ response.status = 400)) := by
  refine ⟨fun type alsoType => ?_, fun type alsoType body unformed => ?_,
    fun resolvable alsoResolvable f g formed alsoFormed nobody alsoNobody => ?_,
    fun resolvable tokensUp => ⟨tellsDecision_iff post resolvable tokensUp fresh seconds, ?_⟩⟩
  · exact refusedAlike_unread_iff app post alsoPost (Form.read_of_otherType type)
      (Form.read_of_otherType alsoType) state later fresh next seconds duration
  · have hread : Form.read one = Form.decode one.body := Form.read_of_type type
    have hother : Form.read other = Form.decode one.body := by rw [body, Form.read_of_type alsoType]
    cases hdecode : Form.decode one.body with
    | ok form => exact absurd (Form.decode_succeeds_iff.mp ⟨form, hdecode⟩) unformed
    | error fault =>
      -- The body alone decides what is wrong with it.
      rw [hdecode] at hread hother
      have htold := refusedAlike_unread_iff app post alsoPost hread hother state later
        fresh next seconds duration
      cases fault with
      | mediaType => exact absurd hdecode (Form.decode_ne_mediaType one.body)
      | notText => exact htold
      | repeated name => exact htold
  · exact refusedAlike_unrecognised_iff post alsoPost formed alsoFormed resolvable alsoResolvable
      nobody alsoNobody fresh next seconds duration
  · intro form principal readable passes
    obtain ⟨decision, after, hexchange, hresponse⟩ :=
      response_of_passes app post readable resolvable tokensUp passes fresh seconds
    exact ⟨decision, after, _, hexchange, hresponse, rfl, status_decidedResponse decision⟩

def plainRequest (query body : String) : Request :=
  { method := "POST", path := "/token", query, headers := [("content-type", "text/plain")]
    body := Utf8.encode body.toList, peer := none }

theorem requestType_plainRequest (query body : String) :
    Form.requestType (plainRequest query body) ≠ Form.expectedType.toList := by
  have hheader : (plainRequest query body).header? "content-type" = some "text/plain" := by rfl
  unfold Form.requestType
  rw [hheader]
  decide

theorem failures_are_told_in_stages_demo :
    RefusedAlike 415 "invalid_request"
        (Application.standard.serve (plainRequest "" "") Demo.fresh (.signedZero false)
          ⟨.empty, .empty⟩)
        (Application.standard.serve (plainRequest "" "a=b") Demo.fresh (.signedZero false)
          ⟨.empty, Demo.stores ⟨4⟩ "unset"⟩) ∧
      RefusedAlike 400 "invalid_request"
        (Application.standard.serve (Demo.request Demo.mistaken "/token" "a=1&a=2") Demo.fresh
          (.signedZero false) ⟨.empty, .empty⟩)
        (Application.standard.serve (Demo.request Demo.authorization "/token" "a=1&a=2") Demo.fresh
          (.signedZero false) ⟨.empty, Demo.stores ⟨4⟩ "unset"⟩) ∧
      RefusedAlike 401 "invalid_client"
        (Application.standard.serve (Demo.request Demo.mistaken "/token" "") Demo.fresh
          (.signedZero false) ⟨.empty, .empty⟩)
        (Application.standard.serve (Demo.request Demo.mistaken "/token" "scope=basic") Demo.fresh
          (.signedZero false) ⟨.empty, Demo.stores ⟨4⟩ "unset"⟩) ∧
      ∃ stores, Application.standard.startStores (List.replicate 8 1) ⟨4⟩ = .ok stores ∧
        TellsDecision (.enter Demo.tokenRequest Demo.fresh (.signedZero false))
          (Application.standard.serve Demo.tokenRequest Demo.fresh (.signedZero false)
            ⟨.empty, stores⟩).response := by
  have hpost (authorization body : String) :
      (Demo.request authorization "/token" body).Is "POST" "/token" := ⟨rfl, .inl rfl⟩
  have hplain (body : String) : (plainRequest "" body).Is "POST" "/token" := ⟨rfl, .inl rfl⟩
  have hunformed : ¬ Form.WellFormed (Utf8.encode "a=1&a=2".toList) := by
    rw [← Form.decode_succeeds_iff]
    have hrepeated : Form.decode (Utf8.encode "a=1&a=2".toList) = .error (.repeated "a") := by rfl
    rw [hrepeated]
    rintro ⟨form, h⟩
    cases h
  refine ⟨?_, ?_, ?_, ?_⟩
  · -- No form at all, whether the client is on file or not.
    have hstaged := failures_are_told_in_stages .standard (plainRequest "" "")
      (plainRequest "" "a=b") (hplain "") (hplain "a=b") ⟨.empty, .empty⟩
      ⟨.empty, Demo.stores ⟨4⟩ "unset"⟩ Demo.fresh Demo.fresh (.signedZero false)
      (.signedZero false)
    exact (hstaged.1 (requestType_plainRequest "" "") (requestType_plainRequest "" "a=b")).mpr
      ⟨rfl, rfl⟩
  · -- A field that is given twice, whatever the secret beside it.
    have hstaged := failures_are_told_in_stages .standard
      (Demo.request Demo.mistaken "/token" "a=1&a=2")
      (Demo.request Demo.authorization "/token" "a=1&a=2") (hpost _ _) (hpost _ _)
      ⟨.empty, .empty⟩ ⟨.empty, Demo.stores ⟨4⟩ "unset"⟩ Demo.fresh Demo.fresh
      (.signedZero false) (.signedZero false)
    exact (hstaged.2.1 (Demo.requestType_request _ _ _) (Demo.requestType_request _ _ _) rfl
      hunformed).mpr ⟨rfl, rfl⟩
  · -- A wrong secret, with nothing on file and with a record that has no hash.
    have hstaged := failures_are_told_in_stages .standard (Demo.request Demo.mistaken "/token" "")
      (Demo.request Demo.mistaken "/token" "scope=basic") (hpost _ _) (hpost _ _)
      ⟨.empty, .empty⟩ ⟨.empty, Demo.stores ⟨4⟩ "unset"⟩ Demo.fresh Demo.fresh
      (.signedZero false) (.signedZero false)
    simp only [Demo.header_request] at hstaged
    have hformed : Form.read (Demo.request Demo.mistaken "/token" "") = .ok [] :=
      Demo.read_request Demo.mistaken "/token" ""
    have hother : Form.read (Demo.request Demo.mistaken "/token" "scope=basic") =
        .ok [("scope", "basic")] := by
      rw [Demo.read_request]
      rfl
    exact (hstaged.2.2.1 (resolvable_empty Demo.ascii_mistaken) (resolvable_mistaken ⟨4⟩) _ _
      hformed hother (fun _ => Recognition.not_recognises_mistaken_empty)
      (fun _ => Recognition.not_recognises_mistaken_unset)).mpr ⟨rfl, rfl, by decide⟩
  · -- The client is recognised, and only now what it asks for is looked at.
    obtain ⟨hash, hs, hv⟩ := Demo.startStores_standard
    have hheader : Demo.tokenRequest.header? "authorization" = some Demo.authorization :=
      Demo.header_request _ _ _
    have hresolvable : Resolvable (Demo.stores ⟨4⟩ hash)
        (Demo.tokenRequest.header? "authorization") := by
      rw [hheader]
      refine ⟨List.not_mem_nil, List.not_mem_nil, Demo.holds_authorization.encodedInAscii,
        fun credentials held => ?_⟩
      rw [Recognition.holds_unique held Demo.holds_authorization]
      exact Demo.checkable_confidential hv
    have hpasses : Passes (Demo.stores ⟨4⟩ hash) Demo.tokenRequest Demo.tokenForm
        (.confidential Demo.confidential) := by
      refine ⟨Demo.read_tokenRequest, ?_⟩
      rw [hheader]
      exact .byHeader Demo.holds_authorization rfl (Demo.proves_confidential hv)
    have hstaged := failures_are_told_in_stages .standard Demo.tokenRequest Demo.tokenRequest
      (hpost _ _) (hpost _ _) ⟨.empty, Demo.stores ⟨4⟩ hash⟩ ⟨.empty, Demo.stores ⟨4⟩ hash⟩
      Demo.fresh Demo.fresh (.signedZero false) (.signedZero false)
    exact ⟨_, hs, (hstaged.2.2.2 hresolvable List.not_mem_nil).1.mpr ⟨rfl, _, _, hpasses⟩⟩

/-- A query that is no text leaves the media type untold: there is no response. -/
theorem unreadable_address_is_not_told :
    (plainRequest "ÿ" "").Is "POST" "/token" ∧
      Form.requestType (plainRequest "ÿ" "") ≠ Form.expectedType.toList ∧
      (Application.standard.serve (plainRequest "ÿ" "") Demo.fresh (.signedZero false)
        ⟨.empty, .empty⟩).response = none ∧
      ∀ also, ¬ RefusedAlike 415 "invalid_request"
        (Application.standard.serve (plainRequest "ÿ" "") Demo.fresh (.signedZero false)
          ⟨.empty, .empty⟩) also := by
  have hfault : ∃ fault, (plainRequest "ÿ" "").addressFault? = some fault := ⟨_, rfl⟩
  obtain ⟨fault, hfault⟩ := hfault
  have hnone := (serve_of_address .standard hfault Demo.fresh (.signedZero false)
    ⟨.empty, .empty⟩).1
  refine ⟨⟨rfl, .inl rfl⟩, requestType_plainRequest "ÿ" "", hnone, ?_⟩
  rintro also ⟨response, description, hone, -⟩
  rw [hnone] at hone
  cases hone

end TokenIssuer.Service
