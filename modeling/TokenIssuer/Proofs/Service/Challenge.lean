import TokenIssuer.Proofs.Service.Pipeline
import TokenIssuer.Proofs.Service.Recognition

/-!
What a header gets that begins with the word Basic and holds no credentials. It is to be refused
with a challenge; a character outside ASCII in it, or a realm or an address that cannot be told,
ends in something else.
-/

namespace TokenIssuer.Service

open Http Store

variable {app : Application} {request : Request} {form : Form} {fault : Basic.Fault}

/-- The response says that no client was recognised, and asks to authenticate for a realm. -/
structure Challenges (response : Response) : Prop where
  status : response.status = 401
  body : response.body =
    .json (Failure.body Grant.Code.invalidClient.text "Client authentication failed.")
  line : ∃ realm,
    response.headers.lookup "www-authenticate" = some (Failure.challengeLine realm)

/-- What a header that cannot be read ends in. -/
def unreadableFault : Basic.Fault → Fault
  | .malformed => .unauthenticated
  | .notAscii => .unexpected .credentials

theorem unreadable_result (frame : Frame) (fault : Basic.Fault) :
    (Recognition.unreadable frame fault).result = .error (unreadableFault fault) := by
  cases fault <;> rfl

/-- Both endpoints end with what the header could not be read for, whatever the stores hold. -/
theorem replied_of_unreadable (app : Application)
    (post : request.Is "POST" "/token" ∨ request.Is "POST" "/introspect")
    (formed : Form.read request = .ok form)
    (unreadable : Basic.read (request.header? "authorization") = .error fault)
    (fresh : Grant.Fresh) (seconds : Double) (state : State Data) :
    (replied app (.enter request fresh seconds) state).result =
      .error (unreadableFault fault) := by
  have hform : Form.read (inside (.enter request fresh seconds)).request = .ok form := formed
  have hread : Basic.read
      ((inside (.enter request fresh seconds)).request.header? "authorization") =
        .error fault := unreadable
  rcases post with ht | hi
  · rw [replied_of_token ht]
    unfold tokenEndpoint
    rw [hform]
    simp only [Recognition.ofRequest_of_error hread, unreadable_result, keep]
  · rw [replied_of_introspect hi]
    unfold introspectEndpoint Recognition.ofConfidential
    rw [hform]
    simp only [hread, unreadable_result, keep]

/-- A character outside ASCII after the word Basic makes the service itself fail. -/
theorem status_of_foreign (app : Application)
    (post : request.Is "POST" "/token" ∨ request.Is "POST" "/introspect")
    (formed : Form.read request = .ok form)
    (foreign : Basic.read (request.header? "authorization") = .error .notAscii)
    (readable : request.addressFault? = none)
    (fresh : Grant.Fresh) (seconds : Double) (state : State Data) :
    ∃ response, (app.serve request fresh seconds state).response = some response ∧
      response.status = 500 := by
  have hanswer := (serve_of_readable app readable fresh seconds state).1
  rw [routed_answer, replied_of_unreadable app post formed foreign] at hanswer
  exact ⟨_, hanswer, rfl⟩

theorem not_challenges_unexpected (policy : Failure.Policy) (fault : Unexpected) :
    ¬ Challenges (Failure.unexpectedResponse policy fault) := by
  intro h
  have hs : (500 : Int) = 401 := h.status
  omega

theorem challenges_refusal (frame : Frame) (realm : String) :
    Challenges (dressed frame (Failure.refusal realm)) where
  status := rfl
  body := rfl
  line := ⟨realm, lookup_dressed (by decide) rfl⟩

/-- Without a realm that can be sent there is nothing that asks to authenticate. -/
theorem not_challenges_unsendable (frame : Frame) {response : Response}
    (h : response.headers = [("content-type", "application/json")]) :
    ¬ Challenges (dressed frame response) := by
  intro hc
  obtain ⟨realm, hline⟩ := hc.line
  unfold dressed at hline
  rw [Headers.lookup_set_of_ne (by decide), h] at hline
  have hnone : (secured [("content-type", "application/json")]).lookup "www-authenticate" =
      none := by decide
  rw [hnone] at hline
  exact absurd hline (by simp)

/-- A header whose credentials are written in ASCII but cannot be decoded is refused with a
challenge exactly when the realm can be sent. -/
theorem challenged_iff_of_malformed (app : Application)
    (post : request.Is "POST" "/token" ∨ request.Is "POST" "/introspect")
    (formed : Form.read request = .ok form)
    (unreadable : Basic.read (request.header? "authorization") = .error .malformed)
    (readable : request.addressFault? = none)
    (fresh : Grant.Fresh) (seconds : Double) (state : State Data) :
    (∃ response, (app.serve request fresh seconds state).response = some response ∧
        Challenges response) ↔ ∃ realm, app.service.policy.Sends realm := by
  have hanswer := (serve_of_readable app readable fresh seconds state).1
  rw [routed_answer, replied_of_unreadable app post formed unreadable] at hanswer
  have hr : (inside (.enter request fresh seconds)).request.addressFault? = none := readable
  simp only [answered, unreadableFault] at hanswer
  constructor
  · rintro ⟨response, hresponse, hc⟩
    by_cases hs : ∃ realm, app.service.policy.Sends realm
    · exact hs
    · have hn (realm : String) : ¬ app.service.policy.Sends realm := fun h => hs ⟨realm, h⟩
      rw [hanswer] at hresponse
      cases ha : (Failure.handle app.service.policy
          (inside (.enter request fresh seconds)).request
          (inside (.enter request fresh seconds)).noted .unauthenticated).2 with
      | error fault =>
        rw [ha] at hresponse
        cases hresponse
        exact absurd hc (not_challenges_unexpected _ _)
      | ok answer =>
        rw [ha] at hresponse
        cases hresponse
        -- The realm cannot be sent, and there is no challenge without it.
        have hheaders := Failure.handle_unauthenticated_unsendable hn ha
        exact absurd hc (not_challenges_unsendable _ hheaders)
  · rintro ⟨realm, hplain, hsendable⟩
    rw [Failure.handle_unauthenticated_plain hplain hsendable hr] at hanswer
    exact ⟨_, hanswer, challenges_refusal _ realm⟩

/-- The reader fails in another way than by malformed credentials exactly for headers of the scheme
Basic that are not written in ASCII. A header of that scheme without credentials is refused with a
challenge exactly when it is written in ASCII, the address of the request can be told, and the realm
can be sent. -/
theorem malformed_header_challenged_iff (app : Application)
    (post : request.Is "POST" "/token" ∨ request.Is "POST" "/introspect")
    (formed : Form.read request = .ok form)
    (basic : Basic.IsBasic (request.header? "authorization"))
    (malformed : ∀ credentials, ¬ Basic.Holds (request.header? "authorization") credentials)
    (fresh : Grant.Fresh) (seconds : Double) (state : State Data) :
    (∀ header,
        Basic.read header = .error .notAscii ↔
          Basic.IsBasic header ∧ ¬ Basic.EncodedInAscii header) ∧
      ((∃ response, (app.serve request fresh seconds state).response = some response ∧
          Challenges response) ↔
        Basic.EncodedInAscii (request.header? "authorization") ∧
          request.addressFault? = none ∧ ∃ realm, app.service.policy.Sends realm) := by
  refine ⟨fun _ => Basic.read_eq_notAscii_iff, ?_⟩
  by_cases ha : Basic.EncodedInAscii (request.header? "authorization")
  · have hread := Basic.read_of_malformed basic ha malformed
    cases hreadable : request.addressFault? with
    | some address =>
      rw [(serve_of_address app hreadable fresh seconds state).1]
      simp
    | none =>
      rw [challenged_iff_of_malformed app post formed hread hreadable]
      simp [ha]
  · -- The decoder raises outside ASCII, and what it raises is answered as a failure.
    have hread := Basic.read_of_foreign basic ha
    refine iff_of_false ?_ fun h => ha h.1
    rintro ⟨response, hresponse, hc⟩
    cases hreadable : request.addressFault? with
    | some address =>
      rw [(serve_of_address app hreadable fresh seconds state).1] at hresponse
      exact absurd hresponse (by simp)
    | none =>
      obtain ⟨failed, hfailed, hstatus⟩ :=
        status_of_foreign app post formed hread hreadable fresh seconds state
      rw [hfailed] at hresponse
      cases hresponse
      rw [hc.status] at hstatus
      exact absurd hstatus (by decide)

/-- A header whose credentials are no Base64 is refused with a challenge. -/
theorem malformed_header_challenged :
    ∃ response,
      (Application.standard.serve (Demo.request "Basic !" "/token" "") Demo.fresh
        (.signedZero false) ⟨.empty, .empty⟩).response = some response ∧ Challenges response := by
  have hheader := Demo.header_request "Basic !" "/token" ""
  have hread : Basic.read (some "Basic !") = .error .malformed := rfl
  have hnone (credentials : Basic.Credentials) : ¬ Basic.Holds (some "Basic !") credentials := by
    intro hc
    rw [Basic.read_of_holds hc] at hread
    exact absurd hread (by simp)
  have hascii : Basic.EncodedInAscii (some "Basic !") :=
    Basic.encodedInAscii_of_ascii (List.all_iff_forall_prop.mp (by decide))
  rw [← hheader] at hnone hascii
  have hiff := malformed_header_challenged_iff .standard (.inl ⟨rfl, .inl rfl⟩)
    (Demo.read_request "Basic !" "/token" "") (by rw [hheader]; rfl) hnone Demo.fresh
    (.signedZero false) ⟨.empty, .empty⟩
  exact hiff.2.mpr ⟨hascii, rfl, "oauth", rfl, List.all_iff_forall_prop.mp (by decide)⟩

/-- A header with a letter outside ASCII makes the service itself fail instead. -/
theorem foreign_header_fails :
    (Demo.request "Basic é" "/token" "").Is "POST" "/token" ∧
      Form.read (Demo.request "Basic é" "/token" "") = .ok [] ∧
      (Demo.request "Basic é" "/token" "").header? "authorization" = some "Basic é" ∧
      Basic.IsBasic (some "Basic é") ∧ (∀ credentials, ¬ Basic.Holds (some "Basic é") credentials) ∧
      Basic.read (some "Basic é") = .error .notAscii ∧
      ∃ response,
        (Application.standard.serve (Demo.request "Basic é" "/token" "") Demo.fresh
          (.signedZero false) ⟨.empty, .empty⟩).response = some response ∧
          response.status = 500 := by
  have hheader := Demo.header_request "Basic é" "/token" ""
  have hread : Basic.read (some "Basic é") = .error .notAscii := rfl
  refine ⟨⟨rfl, .inl rfl⟩, Demo.read_request "Basic é" "/token" "", hheader, rfl,
    fun credentials hc => ?_, hread, ?_⟩
  · rw [Basic.read_of_holds hc] at hread
    exact absurd hread (by simp)
  · rw [← hheader] at hread
    exact status_of_foreign .standard (.inl ⟨rfl, .inl rfl⟩)
      (Demo.read_request "Basic é" "/token" "") hread rfl Demo.fresh (.signedZero false)
      ⟨.empty, .empty⟩

end TokenIssuer.Service
