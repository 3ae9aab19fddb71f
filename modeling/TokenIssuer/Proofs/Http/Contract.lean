import TokenIssuer.Proofs.Http.Answers
import TokenIssuer.Proofs.Http.Headers
import TokenIssuer.Proofs.Http.Route
import TokenIssuer.Proofs.Json

/-!
The contract for failures: which error code goes with which status, and which responses ask a client
to authenticate.
-/

namespace TokenIssuer.Http

/-- The error codes for the statuses of a failure. Where it is asked whether the service is ready,
the answer that it is not counts as a failure of the service itself. -/
inductive Pairs (path : String) : Int → String → Prop where
  | badRequest {code : String}
      (told : code ∈ ["invalid_request", "invalid_scope", "unauthorized_client",
        "unsupported_grant_type"]) : Pairs path 400 code
  | unauthenticated : Pairs path 401 "invalid_client"
  | forbidden : Pairs path 403 "unauthorized_client"
  | unknown : Pairs path 404 "invalid_request"
  | otherMethod : Pairs path 405 "invalid_request"
  | mediaType : Pairs path 415 "invalid_request"
  | failed : Pairs path 500 "server_error"
  | unreached (elsewhere : ¬ IsAt path "/health/ready") : Pairs path 503 "temporarily_unavailable"
  | unready (here : IsAt path "/health/ready") : Pairs path 503 "server_error"

/-- A failure is told by an error code that goes with its status and a description, and exactly a
client that was not recognised is asked to authenticate. -/
structure Conforms (path : String) (response : Response) : Prop where
  failure : 400 ≤ response.status → ∃ code description,
    response.body = .json (Failure.body code description) ∧ Pairs path response.status code ∧
      (code = "invalid_client" ↔ response.status = 401)
  challenge : (response.headers.lookup "www-authenticate").isSome ↔ response.status = 401

variable {path code description : String} {status : Int} {content : Json} {headers : Headers}
  {response : Response}

theorem Pairs.invalidClient_iff (h : Pairs path status code) :
    code = "invalid_client" ↔ status = 401 := by
  cases h with
  | badRequest told =>
    refine iff_of_false ?_ (by decide)
    rintro rfl
    exact absurd told (by decide)
  | unauthenticated => exact iff_of_true rfl rfl
  | _ => exact iff_of_false (by decide) (by decide)

theorem Headers.name_of_line {name value : String} {l : String × String}
    (h : Headers.line name value = .ok l) : l.1 = Text.lowered name := by
  unfold Headers.line at h
  split at h <;> cases h
  rfl

/-- Nobody is asked to authenticate by a response with a body that was not given a line for it. -/
theorem unasked_of_json (other : ∀ h ∈ headers, Text.lowered h.1 ≠ "www-authenticate")
    (h : Response.json status content headers = .ok response) :
    response.headers.lookup "www-authenticate" = none := by
  unfold Response.json at h
  split at h
  · obtain ⟨lines, hlines, hr⟩ := bind_eq_ok_iff.mp h
    cases hr
    rw [lookup_putNew_of_ne (by decide), List.lookup_eq_none_iff]
    intro line hline
    obtain ⟨given, hgiven, hl⟩ := of_mem_mapM hlines line hline
    rw [bne_iff_ne, Headers.name_of_line hl]
    exact (other given hgiven).symm
  · cases h

/-! ## What keeps to the contract -/

theorem conforms_of_success (success : response.status < 400)
    (unasked : response.headers.lookup "www-authenticate" = none) : Conforms path response where
  failure h := absurd success (Int.not_lt.mpr h)
  challenge := by
    rw [unasked]
    exact iff_of_false (by decide) (by omega)

theorem conforms_of_failure (pairs : Pairs path response.status code)
    (body : response.body = .json (Failure.body code description))
    (challenge : (response.headers.lookup "www-authenticate").isSome ↔ response.status = 401) :
    Conforms path response :=
  ⟨fun _ => ⟨code, description, body, pairs, pairs.invalidClient_iff⟩, challenge⟩

namespace Failure

variable {policy : Policy} {request : Request} {noted : Option Json}

theorem handle_ofStatus {status : Int} (known : status < 500) (headers : Headers) :
    (handle policy request noted (.ofStatus status .null headers)).2 =
      Failure.response status Grant.Code.invalidRequest.text ((statusNames.lookup status).getD "")
        headers := by
  unfold Fault.ofStatus handle describe
  simp only [if_neg (Int.not_le.mpr known)]

theorem conforms_response (pairs : Pairs path status code) (known : status ≠ 401)
    (other : ∀ h ∈ headers, Text.lowered h.1 ≠ "www-authenticate")
    (h : Failure.response status code description headers = .ok response) :
    Conforms path response := by
  obtain ⟨rfl, hbody⟩ := of_response h
  refine conforms_of_failure pairs hbody ?_
  rw [unasked_of_json other (mapError_eq_ok_iff.mp h)]
  exact iff_of_false (by decide) known

theorem conforms_stating (pairs : Pairs path status code) (known : status ≠ 401)
    (description : String) : Conforms path (stating status code description) :=
  conforms_response pairs known (List.forall_mem_nil _) (response_plain status code description)

theorem conforms_refusal (path realm : String) : Conforms path (refusal realm) := by
  have hasked : (refusal realm).headers.lookup "www-authenticate" = some (challengeLine realm) :=
    rfl
  have hpairs : Pairs path (refusal realm).status Grant.Code.invalidClient.text := .unauthenticated
  refine conforms_of_failure hpairs rfl ?_
  rw [hasked]
  exact iff_of_true rfl rfl

theorem conforms_unexpectedResponse (path : String) (policy : Policy) (fault : Unexpected) :
    Conforms path (unexpectedResponse policy fault) := by
  have hpairs : Pairs path (unexpectedResponse policy fault).status serverError := .failed
  have hunasked : (unexpectedResponse policy fault).headers.lookup "www-authenticate" = none := rfl
  refine conforms_of_failure hpairs rfl ?_
  rw [hunasked]
  exact iff_of_false (by decide) (by decide : (500 : Int) ≠ 401)

/-- A realm that is kept in its own form is sent whole or not at all: one with halves of surrogate
pairs in it is not Latin-1. -/
theorem refusal_of_unauthenticated (proper : policy.realm.Proper)
    (readable : request.addressFault? = none)
    (h : (handle policy request noted .unauthenticated).2 = .ok response) :
    ∃ realm, response = refusal realm := by
  cases hp : policy.realm with
  | plain realm =>
    obtain ⟨hplain, hlatin⟩ := sends_of_answer hp h
    rw [handle_unauthenticated_plain hplain hlatin readable] at h
    cases h
    exact ⟨realm, rfl⟩
  | torn codePoints =>
    rw [hp] at proper
    obtain ⟨n, hn, hhalf⟩ := List.any_eq_true.mp proper
    -- The response was made, so that the realm is Latin-1, which no half of a pair is.
    have hlatin : policy.Latin := (handle_unauthenticated_ok_iff readable).mp ⟨response, h⟩
    have hsmall : n < 0x100 := hlatin n (by rw [hp]; exact hn)
    simp only [Phrase.isHalf, decide_eq_true_eq, Bool.and_eq_true] at hhalf
    omega

end Failure

end TokenIssuer.Http
