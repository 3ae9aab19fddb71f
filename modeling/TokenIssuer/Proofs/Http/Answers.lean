import TokenIssuer.Proofs.Audit
import TokenIssuer.Proofs.Http.Failure

/-! Which faults have a response of their own, and what is said in it and logged with it. -/

namespace TokenIssuer.Http

namespace Failure

variable {policy : Policy} {request other : Request} {noted also : Option Json}

/-- A response that states what went wrong and asks for nothing. -/
def stating (status : Int) (error description : String) : Response :=
  { status, headers := [("content-type", "application/json")]
    body := .json (body error description) }

theorem response_plain (status : Int) (error description : String) :
    response status error description [] = .ok (stating status error description) := by
  have hjson := Response.json_eq_ok status (body error description) [] rfl
    fun h hh => absurd hh List.not_mem_nil
  unfold response
  rw [hjson]
  rfl

/-- What is answered to a fault does not depend on the request. -/
theorem answer_congr (readable : request.addressFault? = none)
    (alsoReadable : other.addressFault? = none) (fault : Fault) :
    (handle policy request noted fault).2 = (handle policy other also fault).2 := by
  cases fault with
  | oauth detail code status =>
    rw [handle, handle]
    by_cases hs : status = 401
    · rw [if_pos hs, if_pos hs, reported_of_readable readable, reported_of_readable alsoReadable]
    · rw [if_neg hs, if_neg hs]
  | storage text =>
    rw [handle, handle, reported_of_readable readable, reported_of_readable alsoReadable]
  | http status detail headers => rfl
  | validation errors => rfl
  | unexpected fault => rfl

theorem handle_ofForm (fault : Form.Fault) :
    (handle policy request noted (.ofForm fault)).2 =
      .ok (stating (Fault.ofForm fault).status Grant.Code.invalidRequest.text fault.message) := by
  cases fault with
  | mediaType => exact response_plain 415 _ _
  | notText => exact response_plain 400 _ _
  | repeated name => exact response_plain 400 _ _

theorem handle_forbidden (action : Client.Action) :
    (handle policy request noted (.forbidden action)).2 =
      .ok (stating 403 Grant.Code.unauthorizedClient.text
        ("client is not authorized to perform action: " ++ action.name)) :=
  response_plain 403 _ _

theorem handle_ofUnreachable (readable : request.addressFault? = none) (u : Store.Unreachable) :
    (handle policy request noted (.ofUnreachable u)).2 =
      .ok (stating 503 "temporarily_unavailable"
        "The server is temporarily unable to handle the request.") := by
  unfold Fault.ofUnreachable
  rw [handle, reported_of_readable readable]
  exact response_plain 503 _ _

/-- What is logged with an answer is no audit event. -/
theorem events_reported {event : String} (h : event ∉ Audit.types) (method : Log.Method)
    (more : Log.Fields) (answer : Except Unexpected Response) :
    Audit.events (reported (report method event request noted more) answer).1 = [] := by
  apply Audit.events_eq_nil
  unfold reported report
  intro call hc
  cases hr : request.addressFault? with
  | some fault =>
    rw [hr] at hc
    exact absurd hc List.not_mem_nil
  | none =>
    rw [hr] at hc
    rw [List.mem_singleton.mp hc]
    exact h

theorem events_handle (policy : Policy) (request : Request) (noted : Option Json)
    (fault : Fault) : Audit.events (handle policy request noted fault).1 = [] := by
  cases fault with
  | oauth detail code status =>
    rw [handle]
    by_cases hs : status = 401
    · rw [if_pos hs]
      exact events_reported (by decide) _ _ _
    · rw [if_neg hs]
      rfl
  | storage text => exact events_reported (by decide) _ _ _
  | http status detail headers => rfl
  | validation errors => rfl
  | unexpected fault => rfl

/-! ## The refusal of a client -/

/-- All of the realm is Latin-1. -/
def Policy.Latin (policy : Policy) : Prop := ∀ n ∈ policy.realm.codePoints, n < 0x100

instance (policy : Policy) : Decidable policy.Latin :=
  inferInstanceAs (Decidable (∀ n ∈ policy.realm.codePoints, n < 0x100))

theorem latin_plain_iff {realm : String} (h : policy.realm = .plain realm) :
    policy.Latin ↔ ∀ c ∈ realm.toList, c.toNat < 0x100 := by
  unfold Policy.Latin
  rw [h]
  show (∀ n ∈ realm.toList.map Char.toNat, n < 0x100) ↔ _
  rw [List.forall_mem_map]

theorem latin_torn_iff {realm : List Nat} (h : policy.realm = .torn realm) :
    foreignAmong? ("Basic realm=\"".toList.map Char.toNat ++ realm) = none ↔ policy.Latin := by
  have hopen : ∀ n ∈ "Basic realm=\"".toList.map Char.toNat, n < 0x100 :=
    List.all_iff_forall_prop.mp (by decide)
  unfold Policy.Latin
  rw [foreignAmong?_eq_none_iff, h]
  constructor
  · intro hall n hn
    exact hall n (List.mem_append_right _ hn)
  · intro hall n hn
    exact (List.mem_append.mp hn).elim (hopen n) (hall n)

theorem body_of_unauthenticated {answer : Response}
    (h : (handle policy request noted .unauthenticated).2 = .ok answer) :
    answer.body =
      .json (body Grant.Code.invalidClient.text "Client authentication failed.") := by
  rw [handle_unauthenticated] at h
  obtain ⟨headers, -, hr⟩ := bind_eq_ok_iff.mp (of_reported h)
  exact (of_response hr).2

/-- Nothing keeps the refusal of a client from being stored on the way. -/
theorem uncontrolled_of_unauthenticated (readable : request.addressFault? = none)
    {answer : Response} (h : (handle policy request noted .unauthenticated).2 = .ok answer) :
    answer.headers.lookup "cache-control" = none := by
  by_cases hs : ∃ realm, policy.Sends realm
  · obtain ⟨realm, hplain, hlatin⟩ := hs
    rw [handle_unauthenticated_plain hplain hlatin readable] at h
    cases h
    simp [refusal, List.lookup_cons]
  · have hn (realm : String) : ¬ policy.Sends realm := fun h => hs ⟨realm, h⟩
    rw [handle_unauthenticated_unsendable hn h]
    rfl

/-- Who is not recognised is told so exactly when the realm is Latin-1. -/
theorem handle_unauthenticated_ok_iff (readable : request.addressFault? = none) :
    (∃ answer, (handle policy request noted .unauthenticated).2 = .ok answer) ↔ policy.Latin := by
  cases hp : policy.realm with
  | plain realm =>
    rw [latin_plain_iff hp]
    constructor
    · rintro ⟨answer, h⟩
      exact (sends_of_answer hp h).2
    · intro hlatin
      exact ⟨_, handle_unauthenticated_plain hp hlatin readable⟩
  | torn realm =>
    rw [← latin_torn_iff hp, handle_unauthenticated, reported_of_readable readable]
    unfold challenge
    rw [hp]
    simp only
    cases foreignAmong? ("Basic realm=\"".toList.map Char.toNat ++ realm) with
    | none => exact iff_of_true ⟨_, response_plain 401 _ _⟩ rfl
    | some fault => exact iff_of_false (fun h => nomatch h.choose_spec) (by simp)

end Failure

end TokenIssuer.Http
