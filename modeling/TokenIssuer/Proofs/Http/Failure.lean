import Mathlib.Data.Bool.AllAny
import Mathlib.Data.List.TakeDrop
import Mathlib.Data.List.TakeWhile
import TokenIssuer.Http.Failure
import TokenIssuer.Proofs.Result

/-! What can be sent in a header, and what faults are answered with. -/

namespace TokenIssuer.Http

theorem foreignAmong?_eq_none_iff {codePoints : List Nat} :
    foreignAmong? codePoints = none ↔ ∀ n ∈ codePoints, n < 0x100 := by
  unfold foreignAmong?
  rw [List.span_eq_takeWhile_dropWhile]
  have hnil : codePoints.dropWhile (fun n => decide (n < 0x100)) = [] ↔
      ∀ n ∈ codePoints, n < 0x100 := by
    rw [List.dropWhile_eq_nil_iff]
    simp only [decide_eq_true_eq]
  rw [← hnil]
  cases codePoints.dropWhile (fun n => decide (n < 0x100)) with
  | nil => exact ⟨fun _ => rfl, fun _ => rfl⟩
  | cons n ns => exact ⟨fun h => absurd h (by simp), fun h => absurd h (by simp)⟩

/-- A text can be sent in a header when all of it is Latin-1. -/
theorem foreign?_eq_none_iff {value : String} :
    foreign? value = none ↔ ∀ c ∈ value.toList, c.toNat < 0x100 := by
  unfold foreign?
  rw [foreignAmong?_eq_none_iff]
  simp only [List.mem_map, forall_exists_index, and_imp, forall_apply_eq_imp_iff₂]

theorem Headers.line_eq_ok {name value : String} (hn : foreign? (Text.lowered name) = none)
    (hv : foreign? value = none) : Headers.line name value = .ok (Text.lowered name, value) := by
  unfold Headers.line
  rw [hn, hv]

theorem Headers.foreign?_of_line {name value : String} {l : String × String}
    (h : Headers.line name value = .ok l) : foreign? value = none := by
  unfold Headers.line at h
  split at h
  next => exact absurd h (by simp)
  next => exact absurd h (by simp)
  next _ hv => exact hv

theorem Headers.lookup_set_of_ne {name other : String} (h : other ≠ name) (value : String)
    (headers : Headers) : (headers.set name value).lookup other = headers.lookup other := by
  have ho : (other == name) = false := beq_eq_false_iff_ne.mpr h
  have herase (lines : Headers) : (Assoc.erase name lines).lookup other = lines.lookup other := by
    induction lines with
    | nil => rfl
    | cons l lines ih =>
      unfold Assoc.erase at ih ⊢
      by_cases hl : l.1 = name
      · rw [List.filter_cons_of_neg (by simpa using hl), ih, List.lookup_cons, hl, ho]
      · rw [List.filter_cons_of_pos (by simpa using hl), List.lookup_cons, List.lookup_cons, ih]
  induction headers with
  | nil => rw [set, List.lookup_cons, ho]
  | cons l lines ih =>
    rw [set]
    by_cases hl : l.1 = name
    · rw [if_pos hl, List.lookup_cons, List.lookup_cons, ho, hl, ho, herase]
    · rw [if_neg hl, List.lookup_cons, List.lookup_cons, ih]

theorem lookup_putNew_of_some {headers : Headers} {name other value found : String}
    (h : headers.lookup other = some found) :
    (Assoc.putNew name value headers).lookup other = some found := by
  unfold Assoc.putNew
  split
  · exact h
  · rw [List.lookup_append, h]
    rfl

namespace Response

/-- A response with a JSON body whose numbers are finite and whose header lines can be sent. -/
theorem json_eq_ok (status : Int) (content : Json) (extra : Headers) (finite : content.isFinite)
    (sendable : ∀ h ∈ extra, foreign? (Text.lowered h.1) = none ∧ foreign? h.2 = none) :
    json status content extra =
      .ok
        { status, body := .json content
          headers := Assoc.putNew "content-type" "application/json"
            (extra.map fun h => (Text.lowered h.1, h.2)) } := by
  have hlines : extra.mapM (fun h => Headers.line h.1 h.2) =
      (.ok (extra.map fun h => (Text.lowered h.1, h.2)) : Except Unsendable Headers) := by
    induction extra with
    | nil => rfl
    | cons h extra ih =>
      obtain ⟨hn, hv⟩ := sendable h List.mem_cons_self
      rw [List.mapM_cons, Headers.line_eq_ok hn hv,
        ih fun g hg => sendable g (List.mem_cons_of_mem h hg)]
      rfl
  unfold json
  rw [if_pos finite, hlines]
  rfl

theorem of_json {status : Int} {content : Json} {extra : Headers} {response : Response}
    (h : json status content extra = .ok response) :
    response.status = status ∧ response.body = .json content := by
  unfold json at h
  split at h
  · obtain ⟨headers, -, hr⟩ := bind_eq_ok_iff.mp h
    cases hr
    exact ⟨rfl, rfl⟩
  · exact absurd h (by simp)

end Response

/-- The status a fault is answered with. -/
def Fault.status : Fault → Int
  | .oauth _ _ status => status
  | .storage _ => 503
  | .http status _ _ => status
  | .validation _ => 400
  | .unexpected _ => 500

namespace Failure

variable {policy : Policy} {request : Request} {noted : Option Json}

theorem of_response {status : Int} {error description : String} {headers : Headers}
    {answer : Response} (h : response status error description headers = .ok answer) :
    answer.status = status ∧ answer.body = .json (body error description) :=
  Response.of_json (mapError_eq_ok_iff.mp h)

theorem of_reported {call : Except Unexpected Log.Call} {answer : Except Unexpected Response}
    {sent : Response} (h : (reported call answer).2 = .ok sent) : answer = .ok sent := by
  unfold reported at h
  cases call with
  | error fault => exact absurd h (by simp)
  | ok call => exact h

theorem reported_of_readable (readable : request.addressFault? = none) (method : Log.Method)
    (event : String) (more : Log.Fields) (answer : Except Unexpected Response) :
    (reported (report method event request noted more) answer).2 = answer := by
  unfold reported report
  rw [readable]

theorem of_report {method : Log.Method} {event : String} {more : Log.Fields} {call : Log.Call}
    (h : report method event request noted more = .ok call) :
    call.event = event ∧
      call.fields.lookup "correlation_id" = some (.str (request.failureCorrelation noted)) := by
  unfold report at h
  split at h
  · cases h
  · cases h
    exact ⟨rfl, rfl⟩

/-- A response to a fault has the status of the fault. -/
theorem status_of_handle {fault : Fault} {answer : Response}
    (h : (handle policy request noted fault).2 = .ok answer) : answer.status = fault.status := by
  cases fault with
  | oauth detail code status =>
    rw [handle] at h
    by_cases hs : status = 401
    · rw [if_pos hs] at h
      obtain ⟨headers, -, hr⟩ := bind_eq_ok_iff.mp (of_reported h)
      exact (of_response hr).1
    · rw [if_neg hs] at h
      have hr : response status code detail [] = .ok answer := h
      exact (of_response hr).1
  | storage text => exact (of_response (of_reported h)).1
  | http status detail headers => exact (of_response h).1
  | validation errors =>
    obtain ⟨description, -, hr⟩ := bind_eq_ok_iff.mp h
    exact (of_response hr).1
  | unexpected fault => exact absurd h (by simp [handle])

/-- The line that asks a client to authenticate for a realm. -/
def challengeLine (realm : String) : String := "Basic realm=\"" ++ realm ++ "\""

theorem challengeLine_eq (realm : String) :
    challengeLine realm = "Basic realm=\"" ++ realm ++ "\"" := rfl

theorem foreign?_challengeLine_eq_none_iff {realm : String} :
    foreign? (challengeLine realm) = none ↔ ∀ c ∈ realm.toList, c.toNat < 0x100 := by
  have hopen : ∀ c ∈ "Basic realm=\"".toList, c.toNat < 0x100 :=
    List.all_iff_forall_prop.mp (by decide)
  have hclose : ∀ c ∈ "\"".toList, c.toNat < 0x100 :=
    List.all_iff_forall_prop.mp (by decide)
  rw [foreign?_eq_none_iff, challengeLine_eq, String.toList_append, String.toList_append]
  simp only [List.mem_append]
  constructor
  · intro h c hc
    exact h c (.inl (.inr hc))
  · rintro h c ((hc | hc) | hc)
    · exact hopen c hc
    · exact h c hc
    · exact hclose c hc

/-- The response when no client was recognised. -/
def refusal (realm : String) : Response :=
  { status := 401
    headers :=
      [("www-authenticate", challengeLine realm), ("content-type", "application/json")]
    body := .json (body Grant.Code.invalidClient.text "Client authentication failed.") }

theorem handle_unauthenticated (policy : Policy) (request : Request) (noted : Option Json) :
    handle policy request noted .unauthenticated =
      reported (report .warning "client_authentication_failed" request noted [])
        (challenge policy >>=
          response 401 Grant.Code.invalidClient.text "Client authentication failed.") := rfl

/-- Whoever is not recognised is asked to authenticate, if the realm can be sent. -/
theorem handle_unauthenticated_plain {realm : String} (plain : policy.realm = .plain realm)
    (sendable : ∀ c ∈ realm.toList, c.toNat < 0x100) (readable : request.addressFault? = none) :
    (handle policy request noted .unauthenticated).2 = .ok (refusal realm) := by
  have hline := foreign?_challengeLine_eq_none_iff.mpr sendable
  have hname : foreign? (Text.lowered "WWW-Authenticate") = none := by decide
  have hlower : Text.lowered "WWW-Authenticate" = "www-authenticate" := by decide
  have hsendable : ∀ h ∈ [("WWW-Authenticate", challengeLine realm)],
      foreign? (Text.lowered h.1) = none ∧ foreign? h.2 = none := by
    intro h hh
    rw [List.mem_singleton.mp hh]
    exact ⟨hname, hline⟩
  have hjson := Response.json_eq_ok 401
    (body Grant.Code.invalidClient.text "Client authentication failed.") _ rfl hsendable
  simp only [List.map_cons, List.map_nil, hlower] at hjson
  have hchallenge : challenge policy = .ok [("WWW-Authenticate", challengeLine realm)] := by
    unfold challenge
    rw [plain]
    rfl
  have hresponse : response 401 Grant.Code.invalidClient.text "Client authentication failed."
      [("WWW-Authenticate", challengeLine realm)] = .ok (refusal realm) := by
    unfold response
    rw [hjson]
    rfl
  rewrite [handle_unauthenticated, reported_of_readable readable]
  exact bind_eq_ok_iff.mpr ⟨_, hchallenge, hresponse⟩

/-- The realm can be sent: it is a text in Latin-1. -/
def Policy.Sends (policy : Policy) (realm : String) : Prop :=
  policy.realm = .plain realm ∧ ∀ c ∈ realm.toList, c.toNat < 0x100

/-- Where whoever is not recognised is answered, a realm without halves can be sent. -/
theorem sends_of_answer {realm : String} (plain : policy.realm = .plain realm)
    {answer : Response} (h : (handle policy request noted .unauthenticated).2 = .ok answer) :
    policy.Sends realm := by
  rw [handle_unauthenticated] at h
  obtain ⟨headers, hc, hr⟩ := bind_eq_ok_iff.mp (of_reported h)
  unfold challenge at hc
  rw [plain] at hc
  cases hc
  -- The line that asks to authenticate is part of the answer, so it is Latin-1.
  obtain ⟨lines, hl, -⟩ := bind_eq_ok_iff.mp (mapError_eq_ok_iff.mp hr)
  rw [List.mapM_cons] at hl
  obtain ⟨line, hline, -⟩ := bind_eq_ok_iff.mp hl
  have hsendable : foreign? (challengeLine realm) = none := Headers.foreign?_of_line hline
  exact ⟨plain, foreign?_challengeLine_eq_none_iff.mp hsendable⟩

/-- With any other realm nobody is asked to authenticate. -/
theorem handle_unauthenticated_unsendable (unsendable : ∀ realm, ¬ policy.Sends realm)
    {answer : Response} (h : (handle policy request noted .unauthenticated).2 = .ok answer) :
    answer.headers = [("content-type", "application/json")] := by
  cases hp : policy.realm with
  | plain realm => exact absurd (sends_of_answer hp h) (unsendable realm)
  | torn codePoints =>
    rw [handle_unauthenticated] at h
    obtain ⟨headers, hc, hr⟩ := bind_eq_ok_iff.mp (of_reported h)
    unfold challenge at hc
    rw [hp] at hc
    simp only at hc
    split at hc
    · exact absurd hc (by simp)
    · cases hc
      cases hr
      rfl

end Failure

end TokenIssuer.Http
