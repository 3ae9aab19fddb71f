import TokenIssuer.Proofs.Service.Issuance

/-!
Stores that are out of reach. Every step on the way to an answer goes as it goes with all stores at
hand, or ends for want of one with nothing done.
-/

namespace TokenIssuer.Store

/-- The same stores, of which some are out of reach. -/
def Stores.withDown (stores : Stores) (down : List Name) : Stores := { stores with down }

theorem Stores.call_withDown_nil {α : Type} (stores : Stores) (store : Name) (answer : α) :
    (stores.withDown []).call store answer = .ok answer := call_of_up List.not_mem_nil

end TokenIssuer.Store

namespace TokenIssuer.Authentication

open Store

/-- A lookup ends for want of a store, or goes as it goes with all stores at hand. -/
inductive Outcome.Withstands (under calm : Outcome) : Prop where
  | cut (u : Unreachable) (h : under = .quiet (.error (.unreachable u)))
  | same (h : under = calm) (settled : ∀ u, calm.result ≠ .error (.unreachable u))

theorem identify_withstands (stores : Stores) (down : List Name) (clientId : String) :
    (identify (ofStores (stores.withDown down)) clientId).Withstands
      (identify (ofStores (stores.withDown [])) clientId) := by
  have hcalm : (ofStores (stores.withDown [])).findClient clientId =
      .ok (stores.clients.find clientId) := Stores.call_withDown_nil stores .configurations _
  have hunder : (ofStores (stores.withDown down)).findClient clientId = .error ⟨.configurations⟩ ∨
      (ofStores (stores.withDown down)).findClient clientId = .ok (stores.clients.find clientId) :=
    Stores.call_cases (stores.withDown down) .configurations _
  unfold identify
  rw [hcalm]
  rcases hunder with hunder | hunder
  · rw [hunder]
    exact .cut ⟨.configurations⟩ rfl
  · rw [hunder]
    apply Outcome.Withstands.same rfl
    intro u
    cases stores.clients.find clientId <;> simp [Outcome.quiet]

theorem recognizeOwner_withstands (stores : Stores) (down : List Name) (secret : Store.Secret) :
    (recognizeOwner (ofStores (stores.withDown down)) secret).Withstands
      (recognizeOwner (ofStores (stores.withDown [])) secret) := by
  have hcalm : (ofStores (stores.withDown [])).getClient secret.owner =
      .ok (stores.clients.get? secret.owner) := Stores.call_withDown_nil stores .configurations _
  have hunder : (ofStores (stores.withDown down)).getClient secret.owner =
        .error ⟨.configurations⟩ ∨
      (ofStores (stores.withDown down)).getClient secret.owner =
        .ok (stores.clients.get? secret.owner) :=
    Stores.call_cases (stores.withDown down) .configurations _
  unfold recognizeOwner
  rw [hcalm]
  rcases hunder with hunder | hunder
  · rw [hunder]
    exact .cut ⟨.configurations⟩ rfl
  · rw [hunder]
    apply Outcome.Withstands.same rfl
    intro u
    cases stores.clients.get? secret.owner with
    | none => simp
    | some client =>
      simp only
      split <;> simp [Outcome.quiet]

theorem authenticate_withstands (stores : Stores) (down : List Name) (clientId : String)
    (presented : List UInt8) :
    (authenticate (ofStores (stores.withDown down)) clientId presented).Withstands
      (authenticate (ofStores (stores.withDown [])) clientId presented) := by
  have hcalm : (ofStores (stores.withDown [])).findSecrets clientId =
      .ok (stores.secrets.ownedBy clientId) := Stores.call_withDown_nil stores .secrets _
  have hunder : (ofStores (stores.withDown down)).findSecrets clientId = .error ⟨.secrets⟩ ∨
      (ofStores (stores.withDown down)).findSecrets clientId =
        .ok (stores.secrets.ownedBy clientId) := Stores.call_cases (stores.withDown down) .secrets _
  unfold authenticate
  rw [hcalm]
  rcases hunder with hunder | hunder
  · rw [hunder]
    exact .cut ⟨.secrets⟩ rfl
  · rw [hunder]
    simp only
    -- A match is only worth something once its owner is found.
    cases firstMatch presented (stores.secrets.ownedBy clientId) with
    | error fault => exact .same rfl (by simp [Outcome.quiet])
    | ok found =>
      cases found with
      | none => exact .same rfl (by simp [Outcome.quiet])
      | some secret => exact recognizeOwner_withstands stores down secret

end TokenIssuer.Authentication

namespace TokenIssuer.Service

open Http Store

/-! ## Recognition -/

/-- The log call tells that no client was recognised. -/
def FailedRecognition (call : Log.Call) : Prop :=
  call.event = "client.authentication" ∧ call.fields.lookup "success" = some (.bool false)

namespace Recognition

open Authentication

variable {frame : Frame} {directory : Directory} {principal : Client.Principal}

/-- Recognition ends for want of a store without a log call, or goes as it goes with all stores at
hand. -/
inductive Withstands (under calm : Recognition) : Prop where
  | cut (u : Unreachable) (h : under = ⟨.error (.ofUnreachable u), []⟩)
  | same (h : under = calm) (settled : ∀ fault, calm.result = .error fault → fault.status ≠ 503)

theorem Withstands.refused {recognition : Recognition}
    (h : recognition.result = .error .unauthenticated) : Withstands recognition recognition := by
  refine .same rfl fun fault hf => ?_
  rw [h] at hf
  cases hf
  show (401 : Int) ≠ 503
  omega

theorem conclude_withstands (frame : Frame) (channel : String)
    {under calm : Authentication.Outcome} (h : under.Withstands calm) :
    Withstands (conclude frame channel under) (conclude frame channel calm) := by
  cases h with
  | cut u h =>
    rw [h]
    exact .cut u rfl
  | same h settled =>
    refine .same (by rw [h]) fun fault hf => ?_
    rw [conclude_result] at hf
    cases hr : calm.result with
    | ok found =>
      rw [hr] at hf
      cases found with
      | none =>
        cases hf
        show (401 : Int) ≠ 503
        omega
      | some principal => cases hf
    | error cause =>
      rw [hr] at hf
      cases hf
      cases cause with
      | unreachable u => exact absurd hr (settled u)
      | check fault =>
        show (500 : Int) ≠ 503
        omega

theorem unreadable_withstands (frame : Frame) (fault : Basic.Fault) :
    Withstands (unreadable frame fault) (unreadable frame fault) := by
  cases fault with
  | malformed => exact .refused rfl
  | notAscii =>
    refine .same rfl fun fault hf => ?_
    cases hf
    show (500 : Int) ≠ 503
    omega

theorem ofRequest_withstands (frame : Frame) (stores : Stores) (down : List Name) (form : Form) :
    Withstands (ofRequest frame (ofStores (stores.withDown down)) form)
      (ofRequest frame (ofStores (stores.withDown [])) form) := by
  unfold ofRequest
  cases Basic.read (frame.request.header? "authorization") with
  | error fault => exact unreadable_withstands frame fault
  | ok held =>
    cases held with
    | none =>
      cases form.lookup "client_id" with
      | none => exact .refused rfl
      | some clientId =>
        exact conclude_withstands frame "client_id" (identify_withstands stores down clientId)
    | some credentials =>
      cases form.lookup "client_id" with
      | none =>
        exact conclude_withstands frame "basic" (authenticate_withstands stores down _ _)
      | some clientId => exact .refused rfl

theorem ofConfidential_withstands (frame : Frame) (stores : Stores) (down : List Name) :
    Withstands (ofConfidential frame (ofStores (stores.withDown down)))
      (ofConfidential frame (ofStores (stores.withDown []))) := by
  unfold ofConfidential
  cases Basic.read (frame.request.header? "authorization") with
  | error fault => exact unreadable_withstands frame fault
  | ok held =>
    cases held with
    | none => exact .refused rfl
    | some credentials =>
      exact conclude_withstands frame "basic" (authenticate_withstands stores down _ _)

/-! Whoever is recognised, no failure is told on the way. -/

theorem not_failed_of_event {call : Log.Call} (h : call.event ≠ "client.authentication") :
    ¬ FailedRecognition call := fun hf => h hf.1

theorem authenticate_calls (directory : Directory) (clientId : String) (presented : List UInt8) :
    ∀ call ∈ (authenticate directory clientId presented).calls, ¬ FailedRecognition call := by
  intro call hc
  apply not_failed_of_event
  rw [event_of_authenticate hc]
  decide

theorem conclude_calls {channel : String} {outcome : Authentication.Outcome}
    (h : (conclude frame channel outcome).result = .ok principal)
    (calls : ∀ call ∈ outcome.calls, ¬ FailedRecognition call) :
    ∀ call ∈ (conclude frame channel outcome).calls, ¬ FailedRecognition call := by
  unfold conclude
  rw [conclude_eq_ok_iff.mp h]
  intro call hc
  rcases List.mem_append.mp hc with hc | hc
  · exact calls call hc
  · rw [List.mem_singleton.mp hc]
    rintro ⟨-, hsuccess⟩
    have htrue : (audit frame channel true (some principal.id.text) none).fields.lookup "success" =
        some (.bool true) := rfl
    rw [htrue] at hsuccess
    simp at hsuccess

theorem ofRequest_calls {form : Form}
    (h : (ofRequest frame directory form).result = .ok principal) :
    ∀ call ∈ (ofRequest frame directory form).calls, ¬ FailedRecognition call := by
  unfold ofRequest at h ⊢
  cases hread : Basic.read (frame.request.header? "authorization") with
  | error fault =>
    rw [hread] at h
    cases fault <;> cases h
  | ok held =>
    rw [hread] at h
    simp only at h ⊢
    cases held with
    | none =>
      cases hclient : form.lookup "client_id" with
      | none => rw [hclient] at h; cases h
      | some clientId =>
        rw [hclient] at h
        exact conclude_calls h fun call hc => absurd hc List.not_mem_nil
    | some credentials =>
      cases hclient : form.lookup "client_id" with
      | none =>
        rw [hclient] at h
        exact conclude_calls h (authenticate_calls directory _ _)
      | some clientId => rw [hclient] at h; cases h

theorem ofConfidential_calls (h : (ofConfidential frame directory).result = .ok principal) :
    ∀ call ∈ (ofConfidential frame directory).calls, ¬ FailedRecognition call := by
  unfold ofConfidential at h ⊢
  cases hread : Basic.read (frame.request.header? "authorization") with
  | error fault =>
    rw [hread] at h
    cases fault <;> cases h
  | ok held =>
    rw [hread] at h
    cases held with
    | none => cases h
    | some credentials => exact conclude_calls h (authenticate_calls directory _ _)

end Recognition

/-! ## The endpoints -/

variable {app : Application} {frame : Frame} {state : State Data} {down : List Name}

/-- The same state, with some of the stores out of reach. -/
def withDown (state : State Data) (down : List Name) : State Data :=
  { state with data := state.data.withDown down }

theorem data_withDown (state : State Data) (down : List Name) :
    (withDown state down).data = state.data.withDown down := rfl

/-- What an endpoint leaves when it ends for want of a store: a fault, and log calls of which none
tells that no client was recognised. -/
structure Unreached (state : State Data) (fault : Fault) (reply : Reply Data) : Prop where
  result : reply.result = .error fault
  state : reply.state = state
  calls : ∀ call ∈ reply.calls, ¬ FailedRecognition call

/-- An endpoint leaves what it leaves with all stores at hand, and its answer is no outage. -/
structure Spared (down : List Name) (under calm : Reply Data) : Prop where
  same : under = { calm with state := withDown calm.state down }
  response : ∀ response, calm.result = .ok response → response.status ≠ 503
  fault : ∀ fault, calm.result = .error fault → fault.status ≠ 503

/-- An endpoint leaves what it leaves with all stores at hand, or ends for want of one with a fault
of the given ones. -/
inductive ReplyWithstands (ends : Fault → Prop) (state : State Data) (down : List Name)
    (under calm : Reply Data) : Prop where
  | spared (h : Spared down under calm)
  | cut (fault : Fault) (hends : ends fault) (h : Unreached (withDown state down) fault under)

/-- The fault tells of a store that is out of reach. -/
def OutOfReach (fault : Fault) : Prop := ∃ u, fault = .ofUnreachable u

theorem ReplyWithstands.mono {ends more : Fault → Prop} {under calm : Reply Data}
    (h : ReplyWithstands ends state down under calm) (hmore : ∀ fault, ends fault → more fault) :
    ReplyWithstands more state down under calm := by
  cases h with
  | spared h => exact .spared h
  | cut fault hends h => exact .cut fault (hmore fault hends) h

/-- The calls made while recognising the client come before those of what follows. -/
theorem ReplyWithstands.after {ends : Fault → Prop} {under calm : Reply Data}
    (h : ReplyWithstands ends state down under calm) {calls : List Log.Call}
    (hcalls : ∀ call ∈ calls, ¬ FailedRecognition call) :
    ReplyWithstands ends state down { under with calls := calls ++ under.calls }
      { calm with calls := calls ++ calm.calls } := by
  cases h with
  | spared h => exact .spared ⟨by rw [h.same], h.response, h.fault⟩
  | cut fault hends h =>
    refine .cut fault hends ⟨h.result, h.state, fun call hc => ?_⟩
    rcases List.mem_append.mp hc with hc | hc
    · exact hcalls call hc
    · exact h.calls call hc

theorem cut_of_store (u : Unreachable) (calm : Reply Data) :
    ReplyWithstands OutOfReach state down
      (keep (withDown state down) (.error (.ofUnreachable u)) []) calm :=
  .cut _ ⟨u, rfl⟩ ⟨rfl, rfl, fun _ hc => absurd hc List.not_mem_nil⟩

theorem spared_of_fault (state : State Data) {fault : Fault} (h : fault.status ≠ 503)
    (calls : List Log.Call) :
    Spared down (keep (withDown state down) (.error fault) calls)
      (keep (withDown state []) (.error fault) calls) where
  same := rfl
  response := fun response hr => absurd hr (by simp [keep])
  fault := fun other ho => by
    cases ho
    exact h

theorem spared_of_answer (state : State Data) {status : Int} {content : Json} {headers : Headers}
    (h : status ≠ 503) (calls : List Log.Call) :
    Spared down (keep (withDown state down) (answer status content headers) calls)
      (keep (withDown state []) (answer status content headers) calls) where
  same := rfl
  response := fun response hr => by
    rw [status_of_answer hr]
    exact h
  fault := fun fault hf => by
    rw [fault_of_answer hf]
    omega

theorem spared_of_page (documentation : Documentation) (title : Phrase) (page : Page)
    (state : State Data) :
    Spared down (keep (withDown state down) (documentation.result title page) [])
      (keep (withDown state []) (documentation.result title page) []) := by
  unfold Documentation.result
  cases documentation.write page title with
  | ok text =>
    refine ⟨rfl, fun response h => ?_, fun fault h => by cases h⟩
    cases h
    show (200 : Int) ≠ 503
    omega
  | error message =>
    refine ⟨rfl, fun response h => (by cases h), fun fault h => ?_⟩
    cases h
    show (500 : Int) ≠ 503
    omega

theorem ofForm_status (fault : Form.Fault) : (Fault.ofForm fault).status ≠ 503 := by
  cases fault with
  | mediaType => show (415 : Int) ≠ 503; omega
  | notText => show (400 : Int) ≠ 503; omega
  | repeated name => show (400 : Int) ≠ 503; omega

theorem decisionAnswer_status (decision : Grant.Decision) :
    (∀ response, decisionAnswer decision = .ok response → response.status ≠ 503) ∧
      ∀ fault, decisionAnswer decision = .error fault → fault.status ≠ 503 := by
  have hanswer {status : Int} (hs : status ≠ 503) (content : Json) :
      (∀ response, answer status content noStore = .ok response → response.status ≠ 503) ∧
        ∀ fault, answer status content noStore = .error fault → fault.status ≠ 503 := by
    constructor
    · intro response hr
      rw [status_of_answer hr]
      exact hs
    · intro fault hf
      rw [fault_of_answer hf]
      omega
  cases decision with
  | issued tokens => exact hanswer (by omega) _
  | refused refusal => exact hanswer (by omega) _

/-- An exchange ends for want of the tokens, or goes as it goes with all stores at hand. -/
inductive ExchangeWithstands (down : List Name) (under calm : Grant.Exchange) : Prop where
  | cut (u : Unreachable) (h : under = ⟨.error u, []⟩)
  | same (decision : Grant.Decision) (after : Stores) (calls : List Log.Call)
      (h : under = ⟨.ok (decision, after.withDown down), calls⟩)
      (hcalm : calm = ⟨.ok (decision, after.withDown []), calls⟩)

theorem issue_withstands (rules : Grant.Rules) (fresh : Grant.Fresh) (stores : Stores)
    (down : List Name) (accepted : Grant.Password.Accepted) :
    ExchangeWithstands down (Grant.issue rules fresh (stores.withDown down) accepted)
      (Grant.issue rules fresh (stores.withDown []) accepted) := by
  have hcalm : (stores.withDown []).saveToken (Grant.accessToken fresh accepted) =
      .ok ((withToken stores fresh accepted).withDown []) :=
    Stores.call_withDown_nil stores .tokens _
  have hunder : (stores.withDown down).saveToken (Grant.accessToken fresh accepted) =
        .error ⟨.tokens⟩ ∨
      (stores.withDown down).saveToken (Grant.accessToken fresh accepted) =
        .ok ((withToken stores fresh accepted).withDown down) :=
    Stores.call_cases (stores.withDown down) .tokens _
  unfold Grant.issue
  rw [hcalm]
  rcases hunder with hunder | hunder
  · rw [hunder]
    exact .cut ⟨.tokens⟩ rfl
  · rw [hunder]
    exact .same _ _ _ rfl rfl

theorem exchange_withstands (rules : Grant.Rules) (fresh : Grant.Fresh) (stores : Stores)
    (down : List Name) (principal : Client.Principal) (form : Form) :
    ExchangeWithstands down (Grant.exchange rules fresh (stores.withDown down) principal form)
      (Grant.exchange rules fresh (stores.withDown []) principal form) := by
  unfold Grant.exchange
  cases form.lookup "grant_type" with
  | none => exact .same _ stores _ rfl rfl
  | some raw =>
    simp only
    cases Grant.readType raw with
    | error refusal => exact .same _ stores _ rfl rfl
    | ok grant =>
      cases grant
      simp only
      -- A grant that is refused is refused without a look at the stores.
      cases Grant.Password.validate rules.registry principal form with
      | error refusal => exact .same _ stores _ rfl rfl
      | ok accepted => exact issue_withstands rules fresh stores down accepted

theorem decide_withstands (rules : Grant.Rules) (frame : Frame) (state : State Data)
    (down : List Name) (principal : Client.Principal) (form : Form) :
    ReplyWithstands OutOfReach state down (decide rules frame (withDown state down) principal form)
      (decide rules frame (withDown state []) principal form) := by
  unfold decide
  rw [data_withDown, data_withDown]
  rcases exchange_withstands rules frame.fresh state.data down principal form with
    ⟨u, hunder⟩ | ⟨decision, after, calls, hunder, hcalm⟩
  · rw [hunder]
    exact cut_of_store u _
  · rw [hunder, hcalm]
    obtain ⟨hresponse, hfault⟩ := decisionAnswer_status decision
    exact .spared ⟨rfl, hresponse, hfault⟩

theorem tokenEndpoint_withstands (rules : Grant.Rules) (frame : Frame) (state : State Data)
    (down : List Name) :
    ReplyWithstands OutOfReach state down (tokenEndpoint rules frame (withDown state down))
      (tokenEndpoint rules frame (withDown state [])) := by
  unfold tokenEndpoint
  rw [data_withDown, data_withDown]
  cases Form.read frame.request with
  | error fault => exact .spared (spared_of_fault state (ofForm_status fault) [])
  | ok form =>
    simp only
    rcases Recognition.ofRequest_withstands frame state.data down form with
      ⟨u, hcut⟩ | ⟨hsame, hsettled⟩
    · rw [hcut]
      exact cut_of_store u _
    · rw [hsame]
      cases hresult : (Recognition.ofRequest frame
          (Authentication.ofStores (state.data.withDown [])) form).result with
      | error fault => exact .spared (spared_of_fault state (hsettled fault hresult) _)
      | ok principal =>
        simp only
        have hcalls := Recognition.ofRequest_calls hresult
        exact (decide_withstands rules frame state down principal form).after hcalls

theorem lookUp_withstands (frame : Frame) (state : State Data) (down : List Name)
    (client : Client.Principal) (form : Form) :
    ReplyWithstands OutOfReach state down (lookUp frame (withDown state down) client form)
      (lookUp frame (withDown state []) client form) := by
  unfold lookUp
  rw [data_withDown, data_withDown]
  cases form.lookup "token" with
  | none =>
    have hstatus : (Fault.invalidRequest "missing parameter: token").status ≠ 503 := by
      show (400 : Int) ≠ 503
      omega
    exact .spared (spared_of_fault state hstatus [])
  | some raw =>
    simp only
    unfold Introspection.introspect
    cases Uuid.read? (Text.trim raw.toList) with
    | none => exact .spared (spared_of_answer state (by omega) _)
    | some id =>
      -- The only store that is read here is that of the tokens.
      have hcalm : (state.data.withDown []).getToken id = .ok (state.data.tokens.get? id) :=
        Stores.call_withDown_nil state.data .tokens _
      have hunder : (state.data.withDown down).getToken id = .error ⟨.tokens⟩ ∨
          (state.data.withDown down).getToken id = .ok (state.data.tokens.get? id) :=
        Stores.call_cases (state.data.withDown down) .tokens _
      simp only
      rw [hcalm]
      rcases hunder with hunder | hunder
      · rw [hunder]
        exact cut_of_store _ _
      · rw [hunder]
        cases state.data.tokens.get? id with
        | none => exact .spared (spared_of_answer state (by omega) _)
        | some token => exact .spared (spared_of_answer state (by omega) _)

theorem introspectEndpoint_withstands (frame : Frame) (state : State Data) (down : List Name) :
    ReplyWithstands OutOfReach state down (introspectEndpoint frame (withDown state down))
      (introspectEndpoint frame (withDown state [])) := by
  unfold introspectEndpoint
  rw [data_withDown, data_withDown]
  cases Form.read frame.request with
  | error fault => exact .spared (spared_of_fault state (ofForm_status fault) [])
  | ok form =>
    simp only
    rcases Recognition.ofConfidential_withstands frame state.data down with
      ⟨u, hcut⟩ | ⟨hsame, hsettled⟩
    · rw [hcut]
      exact cut_of_store u _
    · rw [hsame]
      cases hresult : (Recognition.ofConfidential frame
          (Authentication.ofStores (state.data.withDown []))).result with
      | error fault => exact .spared (spared_of_fault state (hsettled fault hresult) _)
      | ok client =>
        simp only
        have hcalls := Recognition.ofConfidential_calls hresult
        by_cases hmay : client.mayPerform .introspect
        · rw [if_pos hmay, if_pos hmay]
          exact (lookUp_withstands frame state down client form).after hcalls
        · have hstatus : (Fault.forbidden .introspect).status ≠ 503 := by
            show (403 : Int) ≠ 503
            omega
          rw [if_neg hmay, if_neg hmay]
          exact .spared (spared_of_fault state hstatus _)

/-- The fault when the service is not ready. -/
def notReady : Fault := .http 503 (.str "Service not ready.") []

theorem readyEndpoint_withstands (frame : Frame) (state : State Data) (down : List Name) :
    ReplyWithstands (· = notReady) state down (readyEndpoint frame (withDown state down))
      (readyEndpoint frame (withDown state [])) := by
  have hcalm : (withDown state []).data.findClient "health-check" =
      .ok (state.data.clients.find "health-check") :=
    Stores.call_withDown_nil state.data .configurations _
  have hunder : (withDown state down).data.findClient "health-check" =
        .error ⟨.configurations⟩ ∨
      (withDown state down).data.findClient "health-check" =
        .ok (state.data.clients.find "health-check") :=
    Stores.call_cases (state.data.withDown down) .configurations _
  unfold readyEndpoint
  rw [hcalm]
  rcases hunder with hunder | hunder
  · rw [hunder]
    exact .cut notReady rfl ⟨rfl, rfl, fun _ hc => absurd hc List.not_mem_nil⟩
  · rw [hunder]
    exact .spared (spared_of_answer state (by omega) [])

end TokenIssuer.Service
