import TokenIssuer.Proofs.Metrics
import TokenIssuer.Proofs.Service.History
import TokenIssuer.Proofs.Service.Logging
import TokenIssuer.Proofs.Service.Stages

/-!
The counts of the token requests. Each one is the number of requests that were answered from the
decision on a grant with the outcome it is named for, and what was issued agrees with what was
stored.
-/

namespace TokenIssuer.Service

open Http Store

variable {app : Application} {rules : Grant.Rules} {frame : Frame} {state : State Data}
  {form : Form} {principal : Client.Principal} {decision : Grant.Decision} {after : Stores}

/-! ## The labels of a count -/

/-- The label of a grant type agrees with what became of a request. -/
structure LabelsAgree (grantType : Option String) (labels : Metrics.Outcome) : Prop where
  missing : labels.grantType = "missing" ↔ grantType = none
  absent : grantType = none → labels.outcome = Grant.Code.invalidRequest.text
  unsupported : labels.grantType = "unsupported" ↔
    labels.outcome = Grant.Code.unsupportedGrantType.text
  granted : labels.outcome ∈
      ["issued", Grant.Code.invalidScope.text, Grant.Code.unauthorizedClient.text] →
    labels.grantType = "password"

/-- The labels that a decision is counted under. -/
def decisionLabels (form : Form) (decision : Grant.Decision) : Metrics.Outcome :=
  ⟨Grant.typeLabel (form.lookup "grant_type"), decisionLabel decision⟩

theorem text_injective {one other : Grant.Code} (h : one.text = other.text) : one = other := by
  cases one <;> cases other <;> first | rfl | exact absurd h (by decide)

theorem text_ne_issued (code : Grant.Code) : code.text ≠ "issued" := by
  cases code <;> decide

theorem labelsAgree_password {grantType : Option String} {outcome : String}
    (some : grantType ≠ none) (other : outcome ≠ Grant.Code.unsupportedGrantType.text) :
    LabelsAgree grantType ⟨"password", outcome⟩ where
  missing := iff_of_false (show "password" ≠ "missing" by decide) some
  absent h := absurd h some
  unsupported := iff_of_false (show "password" ≠ "unsupported" by decide) other
  granted _ := rfl

theorem labelsAgree_of_exchange {fresh : Grant.Fresh} {stores : Stores}
    (h : (Grant.exchange rules fresh stores principal form).result = .ok (decision, after)) :
    LabelsAgree (form.lookup "grant_type") (decisionLabels form decision) := by
  unfold Grant.exchange at h
  unfold decisionLabels
  -- The label and the reader look at the raw grant type each on its own; the cases are those of
  -- the reader.
  cases hg : form.lookup "grant_type" with
  | none =>
    simp only [hg] at h
    cases h
    exact ⟨iff_of_true rfl rfl, fun _ => rfl, iff_of_false (by decide) (by decide),
      fun hm => absurd hm (by decide)⟩
  | some raw =>
    have hsome : some raw ≠ none := Option.some_ne_none raw
    simp only [hg] at h
    cases hr : Grant.readType raw with
    | error refusal =>
      simp only [hr] at h
      cases h
      obtain ⟨hlabel, hcode⟩ := Grant.typeLabel_of_unread hr
      rw [hlabel, decisionLabel, hcode]
      exact ⟨iff_of_false (by decide) hsome, fun hn => absurd hn hsome, iff_of_true rfl rfl,
        fun hm => absurd hm (by decide)⟩
    | ok grant =>
      cases grant
      rw [Grant.typeLabel_of_read hr]
      apply labelsAgree_password hsome
      simp only [hr] at h
      cases hv : Grant.Password.validate rules.registry principal form with
      | error refusal =>
        simp only [hv] at h
        cases h
        exact fun he => Grant.Password.code_of_validate hv (text_injective he)
      | ok accepted =>
        simp only [hv, Grant.issue] at h
        cases hs : stores.saveToken (Grant.accessToken fresh accepted) with
        | error u => rw [hs] at h; cases h
        | ok saved =>
          rw [hs] at h
          cases h
          exact (text_ne_issued _).symm

/-! ## What a request is counted for -/

/-- The outcome that the answer to a recognised client tells of: that tokens were issued, or the
code of the refusal. -/
def outcomeTold? (response : Response) : Option String :=
  if response.status = 200 then some "issued"
  else if response.status = 400 then
    match response.body with
    | .json (.obj fields) => fields.lookup "error" |>.bind fun
      | .str code => some code
      | _ => none
    | _ => none
  else none

/-- The labels for a request that was answered from the decision on a grant: the one to the token
endpoint of a client that was recognised. -/
def Serving.outcome? (app : Application) (s : Serving) : Option Metrics.Outcome :=
  if s.request.Is "POST" "/token" then
    match Form.read s.request with
    | .error _ => none
    | .ok form =>
      match (Recognition.ofRequest (inside s.frame) (Authentication.ofStores s.state.data)
          form).result with
      | .error _ => none
      | .ok _ =>
        ((s.served app).response.bind outcomeTold?).map
          (⟨Grant.typeLabel (form.lookup "grant_type"), ·⟩)
  else none

theorem outcomeTold?_decided (frame : Frame) (decision : Grant.Decision) :
    outcomeTold? (dressed frame (decidedResponse decision)) = some (decisionLabel decision) := by
  cases decision with
  | issued tokens => rfl
  | refused refusal => rfl

/-! ## The token endpoint -/

/-- What the token endpoint makes of a request: it counts a decision and answers with it, or it
leaves everything as it is and ends with a fault, after recognition only for want of a store. -/
inductive Decides (rules : Grant.Rules) (frame : Frame) (state : State Data) (reply : Reply Data) :
    Prop where
  | decided {form : Form} {principal : Client.Principal} {decision : Grant.Decision}
      {after : Stores} (formed : Form.read frame.request = .ok form)
      (recognised : (Recognition.ofRequest frame (Authentication.ofStores state.data)
        form).result = .ok principal)
      (exchange : (Grant.exchange rules frame.fresh state.data principal form).result =
        .ok (decision, after))
      (result : reply.result = .ok (decidedResponse decision))
      (left : reply.state = ⟨state.registry.recordOutcome (decisionLabels form decision), after⟩)
  | undecided {fault : Fault} (result : reply.result = .error fault)
      (failure : 400 ≤ fault.status)
      (late : ∀ form principal, Form.read frame.request = .ok form →
        (Recognition.ofRequest frame (Authentication.ofStores state.data) form).result =
          .ok principal → fault.status = 503)
      (left : reply.state = state)

theorem tokenEndpoint_decides (rules : Grant.Rules) (frame : Frame) (state : State Data) :
    Decides rules frame state (tokenEndpoint rules frame state) := by
  cases tokenEndpoint_replies rules frame state with
  | @unread fault unformed result left _ =>
    refine .undecided result (status_ofForm fault) (fun form principal hf => ?_) left
    rw [unformed] at hf
    cases hf
  | refused formed unrecognised result left _ =>
    refine .undecided result (Recognition.status_of_ofRequest unrecognised)
      (fun other principal hf hr => ?_) left
    obtain rfl := Except.ok.inj (formed.symm.trans hf)
    rw [unrecognised] at hr
    cases hr
  | @unreached _ _ u _ _ _ result left _ =>
    -- The client is recognised here, so the status has to be that of an outage.
    have hstatus : (Fault.ofUnreachable u).status = 503 := rfl
    exact .undecided result (by omega) (fun _ _ _ _ => hstatus) left
  | decided formed recognised exchange result left _ =>
    exact .decided formed recognised exchange result left

/-! ## A request that is served -/

namespace Serving

/-- What a served request is counted for. -/
inductive Counts (app : Application) (s : Serving) : Prop where
  | decided {form : Form} {principal : Client.Principal} {decision : Grant.Decision}
      {after : Stores} (post : s.request.Is "POST" "/token")
      (formed : Form.read s.request = .ok form)
      (exchange : (Grant.exchange app.rules s.fresh s.state.data principal form).result =
        .ok (decision, after))
      (response : (s.served app).response = some (dressed s.frame (decidedResponse decision)))
      (outcome : s.outcome? app = some (decisionLabels form decision))
      (counted : (s.served app).state.registry.outcomes =
        (s.state.registry.recordOutcome (decisionLabels form decision)).outcomes)
  | undecided (outcome : s.outcome? app = none)
      (unissued : ¬ Issues app s.request s.fresh s.seconds s.state)
      (uncounted : (s.served app).state.registry.outcomes = s.state.registry.outcomes)

variable {s : Serving}

theorem outcome?_of_unanswered (h : (s.served app).response = none) : s.outcome? app = none := by
  unfold outcome?
  rw [h]
  split
  · split
    · rfl
    · split <;> rfl
  · rfl

theorem outcome?_of_decided (post : s.request.Is "POST" "/token")
    (formed : Form.read s.request = .ok form)
    (recognised : (Recognition.ofRequest (inside s.frame) (Authentication.ofStores s.state.data)
      form).result = .ok principal)
    (response : (s.served app).response = some (dressed s.frame (decidedResponse decision))) :
    s.outcome? app = some (decisionLabels form decision) := by
  unfold outcome?
  simp only [if_pos post, formed, recognised, response, Option.bind_some, outcomeTold?_decided,
    Option.map_some]
  rfl

theorem outcome?_of_untold {response : Response} (sent : (s.served app).response = some response)
    (late : ∀ form principal, Form.read s.request = .ok form →
      (Recognition.ofRequest (inside s.frame) (Authentication.ofStores s.state.data)
        form).result = .ok principal → 500 ≤ response.status) : s.outcome? app = none := by
  unfold outcome?
  split
  · cases hform : Form.read s.request with
    | error fault => rfl
    | ok form =>
      simp only
      cases hresult : (Recognition.ofRequest (inside s.frame)
          (Authentication.ofStores s.state.data) form).result with
      | error fault => rfl
      | ok principal =>
        have hlate := late form principal hform hresult
        have huntold : outcomeTold? response = none := by
          unfold outcomeTold?
          rw [if_neg (by omega), if_neg (by omega)]
        simp only [sent, Option.bind_some, huntold, Option.map_none]
  · rfl

theorem counts (app : Application) (s : Serving) : s.Counts app := by
  cases hreadable : s.frame.request.addressFault? with
  | some fault =>
    obtain ⟨hresponse, -, hstate⟩ := serve_of_address app hreadable s.fresh s.seconds s.state
    refine .undecided (outcome?_of_unanswered hresponse) (fun h => ?_)
      (congrArg (·.registry.outcomes) hstate)
    rw [Issues] at h
    exact absurd (hresponse ▸ h.2) (by simp)
  | none =>
    have hresponse : (s.served app).response = some (sent app s.frame
        (answered app (inside s.frame) (replied app s.frame s.state).result)) :=
      response_serve app s.state hreadable
    have houtcomes : (s.served app).state.registry.outcomes =
        (replied app s.frame s.state).state.registry.outcomes :=
      outcomes_serve app s.state hreadable
    -- Only the token endpoint counts outcomes, and of its replies only those with a decision.
    by_cases hpost : s.frame.request.Is "POST" "/token"
    · rw [replied_of_token hpost] at hresponse houtcomes
      cases tokenEndpoint_decides app.rules (inside s.frame) s.state with
      | decided formed recognised exchange result left =>
        rw [result] at hresponse
        rw [left] at houtcomes
        exact .decided hpost formed exchange hresponse
          (outcome?_of_decided hpost formed recognised hresponse) houtcomes
      | @undecided fault result failure late left =>
        have hstatus := status_of_sent app s.frame fault
        rw [result] at hresponse
        rw [left] at houtcomes
        refine .undecided (outcome?_of_untold hresponse fun form principal hf hr => ?_)
          (fun h => ?_) houtcomes
        · have hlate := late form principal hf hr
          omega
        · have hissued : (s.served app).response.map (·.status) = some 200 := h.2
          rw [hresponse, Option.map_some, Option.some.injEq] at hissued
          omega
    · rw [replied_state_of_not_token app hpost] at houtcomes
      exact .undecided (if_neg hpost) (fun h => hpost h.1) houtcomes

theorem outcomeCount_served (app : Application) (s : Serving) (labels : Metrics.Outcome) :
    (s.served app).state.registry.outcomeCount labels =
      s.state.registry.outcomeCount labels + if s.outcome? app = some labels then 1 else 0 := by
  cases s.counts app with
  | @decided form _ decision _ _ _ _ _ outcome counted =>
    have hcount := s.state.registry.outcomeCount_recordOutcome (decisionLabels form decision) labels
    simp only [outcome, Option.some.injEq]
    rw [← hcount]
    unfold Metrics.Registry.outcomeCount
    rw [counted]
  | undecided outcome _ uncounted =>
    rw [outcome, if_neg (by simp), Nat.add_zero]
    unfold Metrics.Registry.outcomeCount
    rw [uncounted]

instance (app : Application) (request : Request) (fresh : Grant.Fresh) (seconds : Double)
    (state : State Data) : Decidable (Issues app request fresh seconds state) :=
  inferInstanceAs (Decidable (_ ∧ _))

/-- The request is one to the token endpoint, and is answered with tokens. -/
def issues (app : Application) (s : Serving) : Bool :=
  Issues app s.request s.fresh s.seconds s.state

theorem issues_iff_of_decided (post : s.request.Is "POST" "/token")
    (response : (s.served app).response = some (dressed s.frame (decidedResponse decision))) :
    s.issues app = true ↔ decisionLabel decision = "issued" := by
  have hanswered : Issues app s.request s.fresh s.seconds s.state ↔
      (decidedResponse decision).status = 200 := by
    have hstatus : (s.served app).response.map (·.status) =
        some (decidedResponse decision).status := by
      rw [response]
      rfl
    unfold served at hstatus
    rw [Issues, hstatus, Option.some.injEq]
    exact and_iff_right post
  unfold issues
  rw [decide_eq_true_eq, hanswered]
  cases decision with
  | issued tokens => exact iff_of_true rfl rfl
  | refused refusal =>
    exact iff_of_false (show (400 : Int) ≠ 200 by decide) (text_ne_issued refusal.code)

theorem outcomeTotal_served (app : Application) (s : Serving) :
    (s.served app).state.registry.outcomeTotal "issued" =
      s.state.registry.outcomeTotal "issued" + if s.issues app then 1 else 0 := by
  cases s.counts app with
  | @decided form _ decision _ post _ _ response _ counted =>
    have htotal := s.state.registry.outcomeTotal_recordOutcome (decisionLabels form decision)
      "issued"
    have hissues : s.issues app = true ↔ (decisionLabels form decision).outcome = "issued" :=
      issues_iff_of_decided post response
    simp only [hissues]
    rw [← htotal]
    unfold Metrics.Registry.outcomeTotal
    rw [counted]
  | undecided _ unissued uncounted =>
    have hissues : s.issues app = false := decide_eq_false unissued
    rw [hissues, if_neg Bool.false_ne_true, Nat.add_zero]
    unfold Metrics.Registry.outcomeTotal
    rw [uncounted]

theorem labelsAgree {labels : Metrics.Outcome} (h : s.outcome? app = some labels) :
    ∃ form, Form.read s.request = .ok form ∧ LabelsAgree (form.lookup "grant_type") labels := by
  cases s.counts app with
  | @decided form _ _ _ _ formed exchange _ outcome _ =>
    rw [h] at outcome
    obtain rfl := Option.some.inj outcome
    exact ⟨form, formed, labelsAgree_of_exchange exchange⟩
  | undecided outcome _ _ => rw [h] at outcome; cases outcome

theorem outcome?_of_status {response : Response} (sent : (s.served app).response = some response)
    (other : response.status ∈ [401, 415, 503, 500]) : s.outcome? app = none := by
  cases s.counts app with
  | @decided _ _ decision _ _ _ _ answer _ _ =>
    rw [sent] at answer
    obtain rfl := Option.some.inj answer
    rcases status_decidedResponse decision with hstatus | hstatus
    · exact absurd other (by show (decidedResponse decision).status ∉ _; rw [hstatus]; decide)
    · exact absurd other (by show (decidedResponse decision).status ∉ _; rw [hstatus]; decide)
  | undecided outcome _ _ => exact outcome

theorem outcome?_of_unformed {fault : Form.Fault} (h : Form.read s.request = .error fault) :
    s.outcome? app = none := by
  cases s.counts app with
  | decided _ formed _ _ _ _ => rw [h] at formed; cases formed
  | undecided outcome _ _ => exact outcome

theorem outcomes_of_outcome? (h : s.outcome? app = none) :
    (s.served app).state.registry.outcomes = s.state.registry.outcomes := by
  cases s.counts app with
  | decided _ _ _ _ outcome _ => rw [h] at outcome; cases outcome
  | undecided _ _ uncounted => exact uncounted

end Serving

/-! ## The tokens that are stored -/

/-- The state with other tokens on file. -/
def withTokens (state : State Data) (tokens : Tokens) : State Data :=
  { state with data := { state.data with tokens } }

/-- What an exchange decides does not depend on the tokens on file, and to them it adds one when
tokens are issued. -/
theorem exchange_files (rules : Grant.Rules) (fresh : Grant.Fresh) (stores : Stores)
    (principal : Client.Principal) (form : Form) :
    (∃ accepted, ∀ tokens : Tokens,
        (Grant.exchange rules fresh { stores with tokens } principal form).result =
          .ok (.issued (Grant.issuedTokens rules fresh accepted),
            { stores with tokens := tokens.put (Grant.accessToken fresh accepted) })) ∨
      (∃ refusal, ∀ tokens : Tokens,
        (Grant.exchange rules fresh { stores with tokens } principal form).result =
          .ok (.refused refusal, { stores with tokens })) ∨
      ∃ u, ∀ tokens : Tokens,
        (Grant.exchange rules fresh { stores with tokens } principal form).result = .error u := by
  unfold Grant.exchange
  cases form.lookup "grant_type" with
  | none => exact .inr (.inl ⟨_, fun _ => rfl⟩)
  | some raw =>
    simp only
    cases Grant.readType raw with
    | error refusal => exact .inr (.inl ⟨refusal, fun _ => rfl⟩)
    | ok grant =>
      cases grant
      simp only
      -- No check reads the tokens, only the last step stores one.
      cases Grant.Password.validate rules.registry principal form with
      | error refusal => exact .inr (.inl ⟨refusal, fun _ => rfl⟩)
      | ok accepted =>
        by_cases up : .tokens ∈ stores.down
        · refine .inr (.inr ⟨⟨.tokens⟩, fun tokens => ?_⟩)
          have hsave : Stores.saveToken { stores with tokens } (Grant.accessToken fresh accepted) =
              .error ⟨.tokens⟩ := if_pos up
          simp only [Grant.issue, hsave]
        · exact .inl ⟨accepted, fun tokens => Grant.issue_of_up rules fresh accepted up⟩

/-- The token endpoint adds the same to any tokens on file: one token when it issues tokens, and
else nothing. -/
inductive Files (rules : Grant.Rules) (frame : Frame) (state : State Data) : Prop where
  | one (token : AccessToken) {tokens : Grant.Issued}
      (files : ∀ tokens, (tokenEndpoint rules frame (withTokens state tokens)).state.data.tokens =
        tokens.put token)
      (result : (tokenEndpoint rules frame state).result = .ok (decidedResponse (.issued tokens)))
  | nothing
      (files : ∀ tokens, (tokenEndpoint rules frame (withTokens state tokens)).state.data.tokens =
        tokens)
      (result : ∀ response, (tokenEndpoint rules frame state).result = .ok response →
        response.status = 400)
      (failure : ∀ fault, (tokenEndpoint rules frame state).result = .error fault →
        400 ≤ fault.status)

theorem tokenEndpoint_of_decided (formed : Form.read frame.request = .ok form)
    (recognised : (Recognition.ofRequest frame (Authentication.ofStores state.data) form).result =
      .ok principal)
    (exchange : (Grant.exchange rules frame.fresh state.data principal form).result =
      .ok (decision, after)) :
    (tokenEndpoint rules frame state).result = .ok (decidedResponse decision) ∧
      (tokenEndpoint rules frame state).state.data = after := by
  unfold tokenEndpoint
  simp only [formed, recognised, decide, exchange]
  exact ⟨decisionAnswer_eq decision, trivial⟩

theorem tokenEndpoint_of_unreachable {u : Unreachable}
    (formed : Form.read frame.request = .ok form)
    (recognised : (Recognition.ofRequest frame (Authentication.ofStores state.data) form).result =
      .ok principal)
    (exchange : (Grant.exchange rules frame.fresh state.data principal form).result = .error u) :
    (tokenEndpoint rules frame state).result = .error (.ofUnreachable u) ∧
      (tokenEndpoint rules frame state).state.data = state.data := by
  unfold tokenEndpoint
  simp only [formed, recognised, decide, exchange]
  exact ⟨rfl, rfl⟩

theorem tokenEndpoint_files (rules : Grant.Rules) (frame : Frame) (state : State Data) :
    Files rules frame state := by
  have hguarded := tokenEndpoint_guarded rules
  cases hform : Form.read frame.request with
  | error fault =>
    have hkept (tokens : Tokens) :
        (tokenEndpoint rules frame (withTokens state tokens)).state.data.tokens = tokens := by
      rw [hguarded.unread hform]
      rfl
    refine .nothing hkept (fun response h => ?_) fun other h => ?_
    · rw [hguarded.result_of_unread hform] at h
      cases h
    · rw [hguarded.result_of_unread hform] at h
      cases h
      exact status_ofForm fault
  | ok form =>
    cases hresult : (Recognition.ofRequest frame (Authentication.ofStores state.data) form).result
      with
    | error fault =>
      have hrefused (tokens : Tokens) : (Recognition.ofRequest frame
          (Authentication.ofStores (withTokens state tokens).data) form).result = .error fault :=
        hresult
      have hkept (tokens : Tokens) :
          (tokenEndpoint rules frame (withTokens state tokens)).state.data.tokens = tokens := by
        rw [hguarded.refused hform (hrefused tokens)]
        rfl
      refine .nothing hkept (fun response h => ?_) fun other h => ?_
      · rw [hguarded.result_of_refused hform hresult] at h
        cases h
      · rw [hguarded.result_of_refused hform hresult] at h
        cases h
        exact Recognition.status_of_ofRequest hresult
    | ok principal =>
      -- Whoever is recognised is recognised with any tokens on file.
      have hrecognised (tokens : Tokens) : (Recognition.ofRequest frame
          (Authentication.ofStores (withTokens state tokens).data) form).result = .ok principal :=
        hresult
      rcases exchange_files rules frame.fresh state.data principal form with
        ⟨accepted, hx⟩ | ⟨refusal, hx⟩ | ⟨u, hx⟩
      · have hone (tokens : Tokens) :=
          tokenEndpoint_of_decided hform (hrecognised tokens) (hx tokens)
        exact .one (Grant.accessToken frame.fresh accepted)
          (fun tokens => congrArg Stores.tokens (hone tokens).2) (hone state.data.tokens).1
      · have hnone (tokens : Tokens) :=
          tokenEndpoint_of_decided hform (hrecognised tokens) (hx tokens)
        refine .nothing (fun tokens => congrArg Stores.tokens (hnone tokens).2)
          (fun response h => ?_) fun fault h => ?_
        · obtain rfl := Except.ok.inj ((hnone state.data.tokens).1.symm.trans h)
          rfl
        · cases (hnone state.data.tokens).1.symm.trans h
      · have hnone (tokens : Tokens) :=
          tokenEndpoint_of_unreachable hform (hrecognised tokens) (hx tokens)
        refine .nothing (fun tokens => congrArg Stores.tokens (hnone tokens).2)
          (fun response h => ?_) fun fault h => ?_
        · cases (hnone state.data.tokens).1.symm.trans h
        · obtain rfl := Except.error.inj ((hnone state.data.tokens).1.symm.trans h)
          show (400 : Int) ≤ 503
          omega

theorem data_serve_token (app : Application) (state : State Data)
    (readable : frame.request.addressFault? = none) (post : frame.request.Is "POST" "/token") :
    (app.service.serve frame state).state.data =
      (tokenEndpoint app.rules (inside frame) state).state.data := by
  rw [serve_eq_of_readable app frame state readable, replied_of_token post]

theorem data_serve_other (app : Application) (state : State Data)
    (other : frame.request.addressFault? = none → ¬ frame.request.Is "POST" "/token") :
    (app.service.serve frame state).state.data = state.data := by
  cases hreadable : frame.request.addressFault? with
  | some fault => rw [serve_eq_of_address app frame state hreadable]
  | none =>
    rw [serve_eq_of_readable app frame state hreadable,
      replied_state_of_not_token app (other hreadable)]

namespace Serving

variable {s : Serving}

/-- The tokens that a request stores: those that are on file afterwards if there were none
before. -/
def filed (app : Application) (s : Serving) : List AccessToken :=
  (app.serve s.request s.fresh s.seconds (withTokens s.state .empty)).state.data.tokens.rows

/-- A request stores one token and is answered with tokens, or it stores none and is not. -/
inductive Deposits (app : Application) (s : Serving) : Prop where
  | one (token : AccessToken) (filed : s.filed app = [token])
      (left : (s.served app).state.data.tokens = s.state.data.tokens.put token)
      (issues : s.issues app = true)
  | nothing (filed : s.filed app = []) (left : (s.served app).state.data.tokens =
        s.state.data.tokens) (issues : s.issues app = false)

theorem deposits (app : Application) (s : Serving) : s.Deposits app := by
  by_cases h : s.frame.request.addressFault? = none ∧ s.frame.request.Is "POST" "/token"
  · obtain ⟨hreadable, hpost⟩ := h
    -- The endpoint adds the same to any tokens on file: to those there are, and to none.
    have hfiled : s.filed app = (tokenEndpoint app.rules (inside s.frame)
        (withTokens s.state .empty)).state.data.tokens.rows :=
      congrArg (·.tokens.rows) (data_serve_token app _ hreadable hpost)
    have hleft : (s.served app).state.data.tokens = (tokenEndpoint app.rules (inside s.frame)
        (withTokens s.state s.state.data.tokens)).state.data.tokens :=
      congrArg (·.tokens) (data_serve_token app _ hreadable hpost)
    have hresponse : (s.served app).response = some (sent app s.frame
        (answered app (inside s.frame) (tokenEndpoint app.rules (inside s.frame)
          s.state).result)) := by
      rw [← replied_of_token hpost]
      exact response_serve app s.state hreadable
    cases tokenEndpoint_files app.rules (inside s.frame) s.state with
    | one token files result =>
      rw [result] at hresponse
      rw [files] at hfiled hleft
      exact .one token hfiled hleft ((issues_iff_of_decided hpost hresponse).mpr rfl)
    | nothing files result failure =>
      rw [files] at hfiled hleft
      refine .nothing hfiled hleft (decide_eq_false fun h => ?_)
      have hissued : (s.served app).response.map (·.status) = some 200 := h.2
      rw [hresponse, Option.map_some, Option.some.injEq] at hissued
      cases hr : (tokenEndpoint app.rules (inside s.frame) s.state).result with
      | ok response =>
        rw [hr] at hissued
        have hstatus : response.status = 200 := hissued
        rw [result response hr] at hstatus
        omega
      | error fault =>
        rw [hr] at hissued
        have hstatus := status_of_sent_fault app s.frame (failure fault hr)
        omega
  · have hother : s.frame.request.addressFault? = none → ¬ s.frame.request.Is "POST" "/token" :=
      fun hreadable hpost => h ⟨hreadable, hpost⟩
    have hfiled : s.filed app = [] := congrArg (·.tokens.rows) (data_serve_other app _ hother)
    have hleft : (s.served app).state.data.tokens = s.state.data.tokens :=
      congrArg (·.tokens) (data_serve_other app _ hother)
    refine .nothing hfiled hleft (decide_eq_false fun hissues => ?_)
    cases hreadable : s.frame.request.addressFault? with
    | some fault =>
      have hanswer : (s.served app).response.map (·.status) = some 200 := hissues.2
      have hnone : (s.served app).response = none :=
        (serve_of_address app hreadable s.fresh s.seconds s.state).1
      rw [hnone] at hanswer
      cases hanswer
    | none => exact hother hreadable hissues.1

theorem length_filed (app : Application) (s : Serving) :
    (s.filed app).length = if s.issues app then 1 else 0 := by
  cases s.deposits app with
  | one token filed _ issues => rw [filed, issues]; rfl
  | nothing filed _ issues => rw [filed, issues]; rfl

theorem sum_length_filed (app : Application) (servings : List Serving) :
    (servings.map fun s => (s.filed app).length).sum = servings.countP (issues app) := by
  induction servings with
  | nil => rfl
  | cons s servings ih =>
    rw [List.map_cons, List.sum_cons, List.countP_cons, ih, length_filed, Nat.add_comm]

theorem tokens_served (app : Application) (s : Serving) :
    (s.served app).state.data.tokens = (s.filed app).foldl Table.put s.state.data.tokens := by
  cases s.deposits app with
  | one token filed left _ => rw [filed, left]; rfl
  | nothing filed left _ => rw [filed, left]; rfl

end Serving

/-- In every run from empty counts, the count of a grant type and an outcome is the number of
requests that were answered so from the decision on a grant; what was counted as issued is the
number of answers with tokens, and of the tokens that these stored. Requests that are answered in
another way are counted nowhere, and the labels agree with each other. -/
theorem token_outcomes_conserved (app : Application) (stores : Stores) (steps : List Step) :
    (∀ labels, (app.run ⟨.empty, stores⟩ steps).registry.outcomeCount labels =
        (app.servings ⟨.empty, stores⟩ steps).countP fun s => s.outcome? app = some labels) ∧
      (app.run ⟨.empty, stores⟩ steps).registry.outcomeTotal "issued" =
        (app.servings ⟨.empty, stores⟩ steps).countP (·.issues app) ∧
      (app.run ⟨.empty, stores⟩ steps).registry.outcomeTotal "issued" =
        ((app.servings ⟨.empty, stores⟩ steps).map fun s => (s.filed app).length).sum ∧
      ∀ s ∈ app.servings ⟨.empty, stores⟩ steps,
        (s.served app).state.data.tokens = (s.filed app).foldl Table.put s.state.data.tokens ∧
        ((∃ fault, Form.read s.request = .error fault) ∨
            (∃ response, (s.served app).response = some response ∧
              response.status ∈ [401, 415, 503, 500]) →
          s.outcome? app = none ∧
            (s.served app).state.registry.outcomes = s.state.registry.outcomes) ∧
        ∀ labels, s.outcome? app = some labels →
          ∃ form, Form.read s.request = .ok form ∧
            LabelsAgree (form.lookup "grant_type") labels := by
  have htotal : (app.run ⟨.empty, stores⟩ steps).registry.outcomeTotal "issued" =
      (app.servings ⟨.empty, stores⟩ steps).countP (·.issues app) := by
    rw [app.count_run (·.outcomeTotal "issued") (·.issues app)
      (fun s => s.outcomeTotal_served app)]
    exact Nat.zero_add _
  refine ⟨fun labels => ?_, htotal, ?_, fun s _ => ⟨s.tokens_served app, fun h => ?_,
    fun labels h => Serving.labelsAgree h⟩⟩
  · rw [app.count_run_of (·.outcomeCount labels) fun s => s.outcomeCount_served app labels]
    exact Nat.zero_add _
  · rw [htotal, Serving.sum_length_filed]
  · have hnone : s.outcome? app = none := by
      rcases h with ⟨fault, hfault⟩ | ⟨response, hsent, hstatus⟩
      · exact Serving.outcome?_of_unformed hfault
      · exact Serving.outcome?_of_status hsent hstatus
    exact ⟨hnone, Serving.outcomes_of_outcome? hnone⟩

/-- After the demo client was given its tokens they are counted, and stored. -/
theorem token_outcomes_conserved_demo :
    ∃ stores,
      Application.standard.startStores (List.replicate 8 1) ⟨4⟩ = .ok stores ∧
        (Application.standard.run ⟨.empty, stores⟩
          [.serve Demo.tokenRequest Demo.fresh (.signedZero false)]).registry.outcomeTotal
            "issued" = 1 := by
  obtain ⟨hash, hs, hv⟩ := Demo.startStores_standard
  have hresponse : (Application.standard.serve Demo.tokenRequest Demo.fresh (.signedZero false)
      ⟨.empty, Demo.stores ⟨4⟩ hash⟩).response = _ :=
    (serve_demo hv Demo.fresh (.signedZero false) .empty).1
  have hissues : Serving.issues .standard ⟨⟨.empty, Demo.stores ⟨4⟩ hash⟩, Demo.tokenRequest,
      Demo.fresh, .signedZero false⟩ = true :=
    decide_eq_true ⟨⟨rfl, .inl rfl⟩, by rw [hresponse]; rfl⟩
  have hconserved := token_outcomes_conserved .standard (Demo.stores ⟨4⟩ hash)
    [.serve Demo.tokenRequest Demo.fresh (.signedZero false)]
  refine ⟨_, hs, hconserved.2.1.trans ?_⟩
  rw [Application.servings, Application.servings, List.countP_singleton, hissues]
  rfl

end TokenIssuer.Service
