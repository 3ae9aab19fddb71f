import TokenIssuer.Proofs.Net.Address.Canonical
import TokenIssuer.Proofs.Service.AuditTrail

/-!
The address that the audit events of a request tell. It is that of the first one a proxy says the
request was forwarded for, if this is an address, and else that of the peer; and it is told in its
canonical text.
-/

namespace TokenIssuer.Http.Request

open Net

variable {request : Request} {element : String} {sender : Option Address}

/-- The first element of the list that says whom a request was forwarded for: what stands before the
first comma, or everything. -/
inductive FirstForwarded (request : Request) (element : String) : Prop where
  | alone (header : request.header? "x-forwarded-for" = some element)
      (whole : ',' ∉ element.toList)
  | followed {others : String}
      (header : request.header? "x-forwarded-for" = some (element ++ "," ++ others))
      (whole : ',' ∉ element.toList)

/-- The list says of no address that the request was forwarded for it. -/
def Unforwarded (request : Request) : Prop :=
  ∀ element, request.FirstForwarded element → ∀ a, ¬ Address.Names element a

/-- Who sent a request, as far as addresses tell. -/
inductive Sender (request : Request) : Option Address → Prop where
  | forwarded {element : String} {a : Address} (first : request.FirstForwarded element)
      (named : Address.Names element a) : Sender request (some a)
  | connected {peer : String} {a : Address} (unforwarded : request.Unforwarded)
      (fromPeer : request.peer = some peer) (named : Address.Names peer a) :
      Sender request (some a)
  | unknown (unforwarded : request.Unforwarded)
      (unnamed : ∀ peer, request.peer = some peer → ∀ a, ¬ Address.Names peer a) :
      Sender request none

theorem exists_header_of_first (h : request.FirstForwarded element) :
    ∃ value, request.header? "x-forwarded-for" = some value ∧
      Text.before ',' value.toList = element.toList := by
  cases h with
  | alone header whole => exact ⟨element, header, Text.before_of_notMem whole⟩
  | @followed others header whole =>
    refine ⟨_, header, ?_⟩
    have hvalue : (element ++ "," ++ others).toList = element.toList ++ ',' :: others.toList := by
      simp
    rw [hvalue, Text.before_append_cons whole]

theorem exists_first {value : String} (header : request.header? "x-forwarded-for" = some value) :
    ∃ element, request.FirstForwarded element := by
  by_cases hcomma : ',' ∈ value.toList
  · obtain ⟨front, back, hvalue, hfront⟩ := List.eq_append_cons_of_mem hcomma
    have hwhole : ',' ∉ (String.ofList front).toList := by rwa [String.toList_ofList]
    have hparts : value = String.ofList front ++ "," ++ String.ofList back := by
      apply String.toList_inj.mp
      rw [hvalue]
      simp
    exact ⟨String.ofList front, .followed (hparts ▸ header) hwhole⟩
  · exact ⟨value, .alone header hcomma⟩

/-- The first element is what is read, with or without blanks around it. -/
theorem canonical?_forwardedFor (h : request.FirstForwarded element) :
    request.forwardedFor?.bind canonical? = canonical? element := by
  obtain ⟨value, header, hbefore⟩ := exists_header_of_first h
  have htrimmed : request.trimmedHeader "x-forwarded-for" = Text.trim value.toList := by
    unfold trimmedHeader
    rw [header]
    rfl
  have htrim : Text.trim (Text.before ',' (Text.trim value.toList)) = Text.trim element.toList := by
    rw [Text.trim_before_trim (by decide), hbefore]
  unfold forwardedFor?
  simp only [htrimmed]
  split
  -- A list of nothing but blanks is passed over, and its first element is blank as well.
  next hempty =>
    rw [List.isEmpty_iff.mp hempty] at htrim
    have hblank : canonical? element = canonical? "" := canonical?_congr htrim.symm
    rw [hblank, Option.bind_none]
    rfl
  next =>
    rw [Option.bind_some]
    apply canonical?_congr
    rw [String.toList_ofList, htrim, Text.trim_trim]

theorem canonical?_unforwarded (h : request.Unforwarded) :
    request.forwardedFor?.bind canonical? = none := by
  cases header : request.header? "x-forwarded-for" with
  | none =>
    have hnone : request.forwardedFor? = none := by
      unfold forwardedFor? trimmedHeader
      rw [header]
      rfl
    rw [hnone, Option.bind_none]
  | some value =>
    obtain ⟨element, hfirst⟩ := exists_first header
    rw [canonical?_forwardedFor hfirst]
    exact canonical?_eq_none_iff.mpr (h element hfirst)

/-- The address of a request that is audited is the canonical text of that of its sender. -/
theorem auditedAddress_of_sender (h : request.Sender sender) :
    request.auditedAddress = sender.map Address.text := by
  unfold auditedAddress
  cases h with
  | forwarded first named =>
    rw [canonical?_forwardedFor first, canonical?_of_names named]
    rfl
  | connected unforwarded fromPeer named =>
    rw [canonical?_unforwarded unforwarded, fromPeer]
    exact canonical?_of_names named
  | unknown unforwarded unnamed =>
    rw [canonical?_unforwarded unforwarded]
    cases hpeer : request.peer with
    | none => rfl
    | some peer => exact canonical?_eq_none_iff.mpr (unnamed peer hpeer)

/-- Every request has a sender, which may be unknown. -/
theorem exists_sender (request : Request) : ∃ sender, request.Sender sender := by
  by_cases hforwarded : request.Unforwarded
  · by_cases hconnected : ∃ peer a, request.peer = some peer ∧ Address.Names peer a
    · obtain ⟨peer, a, hpeer, hnamed⟩ := hconnected
      exact ⟨some a, .connected hforwarded hpeer hnamed⟩
    · exact ⟨none, .unknown hforwarded fun peer hpeer a hnamed =>
        hconnected ⟨peer, a, hpeer, hnamed⟩⟩
  · simp only [Unforwarded, not_forall, not_not] at hforwarded
    obtain ⟨element, hfirst, a, hnamed⟩ := hforwarded
    exact ⟨some a, .forwarded hfirst hnamed⟩

theorem Sender.named (h : request.Sender sender) :
    ∀ a ∈ sender, ∃ shown, Address.Names shown a := by
  intro a ha
  cases h with
  | forwarded first named =>
    obtain rfl := Option.some.inj ha
    exact ⟨_, named⟩
  | connected unforwarded fromPeer named =>
    obtain rfl := Option.some.inj ha
    exact ⟨_, named⟩
  | unknown unforwarded unnamed => cases ha

theorem Sender.unique {other : Option Address} (h : request.Sender sender)
    (also : request.Sender other) : sender = other := by
  -- Both senders have the text that is audited, and no two addresses share a text.
  have htext := (auditedAddress_of_sender h).symm.trans (auditedAddress_of_sender also)
  cases sender with
  | none => exact (Option.map_eq_none_iff.mp htext.symm).symm
  | some a =>
    obtain ⟨b, rfl, hsame⟩ := Option.map_eq_some_iff.mp htext.symm
    obtain ⟨_, ha⟩ := h.named a rfl
    obtain ⟨_, hb⟩ := also.named b rfl
    rw [ha.eq_of_text hb hsame.symm]

end TokenIssuer.Http.Request

namespace TokenIssuer.Service

open Http Net

theorem exists_event_of_mem_recorded {frame : Frame} (app : Application) (state : State Data)
    {call : Log.Call} (hc : call ∈ Audit.recorded (app.service.serve frame state).logs) :
    ∃ event : Audit.Event, call = event.call frame.request (inside frame).noted := by
  cases accounted_of_mem app state hc with
  | attempt => exact ⟨_, rfl⟩
  | exchange => exact ⟨_, rfl⟩
  | introspection => exact ⟨_, rfl⟩

/-- An event tells the audited address of its request, or null. -/
theorem address_call (event : Audit.Event) (request : Request) (noted : Option Json) :
    (event.call request noted).fields.lookup "ip_address" =
      some (Json.ofText? request.auditedAddress) := rfl

/-- A request without credentials is audited once. -/
theorem recorded_forwardedRequest (app : Application) (fresh : Grant.Fresh) (seconds : Double)
    (state : State Data) :
    ∃ call, Audit.recorded (app.serve Demo.forwardedRequest fresh seconds state).logs = [call] := by
  let frame : Frame := .enter Demo.forwardedRequest fresh seconds
  have hrequest : (inside frame).request = Demo.forwardedRequest := rfl
  have hform : Form.read Demo.forwardedRequest = .ok [] := by rfl
  have hbasic : Basic.read (Demo.forwardedRequest.header? "authorization") = .ok none := by rfl
  -- Credentials are neither in the form nor in a header, so the request is rejected before a token
  -- is asked for, and the rejection is all that is audited.
  have hrecognition : Recognition.ofRequest (inside frame) (Authentication.ofStores state.data) [] =
      Recognition.reject (inside frame) "none" "missing_credentials" := by
    unfold Recognition.ofRequest
    rw [hrequest, hbasic]
    rfl
  have hcalls : (tokenEndpoint app.rules (inside frame) state).calls =
      (Recognition.reject (inside frame) "none" "missing_credentials").calls := by
    simp only [tokenEndpoint, hrequest, hform, hrecognition]
    rfl
  have hrecorded : Audit.recorded (app.service.serve frame state).logs =
      Audit.among (tokenEndpoint app.rules (inside frame) state).calls :=
    recorded_token app state rfl ⟨rfl, .inl rfl⟩
  rw [hcalls] at hrecorded
  exact ⟨_, hrecorded.trans (Recognition.among_audit _ _ _ _ _)⟩

/-- A canonical text stands for itself. A text has one exactly when it names an address, whichever
way this is written, and two texts have the same one exactly when they name the same address. The
audit events of a request, those that serving it leaves in the log among them, tell such a text or
null: that of the first address the request was forwarded for, if there is an address, and else that
of the peer. -/
theorem audited_addresses_are_canonical :
    (∀ shown text, canonical? shown = some text → canonical? text = some text) ∧
      (∀ shown text, canonical? shown = some text ↔ ∃ a, Address.Names shown a ∧ a.text = text) ∧
      (∀ one other a b, Address.Names one a → Address.Names other b →
        (canonical? one = canonical? other ↔ a = b)) ∧
      ∀ request : Request, ∃ sender, (∀ other, request.Sender other ↔ other = sender) ∧
        (∀ a ∈ sender, canonical? a.text = some a.text) ∧
        (∀ (event : Audit.Event) (noted : Option Json),
          (event.call request noted).fields.lookup "ip_address" =
            some (Json.ofText? (sender.map Address.text))) ∧
        ∀ (app : Application) (start : State Data) (steps : List Step) (fresh : Grant.Fresh)
          (seconds : Double),
          ∀ call ∈ Audit.recorded (app.serve request fresh seconds (app.run start steps)).logs,
            call.fields.lookup "ip_address" = some (Json.ofText? (sender.map Address.text)) := by
  refine ⟨fun _ _ h => canonical?_canonical h, fun _ _ => canonical?_eq_some_iff, ?_, ?_⟩
  · intro one other a b hone hother
    rw [canonical?_of_names hone, canonical?_of_names hother, Option.some_inj]
    exact ⟨hone.eq_of_text hother, congrArg Address.text⟩
  · intro request
    obtain ⟨sender, hsender⟩ := request.exists_sender
    have htold (event : Audit.Event) (noted : Option Json) :
        (event.call request noted).fields.lookup "ip_address" =
          some (Json.ofText? (sender.map Address.text)) := by
      rw [address_call, Request.auditedAddress_of_sender hsender]
    refine ⟨sender, fun other => ⟨fun h => h.unique hsender, fun h => h ▸ hsender⟩, ?_, htold, ?_⟩
    · intro a ha
      obtain ⟨shown, hname⟩ := hsender.named a ha
      exact canonical?_of_names hname.text
    · intro app start steps fresh seconds call hcall
      obtain ⟨event, rfl⟩ := exists_event_of_mem_recorded app _ hcall
      exact htold event _

/-- Two ways to write an address have one canonical text, which the audit event of a request that
was forwarded for this address tells. -/
theorem audited_addresses_are_canonical_demo :
    (∃ a, Address.Names "::FFFF:1.2.3.4" a ∧ Address.Names " 0:0:0:0:0:ffff:0102:0304\t" a ∧
        a.text = "::ffff:102:304") ∧
      canonical? "::ffff:102:304" = some "::ffff:102:304" ∧
      ∃ call, Audit.recorded (Application.standard.serve Demo.forwardedRequest Demo.fresh
          (.signedZero false) ⟨.empty, .empty⟩).logs = [call] ∧
        call.fields.lookup "ip_address" = some (.str "::ffff:102:304") := by
  obtain ⟨hfixed, hnamed, hsame, htold⟩ := audited_addresses_are_canonical
  have hshort : canonical? "::FFFF:1.2.3.4" = some "::ffff:102:304" := by rfl
  have hlong : canonical? " 0:0:0:0:0:ffff:0102:0304\t" = some "::ffff:102:304" := by rfl
  obtain ⟨a, ha, htext⟩ := (hnamed _ _).mp hshort
  obtain ⟨b, hb, -⟩ := (hnamed _ _).mp hlong
  obtain rfl := (hsame _ _ _ _ ha hb).mp (hshort.trans hlong.symm)
  refine ⟨⟨a, ha, hb, htext⟩, hfixed _ _ hshort, ?_⟩
  obtain ⟨call, hcall⟩ := recorded_forwardedRequest .standard Demo.fresh (.signedZero false)
    ⟨.empty, .empty⟩
  obtain ⟨sender, hsender, -, -, hserved⟩ := htold Demo.forwardedRequest
  have haddress : Demo.forwardedRequest.auditedAddress = some "::ffff:102:304" := by rfl
  rw [Request.auditedAddress_of_sender ((hsender sender).mpr rfl)] at haddress
  have hlookup := hserved .standard ⟨.empty, .empty⟩ [] Demo.fresh (.signedZero false)
  rw [Application.run_nil, hcall, haddress] at hlookup
  exact ⟨call, hcall, hlookup call List.mem_cons_self⟩

end TokenIssuer.Service
